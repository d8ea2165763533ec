import LivePages.Package.Helpers
import LivePages.Proofs.Template.Handing

/-! The helpers in a page. None of them ever fails, whatever it is handed and whatever the lookups say;
what the page hands over has to be there, though. -/

namespace LivePages.Helpers

open Template (Engine Fault Handing IsGiven)

/-- The filter or function is one of the helpers. -/
def IsHelped : Handing → Prop
  | .filter _ f => f ∈ ["markdown", "reversed", "url_escape"]
  | .call f _ =>
    f ∈ ["package_manifest_url", "is_upgradable", "is_repo_status_ready", "auto_update_enabled",
      "is_suspended"]

instance : (h : Handing) → Decidable (IsHelped h)
  | .filter _ f => inferInstanceAs (Decidable (f ∈ _))
  | .call f _ => inferInstanceAs (Decidable (f ∈ _))

variable {h : Handing}

/-- A helper gives a value for everything, with any lookups. -/
theorem isTotal_of_isHelped (hh : IsHelped h) (l : Lookups) : h.IsTotal (library l) := by
  cases h with
  | filter x f =>
    simp only [IsHelped, List.mem_cons, List.not_mem_nil, or_false] at hh
    rcases hh with rfl | rfl | rfl
    · exact ⟨by decide, _, rfl, fun v args => ⟨_, rfl⟩⟩
    · exact ⟨by decide, _, rfl, fun v args => ⟨_, rfl⟩⟩
    · exact ⟨by decide, _, rfl, fun v args => ⟨_, rfl⟩⟩
  | call f args =>
    simp only [IsHelped, List.mem_cons, List.not_mem_nil, or_false] at hh
    rcases hh with rfl | rfl | rfl | rfl | rfl
    · exact ⟨_, rfl, fun args => ⟨_, rfl⟩⟩
    · exact ⟨_, rfl, fun args => ⟨_, rfl⟩⟩
    · exact ⟨_, rfl, fun args => ⟨_, rfl⟩⟩
    · exact ⟨_, rfl, fun args => ⟨_, rfl⟩⟩
    · exact ⟨_, rfl, fun args => ⟨_, rfl⟩⟩

/-- A page that hands variables to a helper renders just when all of them are given; otherwise it
fails before the helper is asked. -/
theorem renders_iff_given (l : Lookups) (h : Handing) (hhelped : IsHelped h)
    (hreadable : h.IsReadable) (name : String) (data : Json.Fields) :
    ∃ e, (Engine.empty (library l)).add [(name, h.text)] = .ok e ∧
      ((∃ html, e.render name (.obj data) = .ok html) ↔ ∀ x ∈ h.handed, IsGiven data x) ∧
      ∀ f, e.render name (.obj data) = .error f → ∃ x ∈ h.handed, ¬ IsGiven data x ∧ ∃ scene,
        f = .failed scene (h.wrap (.unknownPath x name)) := by
  refine ⟨_, Template.add_handing hreadable (library l) name, ?_⟩
  rcases Template.render_handing hreadable (isTotal_of_isHelped hhelped l) name data with
    ⟨⟨html, hhtml⟩, hgiven⟩ | ⟨x, hx, hmissing, scene, herror⟩
  · refine ⟨iff_of_true ⟨html, hhtml⟩ hgiven, fun f hf => ?_⟩
    rw [hhtml] at hf
    cases hf
  · refine ⟨iff_of_false ?_ fun hgiven => hmissing (hgiven x hx), fun f hf => ?_⟩
    · rintro ⟨html, hhtml⟩
      rw [herror] at hhtml
      cases hhtml
    · rw [herror] at hf
      cases hf
      exact ⟨x, hx, hmissing, scene, rfl⟩

/-- Two values that are no versions are handed over while every lookup fails. -/
theorem renders_iff_given_upgradable :
    ∃ e html, (Engine.empty (library (.failing "down"))).add
        [("t.html", "\x7b\x7b is_upgradable(current=x, latest=y) \x7d\x7d")] = .ok e ∧
      e.render "t.html" (.obj [("x", .null), ("y", .arr [])]) = .ok html := by
  obtain ⟨e, hadd, hiff, -⟩ := renders_iff_given (.failing "down")
    (.call "is_upgradable" [("current", "x"), ("latest", "y")]) (by decide)
    ⟨by decide, List.forall_mem_cons.2 ⟨by decide, List.forall_mem_singleton.2 (by decide)⟩⟩ "t.html"
    [("x", .null), ("y", .arr [])]
  obtain ⟨html, hhtml⟩ := hiff.2
    (List.forall_mem_cons.2 ⟨.inr rfl, List.forall_mem_singleton.2 (.inr rfl)⟩)
  exact ⟨e, html, hadd, hhtml⟩

/-- The filter would give the empty text for nothing, but nothing is never handed to it. -/
theorem missing_variable_fails :
    ∃ e, (Engine.empty (library (.failing "down"))).add
        [("t.html", "\x7b\x7b x | markdown \x7d\x7d")] = .ok e ∧
      ∀ html, e.render "t.html" (.obj []) ≠ .ok html := by
  have hreadable : (Handing.filter "x" "markdown").IsReadable :=
    ⟨by decide, by decide, by decide⟩
  refine ⟨_, Template.add_handing hreadable _ "t.html", fun html hhtml => ?_⟩
  rcases Template.render_handing hreadable (isTotal_of_isHelped (by decide) (.failing "down")) "t.html"
    [] with ⟨-, hgiven⟩ | ⟨x, -, -, scene, herror⟩
  · rcases hgiven "x" (List.mem_singleton_self _) with hdump | hfield
    · exact absurd hdump (by decide)
    · cases hfield
  · rw [herror] at hhtml
    cases hhtml

end LivePages.Helpers
