import LivePages.Proofs.Edition.Entries
import LivePages.Proofs.Publisher.Overlap

/-! What the check of the sources tells, and what is published of sources that pass it, however
compiles overlap and the disk changes. -/

namespace LivePages.Overlap.Site

open Config (Sources FirstViolation)
open Edition (IsFull homeDisk)

variable {s : Site} {sources : Sources} {c : Compile} {own result : Edition}

theorem Consistent.full_of_own (h : s.Consistent) (hsources : s.publisher.sources = sources)
    (hsound : sources.IsSound) (hc : c ∈ s.compiles) (hown : c.phase.own? = some own) :
    IsFull sources own := by
  subst hsources
  obtain ⟨result, hp⟩ := published_of_own hown
  have hcourse := (h.sound c hc).course
  rw [hp] at hcourse
  exact (Edition.gives_full hsound c.ticket).reaches hcourse own rfl

/-- What a compile gives is its own edition or a newer one, and never the empty one. -/
theorem Consistent.full_of_result (h : s.Consistent) (hsources : s.publisher.sources = sources)
    (hsound : sources.IsSound) (hc : c ∈ s.compiles) (hp : c.phase = .published own result) :
    IsFull sources result := by
  obtain ⟨hout, rfl | hlt⟩ := (h.sound c hc).result own result hp
  · exact h.full_of_own hsources hsound hc (congrArg Phase.own? hp)
  · rcases hout with rfl | ⟨c', hc', hown⟩
    · exact absurd hlt (Nat.not_lt_zero _)
    · exact h.full_of_own hsources hsound hc' hown

/-- Sources pass the check just when they are sound, otherwise the first violation is told; what is
published of sound ones has every page once. -/
theorem first_violation_is_told (sources : Sources) :
    (sources.check = .ok () ↔ sources.IsSound) ∧
      (∀ f, sources.check = .error f ↔ FirstViolation sources f) ∧
      (sources.check = .ok () → ∀ library d actions,
        ∀ c ∈ ((Site.new sources library d).run actions).compiles, ∀ own result,
          c.phase = .published own result → IsFull sources own ∧ IsFull sources result) := by
  refine ⟨Sources.check_eq_ok_iff, fun f => Sources.check_eq_error_iff, ?_⟩
  intro hcheck library d actions c hc own result hp
  have h := (consistent_new sources library d).run actions
  have hsources := congrArg Prod.fst (origin_run (Site.new sources library d) actions)
  have hsound := Sources.check_eq_ok_iff.1 hcheck
  exact ⟨h.full_of_own hsources hsound hc (congrArg Phase.own? hp),
    h.full_of_result hsources hsound hc hp⟩

/-- A layout, a page and a component. -/
def toastSources : Sources :=
  ⟨"t", "frame", ["home"], [⟨"toast", []⟩]⟩

/-- Two compiles, of which the older ends last, after a change of the disk. -/
def toastSite : Site :=
  (Site.new toastSources ⟨fun _ => none, fun _ => none, fun _ => none⟩ (homeDisk "a")).run
    ([.start, .start] ++ List.replicate 5 (.advance 1) ++ .edit (homeDisk "b") ::
      List.replicate 5 (.advance 0))

/-- What the older compile has built and what it gives are both full. -/
theorem first_violation_is_told_toast :
    toastSources.check = .ok () ∧
      ∃ c ∈ toastSite.compiles, ∃ own result, c.phase = .published own result ∧
        IsFull toastSources own ∧ IsFull toastSources result := by
  obtain ⟨own, hown⟩ := Option.isSome_iff_exists.1
    (show (toastSite.compiles.head?.bind (·.phase.own?)).isSome by decide +kernel)
  obtain ⟨c, hc, hown⟩ := Option.bind_eq_some_iff.1 hown
  obtain ⟨result, hp⟩ := published_of_own hown
  have hmem := List.mem_of_head? hc
  have hcheck : toastSources.check = .ok () := rfl
  have hfull := (first_violation_is_told toastSources).2.2 hcheck _ _ _ c hmem own result hp
  exact ⟨hcheck, c, hmem, own, result, hp, hfull⟩

end LivePages.Overlap.Site
