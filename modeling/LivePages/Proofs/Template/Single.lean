import LivePages.Template.Engine

/-! An engine with one template. Nothing that the template extends or imports is there, but for
itself. -/

namespace LivePages.Template

/-- What an engine finds wrong with `t` when it holds nothing else. -/
def Source.lacks? (t : Source) : Option Fault :=
  match t.parent with
  | some p =>
    some (if p = t.name then .circularParents t.name [t.name] else .missingParent t.name p)
  | none => (t.imports.find? (·.1 ≠ t.name)).map fun i => .missingImport t.name i.1

/-- Alone, a template lacks nothing just when it extends none and imports at most itself. What it
includes is not looked up. -/
theorem Source.lacks?_eq_none_iff {t : Source} :
    t.lacks? = none ↔ t.parent = none ∧ ∀ i ∈ t.imports, i.1 = t.name := by
  unfold Source.lacks?
  cases t.parent with
  | some p => simp
  | none => simp [List.find?_eq_none]

section Check

variable {library : Library} {t : Source}

theorem find?_single (n : String) :
    (⟨library, [t]⟩ : Engine).find? n = if n = t.name then some t else none := by
  by_cases hn : n = t.name <;> simp [Engine.find?, eq_comm, hn]

theorem ancestors_single :
    (⟨library, [t]⟩ : Engine).ancestors t = t.parent.elim (.ok []) fun p => .error
      (if p = t.name then .circularParents t.name [t.name] else .missingParent t.name p) := by
  rw [Engine.ancestors, List.length_singleton, Engine.climb]
  cases t.parent with
  | none => rfl
  | some p =>
    by_cases hp : p = t.name
    · simp [find?_single, hp, Engine.climb]
    · simp [find?_single, hp]

theorem checkImports_single :
    (⟨library, [t]⟩ : Engine).checkImports t =
      ((t.imports.find? (·.1 ≠ t.name)).map fun i => Fault.missingImport t.name i.1).elim
        (.ok ()) .error := by
  rw [Engine.checkImports, List.forM_eq_forM]
  induction t.imports with
  | nil => rfl
  | cons i r ih =>
    obtain ⟨file, as⟩ := i
    rw [List.forM_cons, ih]
    dsimp only
    rw [find?_single]
    by_cases hi : file = t.name
    · rw [if_pos hi, List.find?_cons_of_neg (by simpa using hi)]
      rfl
    · rw [if_neg hi, List.find?_cons_of_pos (by simpa using hi)]
      rfl

theorem check_single :
    (⟨library, [t]⟩ : Engine).check = t.lacks?.elim (.ok ()) .error := by
  simp only [Engine.check, List.forM_eq_forM, List.forM_cons, List.forM_nil, bind_pure_unit,
    ancestors_single, checkImports_single, Source.lacks?]
  cases t.parent with
  | none => rfl
  | some p => rfl

theorem put_single {name text : String} (h : Source.read name text = .ok t) :
    (Engine.empty library).put [(name, text)] = .ok ⟨library, [t]⟩ := by
  rw [Engine.put, h]
  rfl

theorem add_single {name text : String} (h : Source.read name text = .ok t) :
    (Engine.empty library).add [(name, text)] = t.lacks?.elim (.ok ⟨library, [t]⟩) .error := by
  rw [Engine.add, put_single h]
  change ((⟨library, [t]⟩ : Engine).check >>= fun _ => pure _) = _
  rw [check_single]
  cases t.lacks? with
  | none => rfl
  | some f => rfl

end Check

end LivePages.Template
