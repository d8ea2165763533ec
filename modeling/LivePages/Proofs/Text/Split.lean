import LivePages.Text.Blank

/-! Text cut at a separator: there is always a part, and text without the separator is one. A reader
takes what its test allows, up to what may follow. -/

namespace LivePages.Text

theorem splitOn_ne_nil (sep : Char) (a : List Char) : splitOn sep a ≠ [] := by
  cases a with
  | nil => exact List.cons_ne_nil _ _
  | cons c r =>
    rw [splitOn]
    split
    · exact List.cons_ne_nil _ _
    · split <;> exact List.cons_ne_nil _ _

theorem splitOn_eq_cons (sep : Char) (a : List Char) : ∃ p ps, splitOn sep a = p :: ps :=
  List.exists_cons_of_ne_nil (splitOn_ne_nil sep a)

theorem splitOn_append_cons (sep : Char) (a b : List Char) :
    splitOn sep (a ++ sep :: b) = splitOn sep a ++ splitOn sep b := by
  induction a with
  | nil => simp [splitOn]
  | cons c r ih =>
    rw [List.cons_append, splitOn, splitOn, ih]
    by_cases hc : c = sep
    · rw [if_pos hc, if_pos hc, List.cons_append]
    · rw [if_neg hc, if_neg hc]
      cases hr : splitOn sep r with
      | nil => exact absurd hr (splitOn_ne_nil sep r)
      | cons p ps => rfl

/-- What stands before the first separator belongs to the first part. -/
theorem splitOn_append {sep : Char} {a s p : List Char} {ps : List (List Char)} (ha : sep ∉ a)
    (hs : splitOn sep s = p :: ps) : splitOn sep (a ++ s) = (a ++ p) :: ps := by
  induction a with
  | nil => exact hs
  | cons c r ih =>
    rw [List.mem_cons, not_or] at ha
    rw [List.cons_append, splitOn, if_neg (Ne.symm ha.1), ih ha.2]
    rfl

theorem splitOn_of_not_mem {sep : Char} {a : List Char} (h : sep ∉ a) : splitOn sep a = [a] := by
  simpa using splitOn_append h (rfl : splitOn sep [] = [[]])

theorem splitOn_eq (sep : Char) (s : List Char) : splitOn sep s = s.splitOn sep := by
  induction s with
  | nil => rfl
  | cons c r ih =>
    rw [splitOn, List.splitOn, List.splitOnP_cons_eq_if_modifyHead, ← List.splitOn, ← ih]
    by_cases hc : c = sep
    · rw [if_pos hc, if_pos (by simpa using hc)]
    · rw [if_neg hc, if_neg (by simpa using hc)]
      obtain ⟨p, ps, hr⟩ := splitOn_eq_cons sep r
      rw [hr]
      rfl

/-- Parts without the separator are read back from what is written with it between them. -/
theorem splitOn_intercalate {sep : Char} {parts : List (List Char)} (h : ∀ p ∈ parts, sep ∉ p)
    (hne : parts ≠ []) : splitOn sep ([sep].intercalate parts) = parts := by
  rw [splitOn_eq, List.splitOn_intercalate sep h hne]

theorem not_mem_intercalate {c sep : Char} (hsep : c ≠ sep) {parts : List (List Char)}
    (h : ∀ p ∈ parts, c ∉ p) : c ∉ [sep].intercalate parts := by
  induction parts with
  | nil => exact List.not_mem_nil
  | cons p r ih =>
    obtain ⟨hp, hr⟩ := List.forall_mem_cons.1 h
    cases r with
    | nil => rwa [List.intercalate_singleton]
    | cons q t =>
      rw [List.intercalate_cons_cons, List.mem_append, List.mem_append, List.mem_singleton, or_assoc]
      exact not_or.2 ⟨hp, not_or.2 ⟨hsep, ih hr⟩⟩

/-- The test that a reader up to a separator makes. -/
theorem bne_of_not_mem {sep : Char} {s : List Char} (h : sep ∉ s) : ∀ c ∈ s, (c != sep) = true := by
  intro c hc
  rw [bne_iff_ne]
  rintro rfl
  exact h hc

variable {p : Char → Bool} {x rest : List Char}

theorem takeWhile_append_rest (hx : ∀ c ∈ x, p c = true) (hrest : ∀ c ∈ rest.head?, p c = false) :
    (x ++ rest).takeWhile p = x := by
  rw [List.takeWhile_append_of_pos hx]
  cases rest with
  | nil => exact List.append_nil x
  | cons c r => rw [List.takeWhile_cons_of_neg (by simp [hrest c rfl]), List.append_nil]

theorem dropWhile_append_rest (hx : ∀ c ∈ x, p c = true) (hrest : ∀ c ∈ rest.head?, p c = false) :
    (x ++ rest).dropWhile p = rest := by
  rw [List.dropWhile_append_of_pos hx]
  cases rest with
  | nil => rfl
  | cons c r => rw [List.dropWhile_cons_of_neg (by simp [hrest c rfl])]

end LivePages.Text
