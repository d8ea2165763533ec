import Mathlib.Data.List.Sort
import Mathlib.Data.String.Basic
import LivePages.Edition.Basic

/-! Lists in the order of names, each name once: the sources of an engine and the pages of an
edition. What is put there replaces what has its name and leaves everything else. -/

namespace LivePages

section Named

variable {α : Type} {name : α → String}

/-- Adds or replaces the element of its name. -/
def insertNamed (name : α → String) (a : α) : List α → List α
  | [] => [a]
  | b :: r =>
    if name a = name b then a :: r
    else if name a < name b then a :: b :: r
    else b :: insertNamed name a r

def IsOrdered (name : α → String) (l : List α) : Prop :=
  l.Pairwise fun a b => name a < name b

theorem isOrdered_nil : IsOrdered name [] :=
  List.Pairwise.nil

/-- What is put is found under its name, and everything else as before. -/
theorem find?_insertNamed (a : α) (n : String) (l : List α) :
    (insertNamed name a l).find? (name · = n) =
      if name a = n then some a else l.find? (name · = n) := by
  induction l with
  | nil =>
    rw [insertNamed, List.find?_cons, List.find?_nil]
    by_cases hn : name a = n <;> simp [hn]
  | cons b r ih =>
    rw [insertNamed]
    by_cases hab : name a = name b
    · rw [if_pos hab, List.find?_cons, List.find?_cons, ← hab]
      by_cases hn : name a = n <;> simp [hn]
    by_cases hlt : name a < name b
    · rw [if_neg hab, if_pos hlt, List.find?_cons]
      by_cases hn : name a = n <;> simp [hn]
    · rw [if_neg hab, if_neg hlt, List.find?_cons, ih, List.find?_cons]
      by_cases hn : name b = n
      · have ha : name a ≠ n := fun ha => hab (ha.trans hn.symm)
        simp [hn, ha]
      · simp [hn]

theorem mem_insertNamed {l : List α} {a b : α} (h : b ∈ insertNamed name a l) : b = a ∨ b ∈ l := by
  induction l with
  | nil => exact .inl (List.mem_singleton.1 h)
  | cons c r ih =>
    rw [insertNamed] at h
    split_ifs at h
    · rcases List.mem_cons.1 h with hb | hb
      · exact .inl hb
      · exact .inr (List.mem_cons_of_mem _ hb)
    · exact List.mem_cons.1 h
    · rcases List.mem_cons.1 h with hb | hb
      · exact .inr (hb ▸ List.mem_cons_self)
      · exact (ih hb).imp_right (List.mem_cons_of_mem _)

theorem IsOrdered.insertNamed {l : List α} (h : IsOrdered name l) (a : α) :
    IsOrdered name (insertNamed name a l) := by
  induction l with
  | nil => exact List.pairwise_singleton _ _
  | cons b r ih =>
    obtain ⟨hb, hr⟩ := List.pairwise_cons.1 h
    rw [LivePages.insertNamed]
    split_ifs with hab hlt
    · exact List.pairwise_cons.2 ⟨fun c hc => hab ▸ hb c hc, hr⟩
    · refine List.pairwise_cons.2 ⟨fun c hc => ?_, h⟩
      rcases List.mem_cons.1 hc with rfl | hc
      · exact hlt
      · exact hlt.trans (hb c hc)
    · refine List.pairwise_cons.2 ⟨fun c hc => ?_, ih hr⟩
      rcases mem_insertNamed hc with rfl | hc
      · exact lt_of_le_of_ne (not_lt.1 hlt) (Ne.symm hab)
      · exact hb c hc

theorem mem_map_insertNamed {l : List α} (a : α) (n : String) :
    n ∈ (insertNamed name a l).map name ↔ n = name a ∨ n ∈ l.map name := by
  induction l with
  | nil => simp [insertNamed]
  | cons b r ih =>
    rw [insertNamed]
    split_ifs with hab
    · simp [hab]
    · simp
    · rw [List.map_cons, List.mem_cons, ih, List.map_cons, List.mem_cons]
      exact or_left_comm

theorem perm_insertNamed {l : List α} {a : α} (h : name a ∉ l.map name) :
    (insertNamed name a l).Perm (a :: l) := by
  induction l with
  | nil => exact .refl _
  | cons b r ih =>
    rw [List.map_cons, List.mem_cons, not_or] at h
    rw [insertNamed, if_neg h.1]
    split_ifs
    · exact .refl _
    · exact ((ih h.2).cons b).trans (.swap a b r)

/-- What alone has its name is found under it. -/
theorem find?_of_unique {l : List α} {a : α} (ha : a ∈ l) (h : ∀ b ∈ l, name b = name a → b = a) :
    l.find? (name · = name a) = some a := by
  obtain ⟨b, hb⟩ : ∃ b, l.find? (name · = name a) = some b :=
    Option.isSome_iff_exists.1 (List.find?_isSome.2 ⟨a, ha, by simp⟩)
  rw [hb, h b (List.mem_of_find?_eq_some hb) (by simpa using List.find?_some hb)]

/-- The names and what stands under each make up an ordered list. -/
theorem IsOrdered.eq_of_mem_iff {l m : List α} (hl : IsOrdered name l) (hm : IsOrdered name m)
    (h : ∀ a, a ∈ l ↔ a ∈ m) : l = m := by
  have hirrefl : Std.Irrefl fun a b : α => name a < name b := ⟨fun a => lt_irrefl _⟩
  have hantisymm : Std.Antisymm fun a b : α => name a < name b :=
    ⟨fun a b hab hba => absurd hba hab.asymm⟩
  exact List.Pairwise.eq_of_mem_iff hl hm h

end Named

theorem Template.putSource_eq (t : Template.Source) (l : List Template.Source) :
    Template.putSource t l = insertNamed Template.Source.name t l := by
  induction l with
  | nil => rfl
  | cons u r ih => rw [Template.putSource, insertNamed, ih]

theorem Edition.putPage_eq (p : Page) (l : List Page) :
    Edition.putPage p l = insertNamed Page.name p l := by
  induction l with
  | nil => rfl
  | cons q r ih => rw [Edition.putPage, insertNamed, ih]

end LivePages
