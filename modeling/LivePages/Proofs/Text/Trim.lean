import Mathlib.Data.List.DropRight
import LivePages.Text.Blank

/-! Trimming. What is left of a text neither begins nor ends with a blank, and only blanks were taken
off; nothing else can be left. -/

namespace LivePages.Text

/-- What is left when a list is cut from its end does not end in what is cut off. -/
theorem last_rdropWhile {α : Type} {p : α → Bool} {l : List α} {a : α}
    (h : a ∈ (l.rdropWhile p).getLast?) : p a = false := by
  have hne := List.ne_nil_of_mem (List.mem_of_getLast? h)
  have hlast := List.rdropWhile_last_not p l hne
  rw [List.getLast?_eq_getLast_of_ne_nil hne, Option.mem_some] at h
  simpa [h] using hlast

theorem rdropWhile_append_of_pos {α : Type} {p : α → Bool} {s t : List α}
    (ht : ∀ a ∈ t, p a = true) : (s ++ t).rdropWhile p = s.rdropWhile p := by
  rw [List.rdropWhile, List.reverse_append, List.dropWhile_append_of_pos, List.rdropWhile]
  exact fun a ha => ht a (List.mem_reverse.1 ha)

def AllBlank (s : List Char) : Prop :=
  ∀ c ∈ s, isBlank c = true

instance (s : List Char) : Decidable (AllBlank s) :=
  decidable_of_iff (s.all isBlank = true) List.all_eq_true

/-- No blank stands at either end. -/
structure HasNoMargin (s : List Char) : Prop where
  left : ∀ c ∈ s.head?, isBlank c = false
  right : ∀ c ∈ s.getLast?, isBlank c = false

theorem AllBlank.append {s t : List Char} (hs : AllBlank s) (ht : AllBlank t) : AllBlank (s ++ t) :=
  List.forall_mem_append.2 ⟨hs, ht⟩

theorem toList_trim (s : String) :
    (trim s).toList = (s.toList.dropWhile isBlank).rdropWhile isBlank :=
  String.toList_ofList

theorem dropWhile_eq_self_of_head? {s t : List Char} (hs : s ≠ [])
    (h : ∀ c ∈ s.head?, isBlank c = false) : (s ++ t).dropWhile isBlank = s ++ t := by
  obtain ⟨c, r, rfl⟩ := List.exists_cons_of_ne_nil hs
  exact List.dropWhile_cons_of_neg (by simp [h c rfl])

theorem hasNoMargin_append {s t : List Char} (hs : ∀ c ∈ s, isBlank c = false) (hne : s ≠ [])
    (ht : ∀ c ∈ t.getLast?, isBlank c = false) : HasNoMargin (s ++ t) := by
  refine ⟨fun c hc => hs c (List.mem_of_head? ?_), fun c hc => ?_⟩
  · rwa [List.head?_append_of_ne_nil s hne] at hc
  · rw [List.getLast?_append, Option.mem_def, Option.or_eq_some_iff] at hc
    rcases hc with hc | ⟨-, hc⟩
    · exact ht c hc
    · exact hs c (List.mem_of_getLast? hc)

theorem hasNoMargin_trim (s : String) : HasNoMargin (trim s).toList := by
  rw [toList_trim]
  refine ⟨fun c hc => ?_, fun _ => last_rdropWhile⟩
  obtain ⟨r, hr⟩ := List.head?_eq_some_iff.1 hc
  obtain ⟨t, ht⟩ := List.rdropWhile_prefix isBlank (s.toList.dropWhile isBlank)
  rw [hr] at ht
  have hfirst := List.head_dropWhile_not isBlank (l := s.toList) (by simp [← ht])
  simpa [← ht] using hfirst

/-- The trimmed text is what stands without margin between blanks. -/
theorem toList_trim_eq_iff {s : String} {t : List Char} :
    (trim s).toList = t ↔
      ∃ before after, s.toList = before ++ t ++ after ∧ AllBlank before ∧ AllBlank after ∧
        HasNoMargin t := by
  constructor
  · rintro rfl
    refine ⟨s.toList.takeWhile isBlank, (s.toList.dropWhile isBlank).rtakeWhile isBlank, ?_,
      fun c hc => List.mem_takeWhile_imp hc, fun c hc => List.mem_rtakeWhile_imp hc,
      hasNoMargin_trim s⟩
    rw [toList_trim, List.append_assoc, List.rdropWhile_append_rtakeWhile,
      List.takeWhile_append_dropWhile]
  · rintro ⟨before, after, hs, hbefore, hafter, hleft, hright⟩
    rw [toList_trim, hs, List.append_assoc, List.dropWhile_append_of_pos hbefore]
    by_cases ht : t = []
    · subst ht
      rw [List.nil_append, List.dropWhile_eq_nil_iff.2 hafter]
      rfl
    · rw [dropWhile_eq_self_of_head? ht hleft, rdropWhile_append_of_pos hafter,
        List.rdropWhile_eq_self_iff]
      intro hne
      simpa using hright _ (List.getLast?_eq_getLast_of_ne_nil hne)

theorem trim_eq_self_iff {s : String} : trim s = s ↔ HasNoMargin s.toList := by
  constructor
  · intro h
    rw [← h]
    exact hasNoMargin_trim s
  · intro h
    rw [← String.toList_inj]
    exact toList_trim_eq_iff.2 ⟨[], [], by simp, List.forall_mem_nil _, List.forall_mem_nil _, h⟩

/-- Blanks around a text make no difference. -/
theorem trim_surrounded {before after s : String} (hbefore : AllBlank before.toList)
    (hafter : AllBlank after.toList) : trim (before ++ s ++ after) = trim s := by
  obtain ⟨u, v, hs, hu, hv, ht⟩ := toList_trim_eq_iff.1 (rfl : (trim s).toList = _)
  rw [← String.toList_inj]
  refine toList_trim_eq_iff.2 ⟨before.toList ++ u, v ++ after.toList, ?_, hbefore.append hu,
    hv.append hafter, ht⟩
  rw [String.toList_append, String.toList_append, hs]
  simp only [List.append_assoc]

end LivePages.Text
