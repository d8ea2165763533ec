import LivePages.Proofs.Text.Utf8
import LivePages.Text.Truncate

/-! Cutting a text to a number of octets. The cut is never refused, and it leaves the longest
beginning of the text that has no more octets than the limit. -/

namespace LivePages.Text

/-! ### The way back to a boundary -/

theorem isBoundary_iff {s : String} {i : Nat} :
    IsBoundary s i ↔ ∃ t r, s = t ++ r ∧ t.utf8ByteSize = i := by
  rw [IsBoundary, String.Pos.Raw.isValid_iff_exists_append]
  simp only [String.Pos.Raw.ext_iff, String.byteIdx_rawEndPos, eq_comm]

theorem boundaryBefore_le (s : String) (i : Nat) : boundaryBefore s i ≤ i := by
  induction i with
  | zero => exact Nat.le_refl 0
  | succ i ih =>
    rw [boundaryBefore]
    split
    · exact Nat.le_refl _
    · exact Nat.le_succ_of_le ih

/-- The way back passes by no boundary. -/
theorem le_boundaryBefore {s : String} {i j : Nat} (hj : IsBoundary s j) (h : j ≤ i) :
    j ≤ boundaryBefore s i := by
  induction i with
  | zero => exact h
  | succ i ih =>
    rw [boundaryBefore]
    split
    · exact h
    · rename_i hi
      have hne : j ≠ i + 1 := fun he => hi (he ▸ hj)
      exact ih (by omega)

theorem before?_eq_some_iff {s t : String} {i : Nat} :
    before? s i = some t ↔ (∃ r, s = t ++ r) ∧ t.utf8ByteSize = i := by
  rw [before?]
  split
  · rename_i hi
    have hsplits := String.Pos.splits ⟨⟨i⟩, hi⟩
    rw [Option.some_inj]
    constructor
    · rintro rfl
      exact ⟨⟨_, hsplits.eq_append⟩, (String.Pos.Raw.ext_iff.1 hsplits.offset_eq_rawEndPos).symm⟩
    · rintro ⟨⟨r, hr⟩, hsize⟩
      exact hsplits.eq_left ⟨hr, String.Pos.Raw.ext hsize.symm⟩
  · rename_i hi
    constructor
    · intro h
      cases h
    · rintro ⟨⟨r, hr⟩, hsize⟩
      exact absurd (isBoundary_iff.2 ⟨t, r, hr, hsize⟩) hi

/-! ### The longest beginning within a limit -/

/-- The text `t` is the longest beginning of `s` that has at most `limit` octets. A beginning is a
text itself, so it ends at a boundary. -/
structure IsLongest (limit : Nat) (s t : String) : Prop where
  begins : ∃ r, s = t ++ r
  size_le : t.utf8ByteSize ≤ limit
  longest : ∀ u r, s = u ++ r → u.utf8ByteSize ≤ limit → u.utf8ByteSize ≤ t.utf8ByteSize

variable {limit : Nat} {s t t' : String}

theorem isLongest_self (h : s.utf8ByteSize ≤ limit) : IsLongest limit s s where
  begins := ⟨"", String.append_empty.symm⟩
  size_le := h
  longest := by
    rintro u r rfl -
    rw [String.utf8ByteSize_append]
    exact Nat.le_add_right _ _

theorem isLongest_of_before? (h : before? s (boundaryBefore s limit) = some t) :
    IsLongest limit s t := by
  obtain ⟨hbegins, hsize⟩ := before?_eq_some_iff.1 h
  refine ⟨hbegins, hsize ▸ boundaryBefore_le s limit, fun u r hu hle => ?_⟩
  rw [hsize]
  exact le_boundaryBefore (isBoundary_iff.2 ⟨u, r, hu, rfl⟩) hle

theorem isLongest_truncate (limit : Nat) (s : String) : IsLongest limit s (truncate limit s) := by
  have h := truncate?_eq_some limit s
  rw [truncate?] at h
  split at h
  · rename_i hle
    rw [← Option.some_inj.1 h]
    exact isLongest_self hle
  · exact isLongest_of_before? h

namespace IsLongest

theorem unique (h : IsLongest limit s t) (h' : IsLongest limit s t') : t = t' := by
  obtain ⟨r, hr⟩ := h.begins
  obtain ⟨r', hr'⟩ := h'.begins
  have hsize : t.utf8ByteSize = t'.utf8ByteSize :=
    Nat.le_antisymm (h'.longest t r hr h.size_le) (h.longest t' r' hr' h'.size_le)
  have ht : before? s t'.utf8ByteSize = some t := before?_eq_some_iff.2 ⟨h.begins, hsize⟩
  have ht' : before? s t'.utf8ByteSize = some t' := before?_eq_some_iff.2 ⟨h'.begins, rfl⟩
  exact Option.some_inj.1 (ht.symm.trans ht')

theorem eq_self_iff (h : IsLongest limit s t) : t = s ↔ s.utf8ByteSize ≤ limit := by
  constructor
  · rintro rfl
    exact h.size_le
  · exact fun hs => h.unique (isLongest_self hs)

/-- What is left out begins with a character that does not fit, and no character has more than four
octets. -/
theorem lt_add_four (h : IsLongest limit s t) (hs : limit < s.utf8ByteSize) :
    limit < t.utf8ByteSize + 4 := by
  obtain ⟨r, hr⟩ := h.begins
  obtain ⟨l, rfl⟩ := r.exists_eq_ofList
  cases l with
  | nil =>
    have hts : t = s := by rw [hr, String.ofList_nil, String.append_empty]
    have := h.eq_self_iff.1 hts
    omega
  | cons c l =>
    have hnext : s = t.push c ++ String.ofList l := by
      rw [hr, ← List.singleton_append, String.ofList_append, ← String.append_assoc,
        String.push_eq_append, String.singleton_eq_ofList]
    have hsize : (t.push c).utf8ByteSize = t.utf8ByteSize + c.utf8Size := String.utf8ByteSize_push
    have hc := c.utf8Size_le_four
    have hpos := c.utf8Size_pos
    refine Nat.lt_of_not_le fun hlimit => ?_
    have := h.longest _ _ hnext (by omega)
    omega

/-- The octets up to the cut are well-formed, and they are those of what is left. -/
theorem decode?_take (h : IsLongest limit s t) :
    Utf8.decode? ((Utf8.encode s.toList).take t.utf8ByteSize) = some t.toList := by
  obtain ⟨r, rfl⟩ := h.begins
  rw [String.toList_append, Utf8.encode_append, ← Utf8.length_encode_toList, List.take_left]
  exact Utf8.decode?_encode t.toList

end IsLongest

theorem truncate?_eq_some_iff : truncate? limit s = some t ↔ IsLongest limit s t := by
  rw [truncate?_eq_some, Option.some_inj]
  constructor
  · rintro rfl
    exact isLongest_truncate limit s
  · exact (isLongest_truncate limit s).unique

example : truncate 3 "a你b" = "a" := by decide

end LivePages.Text
