import LivePages.Text.Utf8

/-! UTF-8 as a code: what is encoded is decoded to the same characters, nothing else is decoded, and
decoding that never fails agrees with decoding that may. -/

namespace LivePages.Text.Utf8

/-! ### Octets of one character -/

theorem octets_eq_utf8EncodeChar (c : Char) : octets c = String.utf8EncodeChar c := by
  have hn : c.toNat < 0x110000 := by
    rcases c.valid with h | h
    · exact Nat.lt_trans h (by decide)
    · exact h.2
  have hv : c.val.toNat = c.toNat := rfl
  simp only [octets, String.utf8EncodeChar, Nat.toUInt8_eq, hv]
  generalize c.toNat = n at hn
  by_cases h1 : n < 0x80
  · rw [if_pos h1, if_pos (by omega)]
  rw [if_neg h1, if_neg (by omega : ¬ n ≤ 0x7F)]
  by_cases h2 : n < 0x800
  · rw [if_pos h2, if_pos (by omega), Nat.mod_eq_of_lt (by omega : n / 64 < 32), Nat.add_comm 0xC0,
      Nat.add_comm 0x80]
  rw [if_neg h2, if_neg (by omega : ¬ n ≤ 0x7FF)]
  by_cases h3 : n < 0x10000
  · rw [if_pos h3, if_pos (by omega), Nat.mod_eq_of_lt (by omega : n / 4096 < 16), Nat.add_comm 0xE0,
      Nat.add_comm 0x80, Nat.add_comm 0x80]
  · rw [if_neg h3, if_neg (by omega), Nat.mod_eq_of_lt (by omega : n / 262144 < 8),
      Nat.add_comm 0xF0, Nat.add_comm 0x80, Nat.add_comm 0x80, Nat.add_comm 0x80]

theorem toByteArray_encode (s : List Char) : (encode s).toByteArray = s.utf8Encode := by
  rw [encode, List.utf8Encode]
  congr 2
  funext c
  exact octets_eq_utf8EncodeChar c

theorem encode_cons (c : Char) (s : List Char) : encode (c :: s) = octets c ++ encode s :=
  List.flatMap_cons

theorem encode_append (s t : List Char) : encode (s ++ t) = encode s ++ encode t :=
  List.flatMap_append

theorem length_encode_toList (s : String) : (encode s.toList).length = s.utf8ByteSize := by
  rw [← List.size_toByteArray, toByteArray_encode, String.utf8Encode_toList,
    String.size_toByteArray]

/-! ### The machine, octet by octet -/

theorem toNat_toUInt8 {n : Nat} (h : n < 256) : n.toUInt8.toNat = n :=
  UInt8.toNat_ofNat_of_lt h

theorem toNat_ofNat {n : Nat} (h : n.isValidChar) : (Char.ofNat n).toNat = n := by
  rw [Char.ofNat, dif_pos h]
  rfl

theorem eq_toUInt8 {b : UInt8} {n : Nat} (h : b.toNat = n) : b = n.toUInt8 := by
  rw [← h]
  exact (UInt8.ofNat_toNat).symm

theorem start_one {n : Nat} (h : n < 0x80) : start n.toUInt8 = .done (Char.ofNat n) := by
  simp only [start, toNat_toUInt8 (by omega : n < 256), if_pos h]

/-- The first of two octets. -/
theorem start_two {k : Nat} (h : 2 ≤ k) (hk : k < 32) :
    start (0xC0 + k).toUInt8 = .more ⟨1, k, 0x80, 0xBF⟩ := by
  simp only [start, toNat_toUInt8 (by omega : 0xC0 + k < 256)]
  rw [if_neg (by omega), if_neg (by omega), if_pos (by omega), Nat.add_sub_cancel_left]

/-- The bounds of the octet after the first of three. -/
def threeBounds (k : Nat) : Nat × Nat :=
  (if k = 0 then 0xA0 else 0x80, if k = 0xD then 0x9F else 0xBF)

theorem start_three {k : Nat} (hk : k < 16) :
    start (0xE0 + k).toUInt8 = .more ⟨2, k, (threeBounds k).1, (threeBounds k).2⟩ := by
  simp only [start, toNat_toUInt8 (by omega : 0xE0 + k < 256)]
  rw [if_neg (by omega), if_neg (by omega), if_neg (by omega)]
  split
  · obtain rfl : k = 0 := by omega
    rfl
  split
  · obtain rfl : k = 0xD := by omega
    rfl
  · rw [if_pos (by omega), Nat.add_sub_cancel_left, threeBounds, if_neg (by omega),
      if_neg (by omega)]

/-- The bounds of the octet after the first of four. -/
def fourBounds (k : Nat) : Nat × Nat :=
  (if k = 0 then 0x90 else 0x80, if k = 4 then 0x8F else 0xBF)

theorem start_four {k : Nat} (hk : k ≤ 4) :
    start (0xF0 + k).toUInt8 = .more ⟨3, k, (fourBounds k).1, (fourBounds k).2⟩ := by
  simp only [start, toNat_toUInt8 (by omega : 0xF0 + k < 256)]
  rw [if_neg (by omega), if_neg (by omega), if_neg (by omega), if_neg (by omega), if_neg (by omega),
    if_neg (by omega)]
  split
  · obtain rfl : k = 0 := by omega
    rfl
  split
  · rw [Nat.add_sub_cancel_left, fourBounds, if_neg (by omega), if_neg (by omega)]
  · obtain rfl : k = 4 := by omega
    rfl

/-- A further octet holds six bits. -/
theorem Partial.step_tail {p : Partial} {k : Nat} (hk : k < 64) (hl : p.low ≤ 0x80 + k)
    (hh : 0x80 + k ≤ p.high) :
    p.step (0x80 + k).toUInt8 = if p.owed ≤ 1 then .done (Char.ofNat (p.value * 64 + k))
      else .more ⟨p.owed - 1, p.value * 64 + k, 0x80, 0xBF⟩ := by
  simp only [Partial.step, toNat_toUInt8 (by omega : 0x80 + k < 256)]
  rw [if_pos ⟨hl, hh⟩, Nat.add_sub_cancel_left]

theorem decodeFrom?_done {c : Char} {b : UInt8} (r : List UInt8) (h : start b = .done c) :
    decodeFrom? none (b :: r) = (decodeFrom? none r).map (c :: ·) := by
  simp only [decodeFrom?, h]

theorem decodeFrom?_more {p : Partial} {b : UInt8} (r : List UInt8) (h : start b = .more p) :
    decodeFrom? none (b :: r) = decodeFrom? (some p) r := by
  simp only [decodeFrom?, h]

theorem decodeFrom?_tail {p : Partial} {k : Nat} (r : List UInt8) (ho : 1 < p.owed) (hk : k < 64)
    (hl : p.low ≤ 0x80 + k) (hh : 0x80 + k ≤ p.high) :
    decodeFrom? (some p) ((0x80 + k).toUInt8 :: r) =
      decodeFrom? (some ⟨p.owed - 1, p.value * 64 + k, 0x80, 0xBF⟩) r := by
  simp only [decodeFrom?, Partial.step_tail hk hl hh, if_neg (Nat.not_le_of_lt ho)]

theorem decodeFrom?_last {p : Partial} {k : Nat} (r : List UInt8) (ho : p.owed ≤ 1) (hk : k < 64)
    (hl : p.low ≤ 0x80 + k) (hh : 0x80 + k ≤ p.high) :
    decodeFrom? (some p) ((0x80 + k).toUInt8 :: r) =
      (decodeFrom? none r).map (Char.ofNat (p.value * 64 + k) :: ·) := by
  simp only [decodeFrom?, Partial.step_tail hk hl hh, if_pos ho]

/-! ### Decoding what was encoded -/

theorem decodeFrom?_octets (c : Char) (r : List UInt8) :
    decodeFrom? none (octets c ++ r) = (decodeFrom? none r).map (c :: ·) := by
  have hc : Char.ofNat c.toNat = c := Char.ofNat_toNat c
  have hvalid : c.toNat < 0xD800 ∨ 0xDFFF < c.toNat ∧ c.toNat < 0x110000 := c.valid
  simp only [octets]
  generalize c.toNat = n at hc hvalid
  split
  · rw [List.singleton_append, decodeFrom?_done r (start_one ‹_›), hc]
  split
  · rw [List.cons_append, List.singleton_append,
      decodeFrom?_more _ (start_two (by omega) (by omega)),
      decodeFrom?_last r (Nat.le_refl 1) (Nat.mod_lt _ (by decide)) (by dsimp only; omega)
        (by dsimp only; omega)]
    simp only [show n / 64 * 64 + n % 64 = n by omega, hc]
  split
  · have hlow : (threeBounds (n / 4096)).1 ≤ 0x80 + n / 64 % 64 := by
      rw [threeBounds]
      dsimp only
      split <;> omega
    have hhigh : 0x80 + n / 64 % 64 ≤ (threeBounds (n / 4096)).2 := by
      rw [threeBounds]
      dsimp only
      split <;> omega
    rw [List.cons_append, List.cons_append, List.singleton_append,
      decodeFrom?_more _ (start_three (by omega)),
      decodeFrom?_tail _ (by simp) (Nat.mod_lt _ (by decide)) hlow hhigh,
      decodeFrom?_last r (Nat.le_refl 1) (Nat.mod_lt _ (by decide)) (by dsimp only; omega)
        (by dsimp only; omega)]
    simp only [show (n / 4096 * 64 + n / 64 % 64) * 64 + n % 64 = n by omega, hc]
  · have hlow : (fourBounds (n / 262144)).1 ≤ 0x80 + n / 4096 % 64 := by
      rw [fourBounds]
      dsimp only
      split <;> omega
    have hhigh : 0x80 + n / 4096 % 64 ≤ (fourBounds (n / 262144)).2 := by
      rw [fourBounds]
      dsimp only
      split <;> omega
    rw [List.cons_append, List.cons_append, List.cons_append, List.singleton_append,
      decodeFrom?_more _ (start_four (by omega)),
      decodeFrom?_tail _ (by simp) (Nat.mod_lt _ (by decide)) hlow hhigh,
      decodeFrom?_tail _ (by simp) (Nat.mod_lt _ (by decide)) (by dsimp only; omega)
        (by dsimp only; omega),
      decodeFrom?_last r (Nat.le_refl 1) (Nat.mod_lt _ (by decide)) (by dsimp only; omega)
        (by dsimp only; omega)]
    simp only [show ((n / 262144 * 64 + n / 4096 % 64) * 64 + n / 64 % 64) * 64 + n % 64 = n by omega,
      hc]

theorem decode?_encode (s : List Char) : decode? (encode s) = some s := by
  unfold decode?
  induction s with
  | nil => rfl
  | cons c s ih => rw [encode_cons, decodeFrom?_octets, ih, Option.map_some]

/-! ### Nothing else is decoded -/

theorem isValidChar_of_lt {n : Nat} (h : n < 0xD800) : n.isValidChar :=
  .inl h

theorem octets_one {n : Nat} (h : n < 0x80) : octets (Char.ofNat n) = [n.toUInt8] := by
  simp only [octets, toNat_ofNat (isValidChar_of_lt (by omega : n < 0xD800)), if_pos h]

theorem octets_two {k j : Nat} (hk : 2 ≤ k) (hk' : k < 32) (hj : j < 64) :
    octets (Char.ofNat (k * 64 + j)) = [(0xC0 + k).toUInt8, (0x80 + j).toUInt8] := by
  simp only [octets, toNat_ofNat (isValidChar_of_lt (by omega : k * 64 + j < 0xD800))]
  rw [if_neg (by omega), if_pos (by omega), show (k * 64 + j) / 64 = k by omega,
    show (k * 64 + j) % 64 = j by omega]

theorem octets_three {k i j : Nat} (hk : k < 16) (hi : i < 64) (hj : j < 64)
    (hl : (threeBounds k).1 ≤ 0x80 + i) (hh : 0x80 + i ≤ (threeBounds k).2) :
    octets (Char.ofNat ((k * 64 + i) * 64 + j)) =
      [(0xE0 + k).toUInt8, (0x80 + i).toUInt8, (0x80 + j).toUInt8] := by
  have hlow : k = 0 → 0x20 ≤ i := by
    rintro rfl
    exact Nat.le_of_add_le_add_left hl
  have hhigh : k = 0xD → i < 0x20 := by
    rintro rfl
    exact Nat.lt_of_add_lt_add_left (Nat.lt_succ_of_le hh)
  have hvalid : ((k * 64 + i) * 64 + j).isValidChar := by
    by_cases h : k < 0xE
    · exact .inl (by omega)
    · exact .inr ⟨by omega, by omega⟩
  simp only [octets, toNat_ofNat hvalid]
  rw [if_neg (by omega), if_neg (by omega), if_pos (by omega),
    show ((k * 64 + i) * 64 + j) / 4096 = k by omega,
    show ((k * 64 + i) * 64 + j) / 64 % 64 = i by omega,
    show ((k * 64 + i) * 64 + j) % 64 = j by omega]

theorem octets_four {k g i j : Nat} (hk : k ≤ 4) (hg : g < 64) (hi : i < 64) (hj : j < 64)
    (hl : (fourBounds k).1 ≤ 0x80 + g) (hh : 0x80 + g ≤ (fourBounds k).2) :
    octets (Char.ofNat (((k * 64 + g) * 64 + i) * 64 + j)) =
      [(0xF0 + k).toUInt8, (0x80 + g).toUInt8, (0x80 + i).toUInt8, (0x80 + j).toUInt8] := by
  have hlow : k = 0 → 0x10 ≤ g := by
    rintro rfl
    exact Nat.le_of_add_le_add_left hl
  have hhigh : k = 4 → g < 0x10 := by
    rintro rfl
    exact Nat.lt_of_add_lt_add_left (Nat.lt_succ_of_le hh)
  have hvalid : (((k * 64 + g) * 64 + i) * 64 + j).isValidChar := .inr ⟨by omega, by omega⟩
  simp only [octets, toNat_ofNat hvalid]
  rw [if_neg (by omega), if_neg (by omega), if_neg (by omega),
    show (((k * 64 + g) * 64 + i) * 64 + j) / 262144 = k by omega,
    show (((k * 64 + g) * 64 + i) * 64 + j) / 4096 % 64 = g by omega,
    show (((k * 64 + g) * 64 + i) * 64 + j) / 64 % 64 = i by omega,
    show (((k * 64 + g) * 64 + i) * 64 + j) % 64 = j by omega]

/-- The octets that may begin a character. -/
theorem start_cases (b : UInt8) :
    start b = .refused ∨ (∃ n < 0x80, b = n.toUInt8) ∨
    (∃ k, 2 ≤ k ∧ k < 32 ∧ b = (0xC0 + k).toUInt8) ∨ (∃ k < 16, b = (0xE0 + k).toUInt8) ∨
    (∃ k ≤ 4, b = (0xF0 + k).toUInt8) := by
  have hb : b.toNat < 256 := b.toNat_lt
  by_cases h1 : b.toNat < 0x80
  · exact .inr (.inl ⟨_, h1, eq_toUInt8 rfl⟩)
  by_cases h2 : b.toNat < 0xC2
  · left
    simp only [start]
    rw [if_neg h1, if_pos h2]
  by_cases h3 : b.toNat < 0xE0
  · exact .inr (.inr (.inl ⟨b.toNat - 0xC0, by omega, by omega, eq_toUInt8 (by omega)⟩))
  by_cases h4 : b.toNat < 0xF0
  · exact .inr (.inr (.inr (.inl ⟨b.toNat - 0xE0, by omega, eq_toUInt8 (by omega)⟩)))
  by_cases h5 : b.toNat ≤ 0xF4
  · exact .inr (.inr (.inr (.inr ⟨b.toNat - 0xF0, by omega, eq_toUInt8 (by omega)⟩)))
  · left
    simp only [start]
    rw [if_neg h1, if_neg h2, if_neg h3, if_neg (by omega), if_neg (by omega), if_neg (by omega),
      if_neg (by omega), if_neg (by omega), if_neg (by omega)]

/-- A character under way needs a further octet within its bounds. -/
theorem exists_tail {p : Partial} {bs : List UInt8} {s : List Char} (hl : 0x80 ≤ p.low)
    (hh : p.high ≤ 0xBF) (h : decodeFrom? (some p) bs = some s) :
    ∃ k r, bs = (0x80 + k).toUInt8 :: r ∧ k < 64 ∧ p.low ≤ 0x80 + k ∧ 0x80 + k ≤ p.high := by
  cases bs with
  | nil => cases h
  | cons b r =>
    by_cases hb : p.low ≤ b.toNat ∧ b.toNat ≤ p.high
    · exact ⟨b.toNat - 0x80, r, by rw [← eq_toUInt8 (by omega : b.toNat = 0x80 + (b.toNat - 0x80))],
        by omega, by omega, by omega⟩
    · have hstep : p.step b = .refused := if_neg hb
      simp only [decodeFrom?, hstep] at h
      cases h

/-- What is decoded begins with the octets of its first character. -/
theorem exists_octets {b : UInt8} {bs : List UInt8} {s : List Char}
    (h : decodeFrom? none (b :: bs) = some s) :
    ∃ c r s', b :: bs = octets c ++ r ∧ s = c :: s' ∧ decodeFrom? none r = some s' := by
  rcases start_cases b with hb | ⟨n, hn, rfl⟩ | ⟨k, hk, hk', rfl⟩ | ⟨k, hk, rfl⟩ | ⟨k, hk, rfl⟩
  · simp only [decodeFrom?, hb] at h
    cases h
  · rw [decodeFrom?_done bs (start_one hn)] at h
    obtain ⟨s', hs', rfl⟩ := Option.map_eq_some_iff.1 h
    exact ⟨_, bs, s', by rw [octets_one hn]; rfl, rfl, hs'⟩
  · rw [decodeFrom?_more bs (start_two hk hk')] at h
    obtain ⟨j, r, rfl, hj, hjl, hjh⟩ := exists_tail (by simp) (by simp) h
    rw [decodeFrom?_last r (by simp) hj hjl hjh] at h
    obtain ⟨s', hs', rfl⟩ := Option.map_eq_some_iff.1 h
    exact ⟨_, r, s', by rw [octets_two hk hk' hj]; rfl, rfl, hs'⟩
  · rw [decodeFrom?_more bs (start_three hk)] at h
    obtain ⟨i, r, rfl, hi, hil, hih⟩ := exists_tail
      (by simp only [threeBounds]; split <;> decide) (by simp only [threeBounds]; split <;> decide) h
    rw [decodeFrom?_tail r (by simp) hi hil hih] at h
    obtain ⟨j, r, rfl, hj, hjl, hjh⟩ := exists_tail (by simp) (by simp) h
    rw [decodeFrom?_last r (by simp) hj hjl hjh] at h
    obtain ⟨s', hs', rfl⟩ := Option.map_eq_some_iff.1 h
    exact ⟨_, r, s', by rw [octets_three hk hi hj hil hih]; rfl, rfl, hs'⟩
  · rw [decodeFrom?_more bs (start_four hk)] at h
    obtain ⟨g, r, rfl, hg, hgl, hgh⟩ := exists_tail
      (by simp only [fourBounds]; split <;> decide) (by simp only [fourBounds]; split <;> decide) h
    rw [decodeFrom?_tail r (by simp) hg hgl hgh] at h
    obtain ⟨i, r, rfl, hi, hil, hih⟩ := exists_tail (by simp) (by simp) h
    rw [decodeFrom?_tail r (by simp) hi hil hih] at h
    obtain ⟨j, r, rfl, hj, hjl, hjh⟩ := exists_tail (by simp) (by simp) h
    rw [decodeFrom?_last r (by simp) hj hjl hjh] at h
    obtain ⟨s', hs', rfl⟩ := Option.map_eq_some_iff.1 h
    exact ⟨_, r, s', by rw [octets_four hk hg hi hj hgl hgh]; rfl, rfl, hs'⟩

theorem octets_ne_nil (c : Char) : octets c ≠ [] := by
  rw [octets_eq_utf8EncodeChar]
  exact String.utf8EncodeChar_ne_nil

theorem encode_of_decode? {bs : List UInt8} {s : List Char} (h : decode? bs = some s) :
    encode s = bs := by
  unfold decode? at h
  -- each character takes at least one octet off
  induction hn : bs.length using Nat.strongRecOn generalizing bs s with
  | ind n ih =>
    cases bs with
    | nil =>
      cases h
      rfl
    | cons b bs =>
      obtain ⟨c, r, s', hbs, rfl, hr⟩ := exists_octets h
      have hlt : r.length < n := by
        have := List.length_pos_iff.2 (octets_ne_nil c)
        rw [← hn, hbs, List.length_append]
        omega
      rw [encode_cons, ih r.length hlt hr rfl, hbs]

theorem decode?_eq_some_iff {bs : List UInt8} {s : List Char} : decode? bs = some s ↔ encode s = bs :=
  ⟨encode_of_decode?, fun h => h ▸ decode?_encode s⟩

/-- The octets that are decoded are the well-formed ones. -/
theorem isSome_decode?_iff {bs : List UInt8} : (decode? bs).isSome ↔ bs.toByteArray.IsValidUTF8 := by
  constructor
  · intro h
    obtain ⟨s, hs⟩ := Option.isSome_iff_exists.1 h
    exact .intro s (by rw [← toByteArray_encode, encode_of_decode? hs])
  · rintro ⟨s, hs⟩
    rw [← toByteArray_encode] at hs
    have hbs : encode s = bs := by
      have := congrArg (fun b => b.data.toList) hs
      simpa using this.symm
    rw [decode?_eq_some_iff.2 hbs]
    rfl

/-- Well-formed octets are decoded to the text that they are. -/
theorem decode?_of_isValidUTF8 {bs : List UInt8} (h : bs.toByteArray.IsValidUTF8) :
    decode? bs = some (String.fromUTF8 bs.toByteArray h).toList := by
  obtain ⟨s, hs⟩ := Option.isSome_iff_exists.1 (isSome_decode?_iff.2 h)
  have htext : String.fromUTF8 bs.toByteArray h = String.ofList s := by
    refine String.toByteArray_inj.1 ?_
    rw [String.toByteArray_ofList, ← toByteArray_encode, encode_of_decode? hs]
    rfl
  rw [hs, htext, String.toList_ofList]

/-! ### Decoding that never fails -/

theorem decodeLossyFrom_of_decodeFrom? {q : Option Partial} {bs : List UInt8} {s : List Char}
    (h : decodeFrom? q bs = some s) : decodeLossyFrom q bs = s := by
  induction bs generalizing q s with
  | nil =>
    cases q with
    | none =>
      cases h
      rfl
    | some p => cases h
  | cons b r ih =>
    cases q with
    | none =>
      simp only [decodeFrom?, decodeLossyFrom] at h ⊢
      split at h
      · obtain ⟨s', hs', rfl⟩ := Option.map_eq_some_iff.1 h
        simp [ih hs', *]
      · simp [ih h, *]
      · cases h
    | some p =>
      simp only [decodeFrom?, decodeLossyFrom] at h ⊢
      split at h
      · obtain ⟨s', hs', rfl⟩ := Option.map_eq_some_iff.1 h
        simp [ih hs', *]
      · simp [ih h, *]
      · cases h

theorem decodeLossy_of_decode? {bs : List UInt8} {s : List Char} (h : decode? bs = some s) :
    decodeLossy bs = s :=
  decodeLossyFrom_of_decodeFrom? h

end LivePages.Text.Utf8
