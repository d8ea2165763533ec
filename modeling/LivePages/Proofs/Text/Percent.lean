import Mathlib.Logic.Function.Basic
import Mathlib.Tactic.SplitIfs
import LivePages.Proofs.Text.Utf8
import LivePages.Text.Percent

/-! Percent-encoded text: unreserved characters, and octets as a percent sign with two upper-case
hexadecimal digits, which are unreserved as well. Decoding gives the UTF-8 octets of the text, so no
two texts are encoded alike, and nothing but the empty text is encoded as the empty one. -/

namespace LivePages.Text.Percent

/-- The value of a hexadecimal digit in either case. -/
def digit? (c : Char) : Option Nat :=
  "0123456789ABCDEF".toList.idxOf? c.toUpper

/-- The octets that a text stands for: a percent sign and two digits are one octet, any other character
stands for its own octets. -/
def decode? : List Char → Option (List UInt8)
  | [] => some []
  | '%' :: h :: l :: r => do
    let high ← digit? h
    let low ← digit? l
    pure ((16 * high + low).toUInt8 :: (← decode? r))
  | c :: r => if c = '%' then none else (decode? r).map (Utf8.octets c ++ ·)

/-- Letters, digits and four signs, and octets in upper-case digits. -/
inductive IsEscaped : List Char → Prop
  | nil : IsEscaped []
  | kept {c : Char} {s : List Char} (hc : c.isAlphanum = true ∨ c ∈ "-_.~".toList)
      (hs : IsEscaped s) : IsEscaped (c :: s)
  | octet {h l : Char} {s : List Char} (hh : h ∈ "0123456789ABCDEF".toList)
      (hl : l ∈ "0123456789ABCDEF".toList) (hs : IsEscaped s) : IsEscaped ('%' :: h :: l :: s)

theorem unreserved_iff {c : Char} :
    unreserved c = true ↔ c.isAlphanum = true ∨ c ∈ "-_.~".toList := by
  simp [unreserved, or_assoc]

theorem digit?_hexDigit : ∀ n < 16, digit? (hexDigit n) = some n := by decide

theorem hexDigit_mem : ∀ n < 16, hexDigit n ∈ "0123456789ABCDEF".toList := by decide

theorem decode?_octet (b : UInt8) (r : List Char) :
    decode? (octet b ++ r) = (decode? r).map (b :: ·) := by
  have hb : b.toNat < 256 := b.toNat_lt
  have hvalue : (16 * (b.toNat / 16) + b.toNat % 16).toUInt8 = b := by
    rw [Nat.div_add_mod]
    exact UInt8.ofNat_toNat
  simp only [octet, List.cons_append, List.nil_append, decode?,
    digit?_hexDigit _ (by omega : b.toNat / 16 < 16),
    digit?_hexDigit _ (by omega : b.toNat % 16 < 16), Option.bind_eq_bind, Option.bind_some, hvalue]
  cases decode? r <;> rfl

theorem decode?_octets (bs : List UInt8) (r : List Char) :
    decode? (bs.flatMap octet ++ r) = (decode? r).map (bs ++ ·) := by
  induction bs with
  | nil => simp
  | cons b bs ih =>
    rw [List.flatMap_cons, List.append_assoc, decode?_octet, ih, Option.map_map]
    rfl

theorem decode?_kept {c : Char} (hc : c ≠ '%') (r : List Char) :
    decode? (c :: r) = (decode? r).map (Utf8.octets c ++ ·) := by
  rw [decode?, if_neg hc]
  exact fun _ _ _ hpercent _ => hc hpercent

theorem IsEscaped.octets {s : List Char} (hs : IsEscaped s) (bs : List UInt8) :
    IsEscaped (bs.flatMap Percent.octet ++ s) := by
  induction bs with
  | nil => exact hs
  | cons b bs ih =>
    have hb : b.toNat < 256 := b.toNat_lt
    exact .octet (hexDigit_mem _ (by omega)) (hexDigit_mem _ (by omega)) ih

theorem encode_cons (c : Char) (s : List Char) :
    encode (c :: s) =
      (if unreserved c then [c] else (Utf8.octets c).flatMap octet) ++ encode s := by
  rw [encode, encodeKeeping, List.flatMap_cons]
  rfl

theorem isEscaped_encode (s : List Char) : IsEscaped (encode s) := by
  induction s with
  | nil => exact .nil
  | cons c s ih =>
    rw [encode_cons]
    split_ifs with hkept
    · exact .kept (unreserved_iff.1 hkept) ih
    · exact ih.octets _

theorem IsEscaped.mem {s : List Char} (h : IsEscaped s) :
    ∀ c ∈ s, unreserved c = true ∨ c = '%' := by
  have hdigit : ∀ c ∈ "0123456789ABCDEF".toList, unreserved c = true :=
    List.all_eq_true.1 (by decide)
  induction h with
  | nil => exact List.forall_mem_nil _
  | kept hc _ ih => exact List.forall_mem_cons.2 ⟨.inl (unreserved_iff.2 hc), ih⟩
  | octet hh hl _ ih =>
    exact List.forall_mem_cons.2 ⟨.inr rfl, List.forall_mem_cons.2
      ⟨.inl (hdigit _ hh), List.forall_mem_cons.2 ⟨.inl (hdigit _ hl), ih⟩⟩⟩

theorem mem_encode {s : List Char} {c : Char} (h : c ∈ encode s) :
    unreserved c = true ∨ c = '%' :=
  (isEscaped_encode s).mem c h

/-- What is reserved is encoded. -/
theorem not_mem_encode {c : Char} (hc : ¬ (unreserved c = true ∨ c = '%')) (s : List Char) :
    c ∉ encode s :=
  fun h => hc (mem_encode h)

/-- What can be decoded does not depend on what follows. -/
theorem decode?_append {s : List Char} {bs : List UInt8} (h : decode? s = some bs) (r : List Char) :
    decode? (s ++ r) = (decode? r).map (bs ++ ·) := by
  fun_induction decode? s generalizing bs with
  | case1 =>
    cases h
    simp
  | case2 a b t ih =>
    simp only [Option.bind_eq_bind, Option.bind_eq_some_iff, Option.pure_def, Option.some.injEq] at h
    obtain ⟨high, hhigh, low, hlow, rest, hrest, rfl⟩ := h
    rw [List.cons_append, List.cons_append, List.cons_append, decode?, hhigh, hlow, ih hrest]
    cases decode? r <;> rfl
  | case3 => cases h
  | case4 c t _ hc ih =>
    obtain ⟨rest, hrest, rfl⟩ := Option.map_eq_some_iff.1 h
    rw [List.cons_append, decode?_kept hc, ih hrest, Option.map_map]
    exact congrArg (Option.map · _) (funext fun _ => (List.append_assoc ..).symm)

/-- What is encoded is decoded to the octets of the text. -/
theorem decode?_encode (s : List Char) : decode? (encode s) = some (Utf8.encode s) := by
  induction s with
  | nil => rfl
  | cons c s ih =>
    rw [encode_cons, Utf8.encode_cons]
    split_ifs with hkept
    · have hc : c ≠ '%' := by
        rintro rfl
        revert hkept
        decide
      rw [List.singleton_append, decode?_kept hc, ih]
      rfl
    · rw [decode?_octets, ih]
      rfl

theorem encode_injective : Function.Injective encode := by
  intro s t h
  have hoctets : Utf8.encode s = Utf8.encode t := by
    rw [← Option.some.injEq, ← decode?_encode, ← decode?_encode, h]
  rw [← Option.some.injEq, ← Utf8.decode?_encode, ← Utf8.decode?_encode, hoctets]

theorem toList_escape (s : String) : (escape s).toList = encode s.toList :=
  String.toList_ofList

/-- Escaped text is decoded to the text in UTF-8. -/
theorem decode?_escape (s : String) :
    (decode? (escape s).toList).map List.toByteArray = some s.toUTF8 := by
  rw [toList_escape, decode?_encode, Option.map_some, Utf8.toByteArray_encode]
  exact congrArg some String.utf8Encode_toList

theorem encode_eq_nil_iff {s : List Char} : encode s = [] ↔ s = [] :=
  encode_injective.eq_iff' rfl

end LivePages.Text.Percent
