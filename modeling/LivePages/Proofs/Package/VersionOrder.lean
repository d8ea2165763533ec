import Mathlib.Data.List.GetD
import Mathlib.Order.Compare
import Mathlib.Order.PiLex
import LivePages.Proofs.Package.VersionForm

/-! The order of versions. A version stands for an endless sequence, its numbers and then zeros, and
versions compare as their sequences do at the first difference. Whatever leaves the sequence as it is,
blanks, letters, zeros at the end or a suffix, leaves every answer as it is. -/

namespace LivePages.Version

/-- The numbers of a version and zeros behind them, ordered by the first difference. -/
def sequence (v : Version) : Lex (Nat → Nat) :=
  toLex fun i => v.getD i 0

/-! ### Comparing is comparing sequences -/

theorem sequence_lt_iff {v w : Version} :
    sequence v < sequence w ↔ ∃ i, (∀ j < i, v.getD j 0 = w.getD j 0) ∧ v.getD i 0 < w.getD i 0 :=
  Iff.rfl

theorem sequence_eq_iff {v w : Version} : sequence v = sequence w ↔ ∀ i, v.getD i 0 = w.getD i 0 :=
  funext_iff

theorem sequence_append_zeros (v : Version) (k : Nat) :
    sequence (v ++ List.replicate k 0) = sequence v := by
  refine sequence_eq_iff.2 fun i => ?_
  rcases lt_or_ge i v.length with hi | hi
  · rw [List.getD_append _ _ _ _ hi]
  · rw [List.getD_append_right _ _ _ _ hi, List.getD_eq_default v 0 hi]
    exact List.getElem?_getD_replicate_default_eq 0 k _

theorem sequence_nil : sequence [] = sequence [0] :=
  (sequence_append_zeros [] 1).symm

theorem sequence_cons_lt {a b : Nat} {v w : Version} :
    sequence (a :: v) < sequence (b :: w) ↔ a < b ∨ a = b ∧ sequence v < sequence w := by
  simp only [sequence_lt_iff]
  constructor
  · rintro ⟨i, hsame, hless⟩
    cases i with
    | zero => exact .inl hless
    | succ i =>
      exact .inr ⟨hsame 0 (Nat.succ_pos i), i, fun j hj => hsame (j + 1) (Nat.succ_lt_succ hj), hless⟩
  · rintro (hless | ⟨rfl, i, hsame, hless⟩)
    · exact ⟨0, fun j hj => absurd hj (Nat.not_lt_zero j), hless⟩
    · refine ⟨i + 1, fun j hj => ?_, hless⟩
      cases j with
      | zero => rfl
      | succ j => exact hsame j (Nat.lt_of_succ_lt_succ hj)

theorem sequence_cons_eq {a b : Nat} {v w : Version} :
    sequence (a :: v) = sequence (b :: w) ↔ a = b ∧ sequence v = sequence w := by
  simp only [sequence_eq_iff]
  constructor
  · exact fun h => ⟨h 0, fun i => h (i + 1)⟩
  · rintro ⟨rfl, h⟩ i
    cases i with
    | zero => rfl
    | succ i => exact h i

theorem compares_cons {a : Nat} {v w : Version} {o : Ordering}
    (h : o.Compares (sequence v) (sequence w)) :
    o.Compares (sequence (a :: v)) (sequence (a :: w)) := by
  cases o with
  | lt => exact sequence_cons_lt.2 (.inr ⟨rfl, h⟩)
  | eq => exact sequence_cons_eq.2 ⟨rfl, h⟩
  | gt => exact sequence_cons_lt.2 (.inr ⟨rfl, h⟩)

/-- A missing number is a zero. -/
theorem compares (v w : Version) : (compare v w).Compares (sequence v) (sequence w) := by
  fun_induction compare v w with
  | case1 => exact rfl
  | case2 w ih =>
    rw [sequence_nil]
    exact compares_cons ih
  | case3 b w hb =>
    rw [sequence_nil]
    exact sequence_cons_lt.2 (.inl (Nat.pos_of_ne_zero hb))
  | case4 v ih =>
    rw [sequence_nil]
    exact compares_cons ih
  | case5 a v ha =>
    rw [sequence_nil]
    exact sequence_cons_lt.2 (.inl (Nat.pos_of_ne_zero ha))
  | case6 a v b w hless => exact sequence_cons_lt.2 (.inl hless)
  | case7 a v b w _ hmore => exact sequence_cons_lt.2 (.inl hmore)
  | case8 a v b w hless hmore ih =>
    obtain rfl : a = b := by omega
    exact compares_cons ih

/-! ### Zeros at the end -/

theorem getD_rdropWhile (v : Version) (i : Nat) : (v.rdropWhile (· = 0)).getD i 0 = v.getD i 0 := by
  have hzeros : v.rtakeWhile (· = 0) = List.replicate (v.rtakeWhile (· = 0)).length 0 :=
    List.eq_replicate_of_mem fun n hn => by simpa using List.mem_rtakeWhile_imp hn
  have hsame := sequence_append_zeros (v.rdropWhile (· = 0)) (v.rtakeWhile (· = 0)).length
  rw [← hzeros, List.rdropWhile_append_rtakeWhile] at hsame
  exact (sequence_eq_iff.1 hsame i).symm

/-- The sequence ends where the last number that is not zero stands. -/
theorem length_le_of_sequence_eq {v w : Version} (hv : ∀ n ∈ v.getLast?, n ≠ 0)
    (h : sequence v = sequence w) : v.length ≤ w.length := by
  by_contra hlong
  have hne : v ≠ [] := List.ne_nil_of_length_pos (by omega)
  refine hv _ (List.getLast?_eq_getLast_of_ne_nil hne) ?_
  have hlast := sequence_eq_iff.1 h (v.length - 1)
  rw [List.getD_eq_default w 0 (by omega), List.getD_eq_getElem v 0 (by omega)] at hlast
  rw [List.getLast_eq_getElem]
  exact hlast

theorem last_ne_zero (v : Version) : ∀ n ∈ (v.rdropWhile (· = 0)).getLast?, n ≠ 0 :=
  fun n hn => by simpa using Text.last_rdropWhile hn

/-- Versions are alike when they have the same numbers up to zeros at the end. -/
theorem sequence_eq_iff_rdropWhile {v w : Version} :
    sequence v = sequence w ↔ v.rdropWhile (· = 0) = w.rdropWhile (· = 0) := by
  constructor
  · intro h
    have hcut : sequence (v.rdropWhile (· = 0)) = sequence (w.rdropWhile (· = 0)) :=
      sequence_eq_iff.2 fun i => by
        rw [getD_rdropWhile, getD_rdropWhile, sequence_eq_iff.1 h i]
    have hlength := Nat.le_antisymm
      (length_le_of_sequence_eq (last_ne_zero v) hcut)
      (length_le_of_sequence_eq (last_ne_zero w) hcut.symm)
    refine List.ext_getElem hlength fun i hi hi' => ?_
    have hnumber := sequence_eq_iff.1 hcut i
    rwa [List.getD_eq_getElem _ 0 hi, List.getD_eq_getElem _ 0 hi'] at hnumber
  · intro h
    exact sequence_eq_iff.2 fun i => by rw [← getD_rdropWhile v, h, getD_rdropWhile]

/-! ### Newer versions -/

theorem isUpgradable_eq_true_iff {a b : String} {v w : Version} (ha : Version.read a = .ok v)
    (hb : Version.read b = .ok w) : isUpgradable a b = .ok true ↔ sequence v < sequence w := by
  refine Iff.trans ?_ (compares w v).eq_gt
  rw [isUpgradable_eq_ok_iff]
  constructor
  · rintro ⟨v', w', hv', hw', hgt⟩
    obtain rfl := Except.ok.inj (ha.symm.trans hv')
    obtain rfl := Except.ok.inj (hb.symm.trans hw')
    exact eq_of_beq hgt.symm
  · exact fun hgt => ⟨v, w, ha, hb, by rw [hgt]; rfl⟩

/-- Neither can be told from the other by comparing: they give the same with every third text, on
either side. -/
def Interchangeable (a b : String) : Prop :=
  ∀ c, isUpgradable a c = isUpgradable b c ∧ isUpgradable c a = isUpgradable c b

theorem compare_congr {v v' w w' : Version} (hv : sequence v = sequence v')
    (hw : sequence w = sequence w') : compare v w = compare v' w' := by
  have h := compares v w
  rw [hv, hw] at h
  exact h.inj (compares v' w')

theorem interchangeable_of_sequence_eq {a b : String} {v w : Version}
    (ha : Version.read a = .ok v) (hb : Version.read b = .ok w) (h : sequence v = sequence w) :
    Interchangeable a b := by
  intro c
  rw [isUpgradable, isUpgradable, isUpgradable, isUpgradable, ha, hb]
  cases Version.read c with
  | error f => exact ⟨rfl, rfl⟩
  | ok u =>
    have hleft := compare_congr (rfl : sequence u = sequence u) h
    have hright := compare_congr h (rfl : sequence u = sequence u)
    simp [Bind.bind, Except.bind, hleft, hright]

/-! ### Texts of one version -/

theorem IsNumeral.zero : IsNumeral ['0'] 0 :=
  ⟨List.cons_ne_nil _ _, List.forall_mem_singleton.2 rfl, rfl, by decide⟩

theorem IsDotted.snoc {s d : List Char} {v : Version} {n : Nat} (hs : IsDotted s v)
    (hd : IsNumeral d n) : IsDotted (s ++ '.' :: d) (v ++ [n]) := by
  induction hs with
  | last h => exact .more h (.last hd)
  | more h _ ih =>
    rw [List.append_assoc]
    exact .more h ih

theorem IsDotted.append_zeros {s : List Char} {v : Version} (h : IsDotted s v) (k : Nat) :
    IsDotted (s ++ (List.replicate k ['.', '0']).flatten) (v ++ List.replicate k 0) := by
  induction k with
  | zero => simpa using h
  | succ k ih =>
    have hnext := ih.snoc IsNumeral.zero
    rw [List.replicate_succ', List.replicate_succ', List.flatten_append, ← List.append_assoc,
      ← List.append_assoc]
    exact hnext

theorem isBlank_of_isDigit {c : Char} (h : c.isDigit = true) : Text.isBlank c = false := by
  have hrange : 48 ≤ c.toNat ∧ c.toNat ≤ 57 := Char.isDigit_iff_toNat.1 h
  unfold Text.isBlank
  simp only [Bool.or_eq_false_iff, Bool.and_eq_false_iff, decide_eq_false_iff_not,
    beq_eq_false_iff_ne]
  omega

/-- Letters, numerals and a suffix are read without the blanks that may stand at the end. -/
theorem read_of_parts {s : String} {k : Nat} {dotted suffix : List Char} {v : Version}
    (hs : s.toList = List.replicate k 'v' ++ dotted ++ suffix) (hdotted : IsDotted dotted v)
    (hsuffix : IsSuffix suffix) : Version.read s = .ok v := by
  have hclear : ∀ c ∈ List.replicate k 'v' ++ dotted, Text.isBlank c = false := by
    intro c hc
    rcases List.mem_append.1 hc with hc | hc
    · rw [List.eq_of_mem_replicate hc]
      rfl
    · rcases hdotted.chars c hc with hdigit | rfl
      · exact isBlank_of_isDigit hdigit
      · rfl
  have hne : List.replicate k 'v' ++ dotted ≠ [] := by
    obtain ⟨c, r, rfl, -⟩ := hdotted.exists_digit
    simp
  have hcut : Text.HasNoMargin
      (List.replicate k 'v' ++ dotted ++ suffix.rdropWhile Text.isBlank) :=
    Text.hasNoMargin_append hclear hne (fun _ => Text.last_rdropWhile)
  refine read_eq_ok_iff.2 ⟨k, dotted, suffix.rdropWhile Text.isBlank, ?_, hdotted, ?_⟩
  · refine Text.toList_trim_eq_iff.2 ⟨[], suffix.rtakeWhile Text.isBlank, ?_, List.forall_mem_nil _,
      fun c hc => List.mem_rtakeWhile_imp hc, hcut⟩
    rw [hs, List.nil_append, List.append_assoc _ (suffix.rdropWhile _),
      List.rdropWhile_append_rtakeWhile]
  · intro c hc
    obtain ⟨r, hr⟩ := List.head?_eq_some_iff.1 hc
    obtain ⟨t, ht⟩ := List.rdropWhile_prefix Text.isBlank suffix
    refine hsuffix c ?_
    rw [← ht, hr]
    rfl

theorem read_surrounded {s before after : String} {v : Version} (hs : Version.read s = .ok v)
    (hbefore : Text.AllBlank before.toList) (hafter : Text.AllBlank after.toList) :
    Version.read (before ++ s ++ after) = .ok v := by
  rw [read_eq_ok_iff, Text.trim_surrounded hbefore hafter, ← read_eq_ok_iff]
  exact hs

theorem read_letters {s : String} {v : Version} (hs : Version.read s = .ok v)
    (htrim : Text.trim s = s) (k : Nat) :
    Version.read (String.ofList (List.replicate k 'v') ++ s) = .ok v := by
  obtain ⟨j, dotted, suffix, hparts, hdotted, hsuffix⟩ := read_eq_ok_iff.1 hs
  rw [htrim] at hparts
  refine read_of_parts (k := k + j) ?_ hdotted hsuffix
  rw [String.toList_append, String.toList_ofList, hparts, List.replicate_add]
  simp only [List.append_assoc]

/-- Text of a version that ends in its numerals takes more zeros, and a suffix. -/
theorem read_zeros {s : String} {v : Version} (hs : Version.read s = .ok v)
    (htrim : Text.trim s = s) (hminus : '-' ∉ s.toList) (hplus : '+' ∉ s.toList) (k : Nat)
    {suffix : String} (hsuffix : IsSuffix suffix.toList) :
    Version.read (s ++ String.join (List.replicate k ".0") ++ suffix) =
      .ok (v ++ List.replicate k 0) := by
  obtain ⟨j, dotted, rest, hparts, hdotted, hrest⟩ := read_eq_ok_iff.1 hs
  rw [htrim] at hparts
  obtain rfl : rest = [] := by
    cases rest with
    | nil => rfl
    | cons c r =>
      have hmem : c ∈ s.toList := by simp [hparts]
      rcases hrest c rfl with rfl | rfl
      · exact absurd hmem hminus
      · exact absurd hmem hplus
  refine read_of_parts (k := j) ?_ (hdotted.append_zeros k) hsuffix
  rw [String.toList_append, String.toList_append, String.toList_join, List.flatMap_replicate, hparts]
  simp [List.append_assoc]

/-- Newer versions make a strict weak order on the texts that are versions; those of which neither
is newer have the same numbers up to zeros. -/
theorem newer_is_strict_weak_order :
    (∀ a, IsVersion a → isUpgradable a a = .ok false) ∧
    (∀ a b, IsVersion a → IsVersion b →
      ¬ (isUpgradable a b = .ok true ∧ isUpgradable b a = .ok true)) ∧
    (∀ a b c, IsVersion a → IsVersion b → IsVersion c → isUpgradable a b = .ok true →
      isUpgradable b c = .ok true → isUpgradable a c = .ok true) ∧
    (∀ a b v w, Version.read a = .ok v → Version.read b = .ok w → isUpgradable a b ≠ .ok true →
      isUpgradable b a ≠ .ok true →
        v.rdropWhile (· = 0) = w.rdropWhile (· = 0) ∧ Interchangeable a b) ∧
    (∀ a before after, IsVersion a → Text.AllBlank before.toList → Text.AllBlank after.toList →
      Interchangeable (before ++ a ++ after) a) ∧
    (∀ a k, IsVersion a → Text.HasNoMargin a.toList →
      Interchangeable (String.ofList (List.replicate k 'v') ++ a) a) ∧
    (∀ a k suffix, IsVersion a → Text.HasNoMargin a.toList → '-' ∉ a.toList → '+' ∉ a.toList →
      (suffix = "" ∨ ∃ rest, suffix = "-" ++ rest ∨ suffix = "+" ++ rest) →
        Interchangeable (a ++ String.join (List.replicate k ".0") ++ suffix) a) := by
  simp only [← exists_read_iff]
  refine ⟨?_, ?_, ?_, ?_, ?_, ?_, ?_⟩
  · rintro a ⟨v, ha⟩
    refine isUpgradable_eq_ok_iff.2 ⟨v, v, ha, ha, ?_⟩
    rw [(compares v v).eq_eq.2 rfl]
    rfl
  · rintro a b ⟨v, ha⟩ ⟨w, hb⟩ ⟨hab, hba⟩
    exact lt_asymm ((isUpgradable_eq_true_iff ha hb).1 hab) ((isUpgradable_eq_true_iff hb ha).1 hba)
  · rintro a b c ⟨v, ha⟩ ⟨w, hb⟩ ⟨u, hc⟩ hab hbc
    exact (isUpgradable_eq_true_iff ha hc).2 (lt_trans ((isUpgradable_eq_true_iff ha hb).1 hab)
      ((isUpgradable_eq_true_iff hb hc).1 hbc))
  · intro a b v w ha hb hab hba
    have hsame : sequence v = sequence w := le_antisymm
      (not_lt.1 fun h => hba ((isUpgradable_eq_true_iff hb ha).2 h))
      (not_lt.1 fun h => hab ((isUpgradable_eq_true_iff ha hb).2 h))
    exact ⟨sequence_eq_iff_rdropWhile.1 hsame, interchangeable_of_sequence_eq ha hb hsame⟩
  · rintro a before after ⟨v, ha⟩ hbefore hafter
    exact interchangeable_of_sequence_eq (read_surrounded ha hbefore hafter) ha rfl
  · rintro a k ⟨v, ha⟩ hmargin
    exact interchangeable_of_sequence_eq (read_letters ha (Text.trim_eq_self_iff.2 hmargin) k) ha rfl
  · rintro a k suffix ⟨v, ha⟩ hmargin hminus hplus hsuffix
    have htrim := Text.trim_eq_self_iff.2 hmargin
    have hsigned : IsSuffix suffix.toList := by
      rcases hsuffix with rfl | ⟨rest, rfl | rfl⟩
      · exact nofun
      · exact fun c hc => .inl (by simpa [eq_comm] using hc)
      · exact fun c hc => .inr (by simpa [eq_comm] using hc)
    exact interchangeable_of_sequence_eq (read_zeros ha htrim hminus hplus k hsigned) ha
      (sequence_append_zeros v k)

/-- Three versions in turn, one of them with a number left out, and texts of one version. -/
theorem newer_is_strict_weak_order_patches :
    isUpgradable "v1.9" "1.10.0.1" = .ok true ∧ Interchangeable "1.02.0" "1.2+7" ∧
      Interchangeable ("\t" ++ "1.2+7" ++ " ") "1.2+7" ∧
      Interchangeable (String.ofList (List.replicate 3 'v') ++ "1.2+7") "1.2+7" ∧
      Interchangeable ("1.02.0" ++ String.join (List.replicate 2 ".0") ++ "-rc ") "1.02.0" := by
  obtain ⟨-, -, htrans, hsame, hblanks, hletters, hzeros⟩ := newer_is_strict_weak_order
  have hread : Version.read "v1.9" = .ok [1, 9] ∧ Version.read "1.10" = .ok [1, 10] ∧
      Version.read "1.10.0.1" = .ok [1, 10, 0, 1] ∧ Version.read "1.02.0" = .ok [1, 2, 0] ∧
      Version.read "1.2+7" = .ok [1, 2] := by decide +kernel
  obtain ⟨hold, hnew, hpatched, hzero, hbuild⟩ := hread
  have hfirst : isUpgradable "v1.9" "1.10" = .ok true :=
    isUpgradable_eq_ok_iff.2 ⟨_, _, hold, hnew, by simp [compare]⟩
  have hsecond : isUpgradable "1.10" "1.10.0.1" = .ok true :=
    isUpgradable_eq_ok_iff.2 ⟨_, _, hnew, hpatched, by simp [compare]⟩
  have hnone : isUpgradable "1.02.0" "1.2+7" = .ok false ∧
      isUpgradable "1.2+7" "1.02.0" = .ok false :=
    ⟨isUpgradable_eq_ok_iff.2 ⟨_, _, hzero, hbuild, by simp [compare]⟩,
      isUpgradable_eq_ok_iff.2 ⟨_, _, hbuild, hzero, by simp [compare]⟩⟩
  have hversion := exists_read_iff.1 ⟨_, hbuild⟩
  refine ⟨htrans _ _ _ (exists_read_iff.1 ⟨_, hold⟩) (exists_read_iff.1 ⟨_, hnew⟩)
    (exists_read_iff.1 ⟨_, hpatched⟩) hfirst hsecond, ?_, ?_, ?_, ?_⟩
  · exact (hsame _ _ _ _ hzero hbuild (by simp [hnone.1]) (by simp [hnone.2])).2
  · exact hblanks _ _ _ hversion (by decide) (by decide)
  · exact hletters _ 3 hversion (Text.trim_eq_self_iff.1 (by decide))
  · exact hzeros _ 2 _ (exists_read_iff.1 ⟨_, hzero⟩) (Text.trim_eq_self_iff.1 (by decide))
      (by decide) (by decide) (.inr ⟨"rc ", .inl rfl⟩)

end LivePages.Version
