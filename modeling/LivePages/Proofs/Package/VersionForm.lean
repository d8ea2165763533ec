import Mathlib.Data.Nat.Digits.Defs
import Mathlib.Tactic.SplitIfs
import LivePages.Package.Helpers
import LivePages.Proofs.Text.Split
import LivePages.Proofs.Text.Trim

/-! The written form of versions. A version is read from a text just when the text, once trimmed, has
that form, and then it is the list of the numbers that stand there, each with its own value. -/

namespace LivePages.Version

/-- Decimal digits, zeros in front included, of a number that fits 64 bits. -/
structure IsNumeral (digits : List Char) (n : Nat) : Prop where
  ne_nil : digits ≠ []
  isDigit : ∀ c ∈ digits, c.isDigit = true
  value : n = Nat.ofDigits 10 (digits.reverse.map fun c => c.toNat - '0'.toNat)
  bound : n ≤ 2 ^ 64 - 1

/-- Numerals with dots between them. -/
inductive IsDotted : List Char → Version → Prop
  | last {d : List Char} {n : Nat} (h : IsNumeral d n) : IsDotted d [n]
  | more {d s : List Char} {n : Nat} {v : Version} (h : IsNumeral d n) (hs : IsDotted s v) :
      IsDotted (d ++ '.' :: s) (n :: v)

/-- What is read over at the end: nothing, or all from the first of two signs on. -/
def IsSuffix (s : List Char) : Prop :=
  ∀ c ∈ s.head?, c = '-' ∨ c = '+'

/-- Any number of `v`, dotted numerals, and perhaps a suffix. -/
def IsWritten (s : List Char) (v : Version) : Prop :=
  ∃ k dotted suffix, s = List.replicate k 'v' ++ dotted ++ suffix ∧ IsDotted dotted v ∧
    IsSuffix suffix

/-! ### Numerals -/

theorem digitsValue_eq (d : List Char) :
    digitsValue d = Nat.ofDigits 10 (d.reverse.map fun c => c.toNat - '0'.toNat) := by
  rw [Nat.ofDigits_eq_foldr, List.foldr_map, List.foldr_reverse, digitsValue]
  congr
  funext n c
  exact Nat.add_comm _ _

theorem withoutPlus_of_not_mem {d : List Char} (h : '+' ∉ d) : withoutPlus d = d := by
  unfold withoutPlus
  split
  · exact absurd List.mem_cons_self h
  · rfl

theorem IsNumeral.not_mem {d : List Char} {n : Nat} (h : IsNumeral d n) {c : Char}
    (hc : c.isDigit = false) : c ∉ d := by
  intro hmem
  rw [h.isDigit c hmem] at hc
  cases hc

/-- Where no plus sign can stand, the numbers are the numerals. -/
theorem number?_eq_some_iff {d : List Char} {n : Nat} (hplus : '+' ∉ d) :
    number? d = some n ↔ IsNumeral d n := by
  have hbound : Nat.pow 2 64 = 2 ^ 64 := rfl
  simp only [number?, withoutPlus_of_not_mem hplus, hbound]
  constructor
  · intro h
    split_ifs at h with hdigits hfits
    simp only [Bool.or_eq_true, List.isEmpty_iff, Bool.not_eq_true', not_or, Bool.not_eq_false,
      List.all_eq_true] at hdigits
    obtain rfl := Option.some.inj h
    exact ⟨hdigits.1, hdigits.2, digitsValue_eq d, Nat.le_sub_one_of_lt hfits⟩
  · intro h
    have hdigits : d.isEmpty = false ∧ d.all Char.isDigit = true :=
      ⟨by simpa using h.ne_nil, List.all_eq_true.2 h.isDigit⟩
    have hvalue : digitsValue d = n := (digitsValue_eq d).trans h.value.symm
    have hfits : n < 2 ^ 64 := Nat.lt_of_le_sub_one (by decide) h.bound
    rw [hdigits.1, hdigits.2, hvalue, if_pos hfits]
    rfl

/-! ### Dotted numerals -/

theorem IsDotted.chars {s : List Char} {v : Version} (h : IsDotted s v) :
    ∀ c ∈ s, c.isDigit = true ∨ c = '.' := by
  induction h with
  | last h => exact fun c hc => .inl (h.isDigit c hc)
  | more h _ ih =>
    intro c hc
    rcases List.mem_append.1 hc with hc | hc
    · exact .inl (h.isDigit c hc)
    · rcases List.mem_cons.1 hc with rfl | hc
      · exact .inr rfl
      · exact ih c hc

theorem IsDotted.not_mem {s : List Char} {v : Version} (h : IsDotted s v) {c : Char}
    (hdigit : c.isDigit = false) (hdot : c ≠ '.') : c ∉ s := by
  intro hc
  rcases h.chars c hc with hd | rfl
  · rw [hdigit] at hd
    cases hd
  · exact hdot rfl

theorem IsDotted.exists_digit {s : List Char} {v : Version} (h : IsDotted s v) :
    ∃ c r, s = c :: r ∧ c.isDigit = true := by
  have hfirst : ∀ {d : List Char} {n : Nat} (t : List Char), IsNumeral d n →
      ∃ c r, d ++ t = c :: r ∧ c.isDigit = true := by
    intro d n t h
    obtain ⟨c, r, rfl⟩ := List.exists_cons_of_ne_nil h.ne_nil
    exact ⟨c, r ++ t, rfl, h.isDigit c List.mem_cons_self⟩
  cases h with
  | last h => simpa using hfirst [] h
  | more h _ => exact hfirst _ h

theorem mapM_number?_cons {d : List Char} {ps : List (List Char)} {v : Version} :
    (d :: ps).mapM number? = some v ↔
      ∃ n w, number? d = some n ∧ ps.mapM number? = some w ∧ v = n :: w := by
  rw [List.mapM_cons]
  simp only [Option.bind_eq_bind, Option.bind_eq_some_iff, Option.pure_def, Option.some.injEq,
    exists_and_left, eq_comm (b := v)]

theorem IsDotted.mapM_number? {s : List Char} {v : Version} (h : IsDotted s v) :
    (Text.splitOn '.' s).mapM number? = some v := by
  have hnumber : ∀ {d : List Char} {n : Nat}, IsNumeral d n → number? d = some n :=
    fun h => (number?_eq_some_iff (h.not_mem rfl)).2 h
  induction h with
  | last h =>
    rw [Text.splitOn_of_not_mem (h.not_mem rfl)]
    exact mapM_number?_cons.2 ⟨_, [], hnumber h, rfl, rfl⟩
  | more h _ ih =>
    rw [Text.splitOn_append_cons, Text.splitOn_of_not_mem (h.not_mem rfl)]
    exact mapM_number?_cons.2 ⟨_, _, hnumber h, ih, rfl⟩

theorem isDotted_of_mapM {s : List Char} {v : Version} (hplus : '+' ∉ s)
    (h : (Text.splitOn '.' s).mapM number? = some v) : IsDotted s v := by
  induction hlength : s.length using Nat.strongRecOn generalizing s v with
  | ind k ih =>
    by_cases hdot : '.' ∈ s
    · obtain ⟨d, r, rfl, hd⟩ := List.eq_append_cons_of_mem hdot
      rw [Text.splitOn_append_cons, Text.splitOn_of_not_mem hd] at h
      obtain ⟨n, w, hn, hw, rfl⟩ := mapM_number?_cons.1 h
      simp only [List.mem_append, List.mem_cons, not_or] at hplus
      have hshort : r.length < k := by
        rw [← hlength, List.length_append, List.length_cons]
        omega
      exact .more ((number?_eq_some_iff hplus.1).1 hn) (ih _ hshort hplus.2.2 hw rfl)
    · rw [Text.splitOn_of_not_mem hdot] at h
      obtain ⟨n, w, hn, hw, rfl⟩ := mapM_number?_cons.1 h
      cases hw
      exact .last ((number?_eq_some_iff hplus).1 hn)

/-! ### Versions -/

theorem startsSuffix_iff {c : Char} : startsSuffix c = true ↔ c = '-' ∨ c = '+' := by
  simp [startsSuffix]

theorem plus_not_mem_core (s : String) : '+' ∉ core s := by
  intro h
  have hnot := List.mem_takeWhile_imp h
  revert hnot
  decide

theorem parse?_eq_some_iff_core {s : String} {v : Version} :
    parse? s = some v ↔ IsDotted (core s) v := by
  unfold parse?
  constructor
  · intro h
    split_ifs at h
    exact isDotted_of_mapM (plus_not_mem_core s) h
  · intro h
    obtain ⟨c, r, hcore, -⟩ := h.exists_digit
    rw [if_neg (by simp [hcore])]
    exact h.mapM_number?

theorem core_of_written {s : String} {k : Nat} {dotted suffix : List Char} {v : Version}
    (hs : (Text.trim s).toList = List.replicate k 'v' ++ dotted ++ suffix)
    (hdotted : IsDotted dotted v) (hsuffix : IsSuffix suffix) : core s = dotted := by
  have hletters : ∀ c ∈ List.replicate k 'v', (c == 'v') = true :=
    fun c hc => by simp [List.eq_of_mem_replicate hc]
  have hkept : ∀ c ∈ dotted, (!startsSuffix c) = true := by
    intro c hc
    rw [Bool.not_eq_true', ← Bool.not_eq_true, startsSuffix_iff]
    rintro (rfl | rfl)
    · exact hdotted.not_mem rfl (by decide) hc
    · exact hdotted.not_mem rfl (by decide) hc
  have hdrop : (dotted ++ suffix).dropWhile (· == 'v') = dotted ++ suffix := by
    obtain ⟨c, r, rfl, hc⟩ := hdotted.exists_digit
    refine List.dropWhile_cons_of_neg ?_
    intro hv
    rw [eq_of_beq hv] at hc
    revert hc
    decide
  have htake : suffix.takeWhile (fun c => !startsSuffix c) = [] := by
    cases suffix with
    | nil => rfl
    | cons c r =>
      refine List.takeWhile_cons_of_neg ?_
      rw [Bool.not_eq_true, Bool.not_eq_false', startsSuffix_iff]
      exact hsuffix c rfl
  rw [core, hs, List.append_assoc, List.dropWhile_append_of_pos hletters, hdrop,
    List.takeWhile_append_of_pos hkept, htake, List.append_nil]

theorem isSuffix_dropWhile (s : List Char) : IsSuffix (s.dropWhile fun c => !startsSuffix c) := by
  intro c hc
  obtain ⟨r, hr⟩ := List.head?_eq_some_iff.1 hc
  have hstop := List.head_dropWhile_not (fun c => !startsSuffix c) (l := s) (by simp [hr])
  simpa only [hr, List.head_cons, Bool.not_eq_false', startsSuffix_iff] using hstop

/-- The trimmed text falls into letters, its core and a suffix. -/
theorem exists_parts (s : String) : ∃ k suffix,
    (Text.trim s).toList = List.replicate k 'v' ++ core s ++ suffix ∧ IsSuffix suffix := by
  refine ⟨((Text.trim s).toList.takeWhile (· == 'v')).length,
    ((Text.trim s).toList.dropWhile (· == 'v')).dropWhile fun c => !startsSuffix c, ?_, ?_⟩
  · have hletters : (Text.trim s).toList.takeWhile (· == 'v') =
        List.replicate ((Text.trim s).toList.takeWhile (· == 'v')).length 'v' :=
      List.eq_replicate_of_mem fun c hc => by simpa using List.mem_takeWhile_imp hc
    rw [← hletters, core, List.append_assoc, List.takeWhile_append_dropWhile,
      List.takeWhile_append_dropWhile]
  · exact isSuffix_dropWhile _

/-- A version is read from what is written as one, and from nothing else. -/
theorem parse?_eq_some_iff {s : String} {v : Version} :
    parse? s = some v ↔ IsWritten (Text.trim s).toList v := by
  rw [parse?_eq_some_iff_core]
  constructor
  · intro h
    obtain ⟨k, suffix, hs, hsuffix⟩ := exists_parts s
    exact ⟨k, core s, suffix, hs, h, hsuffix⟩
  · rintro ⟨k, dotted, suffix, hs, hdotted, hsuffix⟩
    rw [core_of_written hs hdotted hsuffix]
    exact hdotted

/-! ### What is asked about versions -/

/-- The trimmed text has the form of a version. -/
def IsVersion (s : String) : Prop :=
  ∃ v, IsWritten (Text.trim s).toList v

theorem read_eq_ok_iff {s : String} {v : Version} :
    Version.read s = .ok v ↔ IsWritten (Text.trim s).toList v := by
  rw [← parse?_eq_some_iff, Version.read]
  cases parse? s with
  | none => exact iff_of_false nofun nofun
  | some w => rw [Except.ok.injEq, Option.some.injEq]

theorem exists_read_iff {s : String} : (∃ v, Version.read s = .ok v) ↔ IsVersion s :=
  exists_congr fun _ => read_eq_ok_iff

theorem read_eq_error_iff {s : String} {f : LookupFault} :
    Version.read s = .error f ↔ ¬ IsVersion s ∧ f = .invalidVersion s := by
  rw [← exists_read_iff, Version.read]
  cases parse? s with
  | none => simp [eq_comm]
  | some w => simp

theorem isUpgradable_eq_ok_iff {current latest : String} {newer : Bool} :
    isUpgradable current latest = .ok newer ↔ ∃ a b, Version.read current = .ok a ∧
      Version.read latest = .ok b ∧ newer = (compare b a == .gt) := by
  rw [isUpgradable]
  cases Version.read current with
  | error f => exact iff_of_false nofun nofun
  | ok a =>
    cases Version.read latest with
    | error f => exact iff_of_false nofun nofun
    | ok b => simp [Bind.bind, Except.bind, Pure.pure, Except.pure, eq_comm]

/-- The version in use is read first, so it is the one that is told of when neither can be read. -/
theorem isUpgradable_eq_error_iff {current latest : String} {f : LookupFault} :
    isUpgradable current latest = .error f ↔
      (¬ IsVersion current ∧ f = .invalidVersion current) ∨
        IsVersion current ∧ ¬ IsVersion latest ∧ f = .invalidVersion latest := by
  rw [← read_eq_error_iff, ← read_eq_error_iff, ← exists_read_iff, isUpgradable]
  cases Version.read current with
  | error g => simp [Bind.bind, Except.bind]
  | ok a =>
    cases Version.read latest with
    | error g => simp [Bind.bind, Except.bind]
    | ok b => simp [Bind.bind, Except.bind, Pure.pure, Except.pure]

theorem bind_str?_eq_some_iff {v : Option Json} {s : String} :
    v.bind Json.str? = some s ↔ v = some (.str s) := by
  rw [Option.bind_eq_some_iff]
  constructor
  · rintro ⟨j, rfl, hj⟩
    cases j with
    | str t => rw [Option.some.inj hj]
    | _ => cases hj
  · rintro rfl
    exact ⟨_, rfl, rfl⟩

theorem helper_of_answered {l : Lookups} {args : Template.Arguments} {current latest : String}
    {newer : Bool} (hcurrent : args.get? "current" = some (.str current))
    (hlatest : args.get? "latest" = some (.str latest))
    (h : l.isUpgradable current latest = .ok newer) : Helpers.isUpgradable l args = .bool newer := by
  rw [Helpers.isUpgradable, bind_str?_eq_some_iff.2 hcurrent, bind_str?_eq_some_iff.2 hlatest]
  dsimp only
  rw [h]

theorem helper_of_unanswered {l : Lookups} {args : Template.Arguments}
    (h : ∀ current latest newer, args.get? "current" = some (.str current) →
      args.get? "latest" = some (.str latest) → l.isUpgradable current latest ≠ .ok newer) :
    Helpers.isUpgradable l args = .bool false := by
  rw [Helpers.isUpgradable]
  split
  · rename_i current latest hcurrent hlatest
    split
    · rename_i newer hnewer
      exact absurd hnewer
        (h _ _ _ (bind_str?_eq_some_iff.1 hcurrent) (bind_str?_eq_some_iff.1 hlatest))
    · rfl
  · rfl

/-- A version is read just from a text of its form, as the numbers in it, and of other texts the
first is told of. -/
theorem read_by_form :
    (∀ s v, Version.read s = .ok v ↔ IsWritten (Text.trim s).toList v) ∧
    (∀ s f, Version.read s = .error f ↔ ¬ IsVersion s ∧ f = .invalidVersion s) ∧
    (∀ current latest f, isUpgradable current latest = .error f ↔
      (¬ IsVersion current ∧ f = .invalidVersion current) ∨
        IsVersion current ∧ ¬ IsVersion latest ∧ f = .invalidVersion latest) ∧
    ∀ mirrors (args : Template.Arguments),
      (∀ current latest newer, args.get? "current" = some (.str current) →
        args.get? "latest" = some (.str latest) → isUpgradable current latest = .ok newer →
          Helpers.isUpgradable (.ofMirrors mirrors) args = .bool newer) ∧
      ((¬ ∃ current latest, args.get? "current" = some (.str current) ∧
        args.get? "latest" = some (.str latest) ∧ IsVersion current ∧ IsVersion latest) →
          Helpers.isUpgradable (.ofMirrors mirrors) args = .bool false) := by
  refine ⟨fun _ _ => read_eq_ok_iff, fun _ _ => read_eq_error_iff,
    fun _ _ _ => isUpgradable_eq_error_iff, fun mirrors args => ?_⟩
  have hasked : (Lookups.ofMirrors mirrors).isUpgradable = isUpgradable := rfl
  refine ⟨fun current latest newer hcurrent hlatest hnewer => ?_, fun h => ?_⟩
  · rw [← hasked] at hnewer
    exact helper_of_answered hcurrent hlatest hnewer
  · refine helper_of_unanswered fun current latest newer hcurrent hlatest hnewer => h ?_
    rw [hasked] at hnewer
    obtain ⟨a, b, ha, hb, -⟩ := isUpgradable_eq_ok_iff.1 hnewer
    exact ⟨current, latest, hcurrent, hlatest, exists_read_iff.1 ⟨a, ha⟩, exists_read_iff.1 ⟨b, hb⟩⟩

/-- Nothing stands behind the last dot of the one, and the other has zeros in front and a suffix. -/
theorem read_by_form_dot :
    Helpers.isUpgradable (.ofMirrors .default) [("current", .str "1."), ("latest", .str "2")] =
        .bool false ∧
      isUpgradable " v1.9" "1.010-rc\n" = .ok true ∧
      Helpers.isUpgradable (.ofMirrors .default)
        [("current", .str " v1.9"), ("latest", .str "1.010-rc\n")] = .bool true := by
  obtain ⟨-, herror, -, hhelper⟩ := read_by_form
  have hdot : ¬ IsVersion "1." := ((herror "1." (.invalidVersion "1.")).1 (by decide +kernel)).1
  have hnewer : isUpgradable " v1.9" "1.010-rc\n" = .ok true :=
    isUpgradable_eq_ok_iff.2 ⟨[1, 9], [1, 10], by decide +kernel, by decide +kernel,
      by simp [compare]⟩
  refine ⟨(hhelper _ _).2 ?_, hnewer, (hhelper _ _).1 _ _ _ rfl rfl hnewer⟩
  rintro ⟨current, latest, hcurrent, -, hversion, -⟩
  cases hcurrent
  exact hdot hversion

end LivePages.Version
