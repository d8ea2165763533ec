import Mathlib.Data.List.Infix
import LivePages.Proofs.Text.Split
import LivePages.Template.Source

/-! Reading variables, and filters and calls that take them. A name is read up to what follows it, a
variable as a path, and what follows tells where a term, its filters and a whole value end. -/

namespace LivePages.Template

/-! ### Names and what follows them -/

/-- A letter or underscore, and then letters, digits and underscores. -/
def isNamed : List Char → Bool
  | [] => false
  | c :: r => isNameStart c && r.all isNameChar

/-- A name that can be a variable's: it does not begin with a word for a truth value. -/
structure IsVariable (x : List Char) : Prop where
  named : isNamed x = true
  noTruth : ∀ w ∈ ["true", "false", "True", "False"], ¬ w.toList <+: x

instance (x : List Char) : Decidable (IsVariable x) :=
  decidable_of_iff
    (isNamed x = true ∧ ∀ w ∈ ["true", "false", "True", "False"], ¬ w.toList <+: x)
    ⟨fun h => ⟨h.1, h.2⟩, fun h => ⟨h.named, h.noTruth⟩⟩

variable {x rest r : List Char} {n : Nat}

theorem isNameChar_of_start {c : Char} (h : isNameStart c = true) : isNameChar c = true := by
  simp only [isNameStart, isNameChar, Bool.or_eq_true, Char.isAlphanum] at h ⊢
  exact h.imp_left .inl

theorem isNameChar_of_isNamed (h : isNamed x = true) : ∀ c ∈ x, isNameChar c = true := by
  cases x with
  | nil => exact List.forall_mem_nil _
  | cons c r =>
    simp only [isNamed, Bool.and_eq_true, List.all_eq_true] at h
    exact List.forall_mem_cons.2 ⟨isNameChar_of_start h.1, h.2⟩

theorem literal?_eq_some_iff {w s : List Char} : literal? w s = some r ↔ s = w ++ r := by
  induction w generalizing s with
  | nil => simp [literal?]
  | cons c w ih =>
    cases s with
    | nil => simp [literal?]
    | cons d s =>
      rw [literal?, List.cons_append, List.cons.injEq]
      by_cases hc : c = d
      · rw [if_pos hc, ih]
        exact ⟨fun h => ⟨hc.symm, h⟩, fun h => h.2⟩
      · rw [if_neg hc]
        exact iff_of_false nofun fun h => hc h.1.symm

/-- What comes next is in no name. -/
def EndsName (rest : List Char) : Prop :=
  ∀ c ∈ rest.head?, isNameChar c = false

theorem name?_append (hx : isNamed x = true) (hrest : EndsName rest) :
    name? (x ++ rest) = some (String.ofList x, rest) := by
  have hall := isNameChar_of_isNamed hx
  cases x with
  | nil => cases hx
  | cons c r =>
    simp only [isNamed, Bool.and_eq_true] at hx
    have hr := (List.forall_mem_cons.1 hall).2
    rw [List.cons_append, name?, if_pos hx.1, Text.takeWhile_append_rest hr hrest,
      Text.dropWhile_append_rest hr hrest]

theorem taken_append (x rest : List Char) : taken (x ++ rest) rest = x := by
  rw [taken, List.length_append, Nat.add_sub_cancel, List.take_left]

/-- A word of name characters is read only where the name begins with it. -/
theorem prefix_of_append_eq {w : List Char} (hw : ∀ c ∈ w, isNameChar c = true)
    (hrest : EndsName rest) (h : x ++ rest = w ++ r) : w <+: x := by
  rcases List.append_eq_append_iff.1 h with ⟨a, rfl, rfl⟩ | ⟨b, rfl, -⟩
  · cases a with
    | nil => rw [List.append_nil]
    | cons c a =>
      have hc := hw c (List.mem_append_right _ List.mem_cons_self)
      rw [hrest c rfl] at hc
      cases hc
  · exact List.prefix_append _ _

theorem boolean?_append (hx : IsVariable x) (hrest : EndsName rest) :
    boolean? (x ++ rest) = none := by
  have hword : ∀ w ∈ ["true", "false", "True", "False"], word? w (x ++ rest) = none := by
    intro w hw
    cases h : word? w (x ++ rest) with
    | none => rfl
    | some r =>
      have hchars : (["true", "false", "True", "False"].all fun w => w.toList.all isNameChar) = true := by
        decide
      have hchars := List.all_eq_true.1 (List.all_eq_true.1 hchars w hw)
      exact absurd (prefix_of_append_eq hchars hrest (literal?_eq_some_iff.1 h))
        (hx.noTruth w hw)
  simp [boolean?, hword]

theorem isSpace_of_isNameChar {c : Char} (h : isNameChar c = true) : isSpace c = false := by
  rw [Bool.eq_false_iff]
  intro hspace
  simp only [isSpace, Bool.or_eq_true, beq_iff_eq] at hspace
  rcases hspace with ((rfl | rfl) | rfl) | rfl <;> cases h

theorem space?_eq_none (h : ∀ c ∈ rest.head?, isSpace c = false) : space? rest = none := by
  cases rest with
  | nil => rfl
  | cons c r => rw [space?, if_neg (by simp [h c rfl])]

theorem skipSpace_of_isNamed (hx : isNamed x = true) (rest : List Char) :
    skipSpace (x ++ rest) = x ++ rest := by
  cases x with
  | nil => cases hx
  | cons c r =>
    have hc := isSpace_of_isNameChar (isNameChar_of_isNamed hx c List.mem_cons_self)
    rw [skipSpace, List.cons_append, List.dropWhile_cons_of_neg (by simp [hc])]

/-- Blanks have to follow for a name to be the word `not`. -/
theorem negation_append (hx : isNamed x = true) (hrest : EndsName rest)
    (hnot : x = "not".toList → ∀ c ∈ rest.head?, isSpace c = false) :
    negation (x ++ rest) = (false, x ++ rest) := by
  have hnone : spacedWord? "not" (x ++ rest) = none := by
    rw [spacedWord?]
    cases h : word? "not" (x ++ rest) with
    | none => rfl
    | some r =>
      have heq := literal?_eq_some_iff.1 h
      have hchars : "not".toList.all isNameChar = true := by decide
      obtain ⟨b, rfl⟩ := prefix_of_append_eq (List.all_eq_true.1 hchars) hrest heq
      rw [List.append_assoc, List.append_cancel_left_eq] at heq
      subst heq
      rw [Option.bind_some]
      cases b with
      | nil => exact space?_eq_none (hnot (List.append_nil _))
      | cons c b =>
        have hc := isNameChar_of_isNamed hx c (List.mem_append_right _ List.mem_cons_self)
        refine space?_eq_none ?_
        rintro _ ⟨⟩
        exact isSpace_of_isNameChar hc
  rw [negation, hnone]

/-! ### What follows a term and a value -/

/-- Nothing that makes a name before it into a longer path, a test or the name of a library. -/
structure EndsCallee (rest : List Char) : Prop where
  name : EndsName rest
  steps : ∀ n, afterSteps n rest = rest
  is : next? "is" rest = none
  library : next? "::" rest = none

/-- Nothing either that makes it into a call, or a term into a joined text or a sum. -/
structure EndsTerm (rest : List Char) : Prop extends EndsCallee rest where
  keys : ∀ n, afterKeys n rest = rest
  call : next? "(" rest = none
  joined : next? "~" rest = none
  arithmetic : arithmetic? (skipSpace rest) = none

/-- Nothing that makes a term before it into a filtered one, a comparison or a condition. -/
structure EndsValue (rest : List Char) : Prop where
  filters : next? "|" rest = none
  arithmetic : arithmetic? (skipSpace rest) = none
  comparison : comparison? (skipSpace rest) = none
  member : next? "in" (negation (skipSpace rest)).2 = none
  connective : connective? (skipSpace rest) = none

theorem endsCallee_call (r : List Char) : EndsCallee ('(' :: r) where
  name := by rintro _ ⟨⟩; rfl
  steps n := by cases n <;> rfl
  is := rfl
  library := rfl

theorem endsTerm_filter (r : List Char) : EndsTerm (' ' :: '|' :: r) where
  name := by rintro _ ⟨⟩; rfl
  steps n := by cases n <;> rfl
  keys n := by cases n <;> rfl
  is := rfl
  library := rfl
  call := rfl
  joined := rfl
  arithmetic := rfl

theorem endsTerm_output (r : List Char) : EndsTerm (' ' :: '\x7d' :: r) where
  name := by rintro _ ⟨⟩; rfl
  steps n := by cases n <;> rfl
  keys n := by cases n <;> rfl
  is := rfl
  library := rfl
  call := rfl
  joined := rfl
  arithmetic := rfl

theorem endsTerm_argument {c : Char} (hc : c = ',' ∨ c = ')') (r : List Char) :
    EndsTerm (c :: r) := by
  rcases hc with rfl | rfl
  all_goals exact
    { name := by rintro _ ⟨⟩; rfl
      steps := fun n => by cases n <;> rfl
      keys := fun n => by cases n <;> rfl
      is := rfl
      library := rfl
      call := rfl
      joined := rfl
      arithmetic := rfl }

theorem endsValue_output (r : List Char) : EndsValue (' ' :: '\x7d' :: r) :=
  ⟨rfl, rfl, rfl, rfl, rfl⟩

theorem endsValue_argument {c : Char} (hc : c = ',' ∨ c = ')') (r : List Char) :
    EndsValue (c :: r) := by
  rcases hc with rfl | rfl
  · exact ⟨rfl, rfl, rfl, rfl, rfl⟩
  · exact ⟨rfl, rfl, rfl, rfl, rfl⟩

/-! ### Variables -/

theorem exists_of_isNamed (hx : isNamed x = true) : ∃ c r, x = c :: r ∧ isNameStart c = true := by
  cases x with
  | nil => cases hx
  | cons c r =>
    simp only [isNamed, Bool.and_eq_true] at hx
    exact ⟨c, r, rfl, hx.1⟩

theorem dotted?_append (hx : isNamed x = true) (hrest : EndsCallee rest) :
    dotted? (x ++ rest) = some (String.ofList x, rest) := by
  simp only [dotted?, name?_append hx hrest.name, Option.bind_eq_bind, Option.bind_some, hrest.steps,
    taken_append]
  rfl

theorem path?_append (hx : isNamed x = true) (hrest : EndsTerm rest) :
    path? (x ++ rest) = some (String.ofList x, rest) := by
  simp only [path?, name?_append hx hrest.name, Option.bind_eq_bind, Option.bind_some, hrest.keys,
    taken_append]
  rfl

theorem testOf?_append (hx : isNamed x = true) (hrest : EndsCallee rest) (n : Nat) (negated : Bool) :
    testOf? n negated (x ++ rest) = none := by
  cases n with
  | zero => rfl
  | succ n =>
    simp only [testOf?, dotted?_append hx hrest, Option.bind_eq_bind, Option.bind_some, hrest.is]
    rfl

theorem macroCall?_append (hx : isNamed x = true) (hrest : EndsCallee rest) (n : Nat) :
    macroCall? n (x ++ rest) = none := by
  cases n with
  | zero => rfl
  | succ n =>
    simp only [macroCall?, name?_append hx hrest.name, Option.bind_eq_bind, Option.bind_some,
      hrest.library]
    rfl

theorem call?_append (hx : isNamed x = true) (hrest : EndsTerm rest) (n : Nat) :
    call? n (x ++ rest) = none := by
  cases n with
  | zero => rfl
  | succ n =>
    simp only [call?, name?_append hx hrest.name, Option.bind_eq_bind, Option.bind_some, hrest.call]
    rfl

theorem term?_variable (hx : IsVariable x) (hrest : EndsTerm rest) (n : Nat) :
    term? (n + 1) (x ++ rest) = some (.path (String.ofList x), rest) := by
  simp [term?, boolean?_append hx hrest.name, testOf?_append hx.named hrest.toEndsCallee,
    macroCall?_append hx.named hrest.toEndsCallee, call?_append hx.named hrest, path?_append hx.named hrest]

theorem isDigit_of_isNameStart {c : Char} (h : isNameStart c = true) : c.isDigit = false := by
  rw [Bool.eq_false_iff]
  intro hdigit
  delta isNameStart Char.isAlpha Char.isUpper Char.isLower at h
  simp only [Char.isDigit, Bool.or_eq_true, Bool.and_eq_true, decide_eq_true_eq, beq_iff_eq,
    UInt32.le_iff_toNat_le, ge_iff_le] at h hdigit
  have hA : 'A'.val.toNat = 65 := rfl
  have ha : 'a'.val.toNat = 97 := rfl
  have h9 : '9'.val.toNat = 57 := rfl
  rcases h with (h | h) | rfl
  · omega
  · omega
  · exact absurd hdigit.2 (by decide)

theorem afterWhole?_append (hx : isNamed x = true) (rest : List Char) :
    afterWhole? (x ++ rest) = none := by
  obtain ⟨c, r, rfl, hc⟩ := exists_of_isNamed hx
  have hsign : afterSign (c :: (r ++ rest)) = c :: (r ++ rest) := by
    rw [afterSign]
    rintro _ ⟨⟩
    cases hc
  rw [List.cons_append, afterWhole?, hsign, afterDigits?,
    if_neg (by simp [isDigit_of_isNameStart hc])]
  rintro rfl
  cases hc

/-- What begins as a name is neither a number nor a quoted text. -/
theorem literal_append (hx : isNamed x = true) (rest : List Char) :
    decimal? (x ++ rest) = none ∧ whole? (x ++ rest) = none ∧ quoted? (x ++ rest) = none := by
  refine ⟨?_, ?_, ?_⟩
  · rw [decimal?, afterWhole?_append hx]
    rfl
  · rw [whole?, afterWhole?_append hx]
    rfl
  · obtain ⟨c, r, rfl, hc⟩ := exists_of_isNamed hx
    rw [List.cons_append, quoted?, if_neg]
    intro hquote
    simp only [isQuoteMark, Bool.or_eq_true, beq_iff_eq] at hquote
    rcases hquote with (rfl | rfl) | rfl <;> cases hc

theorem part?_variable (hx : IsVariable x) (hrest : EndsTerm rest) (n : Nat) :
    part? (n + 1) (x ++ rest) = some (.path (String.ofList x), rest) := by
  obtain ⟨hdecimal, hwhole, hquoted⟩ := literal_append hx.named rest
  simp [part?, call?_append hx.named hrest, hdecimal, hwhole, hquoted, path?_append hx.named hrest]

/-! ### From a term to a value -/

variable {s rest' : List Char} {t : Term} {e : Expr} {fs : List Call} {k : Nat}

theorem filteredText?_eq_none (hpart : ∀ n, part? (n + k) s = some (t, rest))
    (hrest : EndsTerm rest) (hquoted : quoted? s = none) (n : Nat) :
    filteredText? (n + k + 3) s = none := by
  have hpart' : part? (n + k + 1) s = some (t, rest) := by
    rw [Nat.add_right_comm]
    exact hpart (n + 1)
  have hparts : parts (n + k + 1) rest = ([], rest) := by simp [parts, hrest.joined]
  simp [filteredText?, joined?, hpart', hparts, hquoted]

theorem filteredSum?_of_term (hterm : ∀ n, term? (n + k) s = some (t, rest))
    (hparen : s.head? ≠ some '(') (hrest : EndsTerm rest)
    (hfilters : ∀ n, filters (n + 2) rest = (fs, rest')) (n : Nat) :
    filteredSum? (n + k + 3) s = some (.mk t false fs, rest') := by
  have hoperand : operand? (n + k + 1) s = some (t, rest) := by
    rw [operand?]
    · exact hterm n
    · rintro r rfl
      exact hparen rfl
  have hoperands : operands (n + k + 1) rest = ([], rest) := by
    simp [operands, hrest.arithmetic]
  simp [filteredSum?, sum?, hoperand, hoperands, hfilters, arrange]

/-- A term with its filters is the whole value where nothing continues it. -/
theorem value?_of_term (hnegation : negation s = (false, s)) (hquoted : quoted? s = none)
    (hparen : s.head? ≠ some '(') (hpart : ∀ n, part? (n + k) s = some (t, rest))
    (hterm : ∀ n, term? (n + k) s = some (t, rest)) (hrest : EndsTerm rest)
    (hfilters : ∀ n, filters (n + 2) rest = (fs, rest')) (hend : EndsValue rest') (n : Nat) :
    value? (n + k + 8) s = some (.mk t false fs, rest') := by
  have htext := filteredText?_eq_none hpart hrest hquoted
  have hsum := filteredSum?_of_term hterm hparen hrest hfilters
  have hdeeper : n + k + 4 = n + 1 + k + 3 := by omega
  have hsums : filteredSums (n + k + 3) rest' = ([], rest') := by simp [filteredSums, hend.arithmetic]
  have hmember : membership? (n + k + 5) s = none := by
    rw [membership?, hdeeper, htext, hsum]
    simp [hend.member]
  have hside : side? (n + k + 4) s = some (.mk t false fs, rest') := by
    simp [side?, htext, hsum, hsums, arrange]
  have hcompare : comparisonOf? (n + k + 5) s = some (.mk t false fs, rest') := by
    simp [comparisonOf?, hside, hend.comparison]
  have hconjunct : conjunct? (n + k + 6) s = some (.mk t false fs, rest') := by
    simp [conjunct?, hnegation, hmember, hcompare, Expr.setNegated]
  have hconjuncts : conjuncts (n + k + 6) rest' = ([], rest') := by
    simp [conjuncts, hend.connective]
  have hcondition : condition? (n + k + 7) s = some (.mk t false fs, rest') := by
    simp [condition?, hconjunct, hconjuncts, arrange]
  simp [value?, hcondition]

theorem head?_append_of_isNamed (hx : isNamed x = true) (rest : List Char) :
    (x ++ rest).head? ≠ some '(' := by
  obtain ⟨c, r, rfl, hc⟩ := exists_of_isNamed hx
  rintro ⟨⟩
  cases hc

theorem filters_of_endsValue (hrest : EndsValue rest) (n : Nat) : filters n rest = ([], rest) := by
  cases n with
  | zero => rfl
  | succ n => simp [filters, hrest.filters]

/-- A variable alone is a value. -/
theorem value?_variable (hx : IsVariable x)
    (hnot : x = "not".toList → ∀ c ∈ rest.head?, isSpace c = false) (hrest : EndsTerm rest)
    (hend : EndsValue rest) (n : Nat) :
    value? (n + 9) (x ++ rest) = some (.plain (.path (String.ofList x)), rest) :=
  value?_of_term (negation_append hx.named hrest.name hnot) (literal_append hx.named rest).2.2
    (head?_append_of_isNamed hx.named rest) (part?_variable hx hrest) (term?_variable hx hrest) hrest
    (fun _ => filters_of_endsValue hend _) hend n

/-- A variable with a filter that takes no arguments is a value. -/
theorem value?_filter (hx : IsVariable x) (hnot : x ≠ "not".toList) {f : List Char}
    (hf : isNamed f = true) (hrest : EndsTerm rest) (hend : EndsValue rest) (n : Nat) :
    value? (n + 9) (x ++ ' ' :: '|' :: ' ' :: (f ++ rest)) =
      some (.mk (.path (String.ofList x)) false [.mk (String.ofList f) []], rest) := by
  have hterm := endsTerm_filter (' ' :: (f ++ rest))
  have hfilters (n : Nat) : filters (n + 2) (' ' :: '|' :: ' ' :: (f ++ rest)) =
      ([.mk (String.ofList f) []], rest) := by
    have hnext : next? "|" (' ' :: '|' :: ' ' :: (f ++ rest)) = some (' ' :: (f ++ rest)) := rfl
    have hskip : skipSpace (' ' :: (f ++ rest)) = f ++ rest := skipSpace_of_isNamed hf rest
    simp [filters, hnext, hskip, call?_append hf hrest, name?_append hf hrest.name, hend.filters]
  exact value?_of_term (negation_append hx.named hterm.name fun h => absurd h hnot)
    (literal_append hx.named _).2.2 (head?_append_of_isNamed hx.named _) (part?_variable hx hterm)
    (term?_variable hx hterm) hterm hfilters hend n

/-! ### Calls -/

/-- Arguments, each of them a variable by the name it is handed over as. -/
def argsText : List (String × String) → String
  | [] => ""
  | [(k, x)] => k ++ "=" ++ x
  | (k, x) :: r => k ++ "=" ++ x ++ ", " ++ argsText r

/-- Arguments that can be written and read. -/
def AreArguments (args : List (String × String)) : Prop :=
  ∀ a ∈ args, isNamed a.1.toList = true ∧ IsVariable a.2.toList

def argsExprs (args : List (String × String)) : List (String × Expr) :=
  args.map fun a => (a.1, .plain (.path a.2))

variable {args : List (String × String)}

/-- One argument is read up to the comma or parenthesis after it. -/
theorem argument_append {name : List Char} (hname : isNamed name = true) (hx : IsVariable x) {c : Char}
    (hc : c = ',' ∨ c = ')') (r : List Char) (n : Nat) :
    name? (name ++ '=' :: (x ++ c :: r)) = some (String.ofList name, '=' :: (x ++ c :: r)) ∧
      next? "=" ('=' :: (x ++ c :: r)) = some (x ++ c :: r) ∧
      value? (n + 9) (skipSpace (x ++ c :: r)) =
        some (.plain (.path (String.ofList x)), c :: r) := by
  refine ⟨name?_append hname ?_, rfl, ?_⟩
  · rintro _ ⟨⟩
    rfl
  · rw [skipSpace_of_isNamed hx.named]
    refine value?_variable hx (fun _ => ?_) (endsTerm_argument hc r) (endsValue_argument hc r) n
    rintro _ ⟨⟩
    rcases hc with rfl | rfl <;> rfl

theorem skipSpace_argsText (hargs : AreArguments args) (hne : args ≠ []) (rest : List Char) :
    skipSpace ((argsText args).toList ++ rest) = (argsText args).toList ++ rest := by
  cases args with
  | nil => exact absurd rfl hne
  | cons a r =>
    obtain ⟨name, x⟩ := a
    have hname := (hargs (name, x) List.mem_cons_self).1
    have hstart : ∃ tail, (argsText ((name, x) :: r)).toList = name.toList ++ tail := by
      cases r with
      | nil => exact ⟨'=' :: x.toList, by simp [argsText]⟩
      | cons b r =>
        exact ⟨'=' :: (x.toList ++ ',' :: ' ' :: (argsText (b :: r)).toList), by simp [argsText]⟩
    obtain ⟨tail, htail⟩ := hstart
    rw [htail, List.append_assoc, skipSpace_of_isNamed hname]

theorem args?_argsText (hargs : AreArguments args) (hne : args ≠ []) (rest : List Char) (n : Nat) :
    args? (n + args.length + 9) ((argsText args).toList ++ ')' :: rest) =
      some (argsExprs args, ')' :: rest) := by
  induction args with
  | nil => exact absurd rfl hne
  | cons a r ih =>
    obtain ⟨name, x⟩ := a
    obtain ⟨⟨hname, hx⟩, hr⟩ := List.forall_mem_cons.1 hargs
    cases r with
    | nil =>
      have htext : (argsText [(name, x)]).toList ++ ')' :: rest =
          name.toList ++ '=' :: (x.toList ++ ')' :: rest) := by simp [argsText]
      obtain ⟨hread, hequals, hvalue⟩ := argument_append hname hx (.inr rfl) rest n
      have hlast : next? "," (')' :: rest) = none := rfl
      have hdepth : n + [(name, x)].length + 9 = n + 9 + 1 := rfl
      rw [htext, hdepth, args?]
      simp only [hread, hequals, hvalue, hlast, Option.bind_eq_bind, Option.bind_some,
        String.ofList_toList]
      rfl
    | cons b r =>
      have htext : (argsText ((name, x) :: b :: r)).toList ++ ')' :: rest =
          name.toList ++ '=' :: (x.toList ++ ',' :: ' ' ::
            ((argsText (b :: r)).toList ++ ')' :: rest)) := by simp [argsText]
      obtain ⟨hread, hequals, hvalue⟩ := argument_append hname hx (.inl rfl)
        (' ' :: ((argsText (b :: r)).toList ++ ')' :: rest)) (n + (b :: r).length)
      have hcomma : next? "," (',' :: ' ' :: ((argsText (b :: r)).toList ++ ')' :: rest)) =
        some (' ' :: ((argsText (b :: r)).toList ++ ')' :: rest)) := rfl
      have hskip : skipSpace (' ' :: ((argsText (b :: r)).toList ++ ')' :: rest)) =
        (argsText (b :: r)).toList ++ ')' :: rest := skipSpace_argsText hr (List.cons_ne_nil b r) _
      have hdepth : n + ((name, x) :: b :: r).length + 9 = n + (b :: r).length + 9 + 1 := by
        rw [List.length_cons]
        omega
      have hothers := ih hr (List.cons_ne_nil b r)
      rw [htext, hdepth]
      generalize n + (b :: r).length + 9 = m at hvalue hothers ⊢
      rw [args?]
      simp only [hread, hequals, hvalue, hcomma, hskip, hothers, Option.bind_eq_bind,
        Option.bind_some, String.ofList_toList]
      rfl

/-- A call of a function is read with its arguments, of each name the last. -/
theorem call?_callText {f : List Char} (hf : isNamed f = true) (hargs : AreArguments args)
    (rest : List Char) (n : Nat) :
    call? (n + args.length + 10) (f ++ '(' :: ((argsText args).toList ++ ')' :: rest)) =
      some (.mk (String.ofList f) (lastOfEach (argsExprs args)), rest) := by
  have hname : name? (f ++ '(' :: ((argsText args).toList ++ ')' :: rest)) =
      some (String.ofList f, '(' :: ((argsText args).toList ++ ')' :: rest)) := by
    refine name?_append hf ?_
    rintro _ ⟨⟩
    rfl
  have hopen : next? "(" ('(' :: ((argsText args).toList ++ ')' :: rest)) =
    some ((argsText args).toList ++ ')' :: rest) := rfl
  have hread : (args? (n + args.length + 9) (skipSpace ((argsText args).toList ++ ')' :: rest))).getD
      ([], (argsText args).toList ++ ')' :: rest) = (argsExprs args, ')' :: rest) := by
    by_cases hne : args = []
    · subst hne
      rfl
    · rw [skipSpace_argsText hargs hne, args?_argsText hargs hne]
      rfl
  have hclose : next? ")" (')' :: rest) = some rest := rfl
  simp [call?, hname, hopen, hread, hclose]

/-- A call with variables for its arguments is a value. -/
theorem value?_call {f : List Char} (hf : IsVariable f) (hargs : AreArguments args)
    (hrest : EndsTerm rest) (hend : EndsValue rest) (n : Nat) :
    value? (n + args.length + 19) (f ++ '(' :: ((argsText args).toList ++ ')' :: rest)) =
      some (.plain (.call (.mk (String.ofList f) (lastOfEach (argsExprs args)))), rest) := by
  have hcall (n : Nat) := call?_callText hf.named hargs rest n
  have hcallee := endsCallee_call ((argsText args).toList ++ ')' :: rest)
  have hnegation := negation_append hf.named hcallee.name fun _ => by
    rintro _ ⟨⟩
    rfl
  have hparen := head?_append_of_isNamed hf.named ('(' :: ((argsText args).toList ++ ')' :: rest))
  have hquoted := (literal_append hf.named ('(' :: ((argsText args).toList ++ ')' :: rest))).2.2
  have hboolean := boolean?_append hf hcallee.name
  have htest := testOf?_append hf.named hcallee
  have hmacro := macroCall?_append hf.named hcallee
  generalize f ++ '(' :: ((argsText args).toList ++ ')' :: rest) = s at *
  have hpart (n : Nat) : part? (n + (args.length + 11)) s =
      some (.call (.mk (String.ofList f) (lastOfEach (argsExprs args))), rest) := by
    rw [← Nat.add_assoc, part?, hcall]
    rfl
  have hterm (n : Nat) : term? (n + (args.length + 11)) s =
      some (.call (.mk (String.ofList f) (lastOfEach (argsExprs args))), rest) := by
    rw [← Nat.add_assoc, term?, hboolean, htest, htest, hmacro, hcall]
    rfl
  have hdepth : n + args.length + 19 = n + (args.length + 11) + 8 := by omega
  rw [hdepth]
  exact value?_of_term hnegation hquoted hparen hpart hterm hrest
    (fun _ => filters_of_endsValue hend _) hend n

theorem length_argsText (args : List (String × String)) :
    args.length ≤ (argsText args).toList.length := by
  induction args with
  | nil => exact Nat.zero_le _
  | cons a r ih =>
    obtain ⟨k, x⟩ := a
    cases r with
    | nil => simp [argsText]; omega
    | cons b r => simp [argsText] at ih ⊢; omega

theorem argsWholes_argsExprs (args : List (String × String)) : argsWholes (argsExprs args) = [] := by
  induction args with
  | nil => rfl
  | cons a r ih =>
    change (Expr.plain (.path a.2)).wholes ++ argsWholes (argsExprs r) = []
    rw [ih]
    rfl

theorem lastOfEach_argsExprs (args : List (String × String)) :
    lastOfEach (argsExprs args) = argsExprs (lastOfEach args) := by
  induction args with
  | nil => rfl
  | cons a r ih =>
    obtain ⟨k, x⟩ := a
    have hany : (argsExprs r).any (·.1 = k) = r.any (·.1 = k) := by
      rw [argsExprs, List.any_map]
      rfl
    have hcons : argsExprs ((k, x) :: r) = (k, .plain (.path x)) :: argsExprs r := rfl
    rw [hcons, lastOfEach, lastOfEach, hany, ih]
    split_ifs
    · rfl
    · rfl

theorem expression?_of_value? {v : List Char} {k : Nat} (hk : k ≤ v.length)
    (hread : ∀ n, value? (n + k + 19) v = some (e, rest)) : expression? v = some (e, rest) := by
  have hdepth : depthFor v = 16 * (v.length + 2) - (k + 19) + k + 19 := by
    rw [depthFor]
    omega
  rw [expression?, hdepth, hread]

/-! ### Outputs -/

/-- A template that is nothing but the output of a value. -/
def Source.outputting (name : String) (e : Expr) : Source :=
  .ofNodes name [.output ⟨false, false⟩ e]

theorem output?_of_expression? {v : List Char} (hv : skipSpace v = v)
    (hread : expression? v = some (e, " \x7d\x7d".toList)) :
    output? ("\x7b\x7b ".toList ++ v) = some (.output ⟨false, false⟩ e, []) := by
  have hopen : opening? '\x7b' ("\x7b\x7b ".toList ++ v) = some (false, ' ' :: v) := rfl
  have hskip : skipSpace (' ' :: v) = v := hv
  have hclose : closing? '\x7d' (skipSpace " \x7d\x7d".toList) = some (false, []) := rfl
  simp only [output?, hopen, hskip, hread, hclose, Option.bind_eq_bind, Option.bind_some]
  rfl

/-- Neither comments nor a head, and then the one tag. -/
theorem readNodes?_output {v : List Char} (hv : skipSpace v = v)
    (hread : expression? v = some (e, " \x7d\x7d".toList)) :
    readNodes? ("\x7b\x7b ".toList ++ v) = some [.output ⟨false, false⟩ e] := by
  have houtput := output?_of_expression? hv hread
  have hcomments (n : Nat) : dropComments n ("\x7b\x7b ".toList ++ v) = "\x7b\x7b ".toList ++ v := by
    cases n <;> rfl
  have himports (n : Nat) : importsFrom n ("\x7b\x7b ".toList ++ v) =
      ([], "\x7b\x7b ".toList ++ v) := by
    cases n <;> rfl
  have hparent : parent? ("\x7b\x7b ".toList ++ v) = none := rfl
  have hdefine (n : Nat) : define? n ("\x7b\x7b ".toList ++ v) = none := rfl
  have hembed : embed? ("\x7b\x7b ".toList ++ v) = none := rfl
  have hnode (n : Nat) : node? (n + 1) .plain ("\x7b\x7b ".toList ++ v) =
      some (.output ⟨false, false⟩ e, []) := by
    unfold node? leaf?
    rw [hembed, houtput]
    rfl
  have htop (n m : Nat) : topNodes? (n + 1) (m + 1) ("\x7b\x7b ".toList ++ v) =
      some [.output ⟨false, false⟩ e] := by
    generalize hs : "\x7b\x7b ".toList ++ v = s at hdefine hnode ⊢
    cases s with
    | nil => cases hs
    | cons c s =>
      unfold topNodes?
      rw [hdefine, hnode]
      cases m <;> rfl
  have hlength : ("\x7b\x7b ".toList ++ v).length = v.length + 2 + 1 := by
    rw [List.length_append]
    exact Nat.add_comm 3 v.length
  have hdepth (n : Nat) : 4 * (n + 1) = 4 * n + 3 + 1 := rfl
  unfold readNodes?
  simp only [hcomments, hparent, himports, hlength, hdepth, htop]
  rfl

theorem read_output {v : List Char} (name : String) (hv : skipSpace v = v)
    (hread : expression? v = some (e, " \x7d\x7d".toList)) (hwholes : e.wholes = []) :
    Source.read name (String.ofList ("\x7b\x7b ".toList ++ v)) = .ok (.outputting name e) := by
  have hnodes : nodesWholes [.output ⟨false, false⟩ e] = [] := by
    simp [nodesWholes, Node.wholes, hwholes]
  have hfault : (Source.ofNodes name (trimMargins [.output ⟨false, false⟩ e])).fault? = none := by
    change Source.fault? (.ofNodes name [.output ⟨false, false⟩ e]) = none
    rw [Source.fault?, Source.ofNodes, hnodes]
    rfl
  unfold Source.read
  rw [String.toList_ofList, readNodes?_output hv hread]
  dsimp only
  rw [hfault]
  rfl

end LivePages.Template
