import LivePages.Template.Expr
import LivePages.Template.Lexical

/-!
Reading expressions. The alternatives of each form are tried in order and the first that fits is
kept; blanks may stand between the parts. The number that every reader carries bounds how deep it
may go, and `expression?` takes it from the length of the text.
-/

namespace LivePages.Template

/-- Groups operands to the left, those of a tight operator first. -/
def arrange {Op α : Type} (tight : Op → Bool) (join : Op → α → α → α) (pending : Option (α × Op))
    (current : α) : List (Op × α) → α
  | [] =>
    match pending with
    | none => current
    | some (left, op) => join op left current
  | (op, x) :: r =>
    if tight op then arrange tight join pending (join op current x) r
    else
      let left :=
        match pending with
        | none => current
        | some (l, o) => join o l current
      arrange tight join (some (left, op)) x r

def Arithmetic.isTight : Arithmetic → Bool
  | .mul => true
  | .div => true
  | .rem => true
  | .add => false
  | .sub => false

def Connective.isTight : Connective → Bool
  | .both => true
  | .either => false

def joinTerms (op : Arithmetic) (a b : Term) : Term :=
  .arith op (.plain a) (.plain b)

def joinValues (op : Arithmetic) (a b : Expr) : Expr :=
  .plain (.arith op a b)

def joinConditions (op : Connective) (a b : Expr) : Expr :=
  .plain (.logic op a b)

/-- Neighbouring literal texts become one; a joined text of literals only is a literal. -/
def mergeTexts : List Term → List Term
  | .str a :: r =>
    match mergeTexts r with
    | .str b :: r' => .str (a ++ b) :: r'
    | r' => .str a :: r'
  | t :: r => t :: mergeTexts r
  | [] => []

def isEmptyText : Term → Bool
  | .str s => s.isEmpty
  | _ => false

def joinTexts (parts : List Term) : Term :=
  match mergeTexts parts with
  | [.str s] => .str s
  | merged => .joined (merged.filter fun t => !isEmptyText t)

def arithmetic? : Reads Arithmetic
  | '+' :: r => some (.add, r)
  | '-' :: r => some (.sub, r)
  | '*' :: r => some (.mul, r)
  | '/' :: r => some (.div, r)
  | '%' :: r => some (.rem, r)
  | _ => none

def comparison? : Reads Comparison
  | '=' :: '=' :: r => some (.eq, r)
  | '!' :: '=' :: r => some (.ne, r)
  | '>' :: '=' :: r => some (.ge, r)
  | '>' :: r => some (.gt, r)
  | '<' :: '=' :: r => some (.le, r)
  | '<' :: r => some (.lt, r)
  | _ => none

/-- A word that a blank must follow. -/
def spacedWord? (w : String) (s : List Char) : Option (List Char) :=
  (word? w s).bind space?

def connective? (s : List Char) : Option (Connective × List Char) :=
  ((spacedWord? "or" s).map (.either, ·)) <|> ((spacedWord? "and" s).map (.both, ·))

/-- An optional `not` before what follows. -/
def negation (s : List Char) : Bool × List Char :=
  match spacedWord? "not" s with
  | some r => (true, r)
  | none => (false, s)

mutual

/-- The simplest terms. -/
def term? : Nat → List Char → Option (Term × List Char)
  | 0, _ => none
  | n + 1, s =>
    ((boolean? s).map fun (b, r) => (.bool b, r)) <|>
    testOf? n true s <|> testOf? n false s <|>
    macroCall? n s <|>
    ((call? n s).map fun (f, r) => (.call f, r)) <|>
    ((path? s).map fun (p, r) => (.path p, r)) <|>
    ((decimal? s).map fun (x, r) => (.float x, r)) <|>
    ((whole? s).map fun (i, r) => (.int i, r))

/-- A path, `is`, perhaps `not`, and a test with its arguments. -/
def testOf? : Nat → Bool → List Char → Option (Term × List Char)
  | 0, _, _ => none
  | n + 1, negated, s => do
    let (p, s) ← dotted? s
    let s ← next? "is" s
    let s ← if negated then next? "not" s else some s
    let (name, s) ← name? (skipSpace s)
    match (next? "(" s).bind (testArgs? n) with
    | some (args, r) =>
      match next? ")" r with
      | some r => pure (.test p negated name args, r)
      | none => pure (.test p negated name [], s)
    | none => pure (.test p negated name [], s)

def testArgs? : Nat → List Char → Option (List Expr × List Char)
  | 0, _ => none
  | n + 1, s => do
    let (e, s) ← value? n (skipSpace s)
    match (next? "," s).bind (testArgs? n) with
    | some (es, r) => pure (e :: es, r)
    | none => pure ([e], s)

def macroCall? : Nat → List Char → Option (Term × List Char)
  | 0, _ => none
  | n + 1, s => do
    let (l, s) ← name? s
    let s ← next? "::" s
    let (f, s) ← call? n (skipSpace s)
    pure (.macroCall l f, s)

def call? : Nat → List Char → Option (Call × List Char)
  | 0, _ => none
  | n + 1, s => do
    let (name, s) ← name? s
    let s ← next? "(" s
    let (args, s) := (args? n (skipSpace s)).getD ([], s)
    let s ← next? ")" s
    pure (.mk name (lastOfEach args), s)

/-- Arguments by name; a comma may follow the last one. -/
def args? : Nat → List Char → Option (List (String × Expr) × List Char)
  | 0, _ => none
  | n + 1, s => do
    let (k, s) ← name? s
    let s ← next? "=" s
    let (e, s) ← value? n (skipSpace s)
    match next? "," s with
    | none => pure ([(k, e)], s)
    | some r =>
      match args? n (skipSpace r) with
      | some (rest, r) => pure ((k, e) :: rest, r)
      | none => pure ([(k, e)], r)

def operand? : Nat → List Char → Option (Term × List Char)
  | 0, _ => none
  | n + 1, '(' :: s => do
    let (t, s) ← sum? n (skipSpace s)
    let s ← next? ")" s
    pure (t, s)
  | n + 1, s => term? n s

def sum? : Nat → List Char → Option (Term × List Char)
  | 0, _ => none
  | n + 1, s => do
    let (t, s) ← operand? n s
    let (ts, s) := operands n s
    pure (arrange Arithmetic.isTight joinTerms none t ts, s)

def operands : Nat → List Char → List (Arithmetic × Term) × List Char
  | 0, s => ([], s)
  | n + 1, s =>
    match arithmetic? (skipSpace s) with
    | none => ([], s)
    | some (op, r) =>
      match operand? n (skipSpace r) with
      | none => ([], s)
      | some (t, r) =>
        let (ts, r) := operands n r
        ((op, t) :: ts, r)

def filters : Nat → List Char → List Call × List Char
  | 0, s => ([], s)
  | n + 1, s =>
    match next? "|" s with
    | none => ([], s)
    | some r =>
      match call? n (skipSpace r) <|> ((name? (skipSpace r)).map fun (f, r) => (.mk f [], r)) with
      | none => ([], s)
      | some (f, r) =>
        let (fs, r) := filters n r
        (f :: fs, r)

/-- An arithmetic expression with filters. -/
def filteredSum? : Nat → List Char → Option (Expr × List Char)
  | 0, _ => none
  | n + 1, s => do
    let (t, s) ← sum? n s
    let (fs, s) := filters n s
    pure (.mk t false fs, s)

/-- A part of a joined text. -/
def part? : Nat → List Char → Option (Term × List Char)
  | 0, _ => none
  | n + 1, s =>
    ((call? n s).map fun (f, r) => (.call f, r)) <|>
    ((decimal? s).map fun (x, r) => (.float x, r)) <|>
    ((whole? s).map fun (i, r) => (.int i, r)) <|>
    ((quoted? s).map fun (t, r) => (.str t, r)) <|>
    ((path? s).map fun (p, r) => (.path p, r))

def parts : Nat → List Char → List Term × List Char
  | 0, s => ([], s)
  | n + 1, s =>
    match (next? "~" s).bind fun r => part? n (skipSpace r) with
    | none => ([], s)
    | some (t, r) =>
      let (ts, r) := parts n r
      (t :: ts, r)

def joined? : Nat → List Char → Option (Term × List Char)
  | 0, _ => none
  | n + 1, s => do
    let (t, s) ← part? n s
    match parts n s with
    | ([], _) => none
    | (ts, s) => pure (joinTexts (t :: ts), s)

/-- A literal or joined text with filters. -/
def filteredText? : Nat → List Char → Option (Expr × List Char)
  | 0, _ => none
  | n + 1, s => do
    let (t, s) ← joined? n s <|> ((quoted? s).map fun (t, r) => (.str t, r))
    let (fs, s) := filters n s
    pure (.mk t false fs, s)

def filteredSums : Nat → List Char → List (Arithmetic × Expr) × List Char
  | 0, s => ([], s)
  | n + 1, s =>
    match arithmetic? (skipSpace s) with
    | none => ([], s)
    | some (op, r) =>
      match filteredSum? n (skipSpace r) with
      | none => ([], s)
      | some (e, r) =>
        let (es, r) := filteredSums n r
        ((op, e) :: es, r)

/-- One side of a comparison. -/
def side? : Nat → List Char → Option (Expr × List Char)
  | 0, _ => none
  | n + 1, s =>
    filteredText? n s <|> do
      let (e, s) ← filteredSum? n s
      let (es, s) := filteredSums n s
      pure (arrange Arithmetic.isTight joinValues none e es, s)

def comparisonOf? : Nat → List Char → Option (Expr × List Char)
  | 0, _ => none
  | n + 1, s => do
    let (a, s) ← side? n s
    match comparison? (skipSpace s) with
    | none => pure (a, s)
    | some (op, r) =>
      match side? n (skipSpace r) with
      | none => pure (a, s)
      | some (b, r) => pure (.plain (.compare op a b), r)

/-- A value, perhaps `not`, `in`, and a container. -/
def membership? : Nat → List Char → Option (Expr × List Char)
  | 0, _ => none
  | n + 1, s => do
    let (a, s) ← filteredText? n s <|> filteredSum? n s
    let (negated, s) := negation (skipSpace s)
    let s ← next? "in" s
    let s := skipSpace s
    let (b, s) ← filteredText? n s <|> filteredList? n s <|>
      ((path? s).map fun (p, r) => (.plain (.path p), r))
    pure (.plain (.member a b negated), s)

/-- One part of a condition; parentheses around a condition drop a `not` that stands directly
inside them. -/
def conjunct? : Nat → List Char → Option (Expr × List Char)
  | 0, _ => none
  | n + 1, s =>
    (do
      let (negated, r) := negation s
      let (e, r) ← membership? n r <|> comparisonOf? n r
      pure (e.setNegated negated, r)) <|>
    (do
      let s ← word? "(" s
      let (e, s) ← condition? n (skipSpace s)
      let s ← next? ")" s
      pure (e.setNegated false, s))

def conjuncts : Nat → List Char → List (Connective × Expr) × List Char
  | 0, s => ([], s)
  | n + 1, s =>
    match connective? (skipSpace s) with
    | none => ([], s)
    | some (op, r) =>
      match conjunct? n (skipSpace r) with
      | none => ([], s)
      | some (e, r) =>
        let (es, r) := conjuncts n r
        ((op, e) :: es, r)

def condition? : Nat → List Char → Option (Expr × List Char)
  | 0, _ => none
  | n + 1, s => do
    let (e, s) ← conjunct? n s
    let (es, s) := conjuncts n s
    pure (arrange Connective.isTight joinConditions none e es, s)

def listItems : Nat → List Char → List Expr × List Char
  | 0, s => ([], s)
  | n + 1, s =>
    match conjunct? n (skipSpace s) with
    | none => ([], s)
    | some (e, r) =>
      match next? "," r with
      | none => ([e], r)
      | some r' =>
        let (es, r'') := listItems n r'
        (e :: es, if es.isEmpty then r else r'')

/-- A list literal with filters; a comma may follow the last item. -/
def filteredList? : Nat → List Char → Option (Expr × List Char)
  | 0, _ => none
  | n + 1, s => do
    let s ← word? "[" s
    let (items, s) := listItems n s
    let s := (next? "," s).getD s
    let s ← next? "]" s
    let (fs, s) := filters n s
    pure (.mk (.list items) false fs, s)

/-- A condition or a list. -/
def value? : Nat → List Char → Option (Expr × List Char)
  | 0, _ => none
  | n + 1, s => condition? n s <|> filteredList? n s

end

/-- Depth enough for a text: no form goes through more readers than this for each character. -/
def depthFor (s : List Char) : Nat :=
  16 * (s.length + 2)

def expression? (s : List Char) : Option (Expr × List Char) :=
  value? (depthFor s) s

def conditionOf? (s : List Char) : Option (Expr × List Char) :=
  condition? (depthFor s) s

/-- What a loop can run over: an arithmetic expression or a list, with filters. -/
def container? (s : List Char) : Option (Expr × List Char) :=
  filteredSum? (depthFor s) s <|> filteredList? (depthFor s) s

/-- A filter with or without arguments. -/
def filterCall? (s : List Char) : Option (Call × List Char) :=
  call? (depthFor s) s <|> ((name? s).map fun (f, r) => (.mk f [], r))

end LivePages.Template
