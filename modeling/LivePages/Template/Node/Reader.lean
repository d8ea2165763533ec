import LivePages.Template.Expr.Reader
import LivePages.Template.Node

/-!
Reading templates. What may stand in a body depends on the place of the body: only a block may ask
for the block it replaces, only a loop may be left early, and definitions stand at the top. A
template opens with the tag that names its parent and those that import, and these stand nowhere
else.
-/

namespace LivePages.Template

inductive Place
  | plain
  | block
  | loop
  | definition
  | filtered
  deriving DecidableEq, Repr

/-- The opening of a tag with its kind of bracket; `true` if it drops the blanks before it. -/
def opening? (bracket : Char) : List Char → Option (Bool × List Char)
  | '\x7b' :: c :: '-' :: r => if c = bracket then some (true, r) else none
  | '\x7b' :: c :: r => if c = bracket then some (false, r) else none
  | _ => none

/-- The end of a tag; `true` if it drops the blanks after it. -/
def closing? (bracket : Char) : List Char → Option (Bool × List Char)
  | '-' :: c :: '\x7d' :: r => if c = bracket then some (true, r) else none
  | c :: '\x7d' :: r => if c = bracket then some (false, r) else none
  | _ => none

def startsTag : List Char → Bool
  | '\x7b' :: c :: _ => c == '\x7b' || c == '%' || c == '#'
  | _ => false

/-- A tag `w`, up to the word. -/
def tagOpening? (w : String) (s : List Char) : Option (Bool × List Char) := do
  let (left, s) ← opening? '%' s
  let s ← next? w s
  pure (left, s)

def tagClosing? (s : List Char) : Option (Bool × List Char) :=
  closing? '%' (skipSpace s)

/-- A tag that is nothing but its word. -/
def bareTag? (w : String) (s : List Char) : Option (Margin × List Char) := do
  let (left, s) ← tagOpening? w s
  let (right, s) ← tagClosing? s
  pure (⟨left, right⟩, s)

/-- A tag of its word, blanks, and something read by `body`. -/
def tagOf? {α : Type} (w : String) (body : Reads α) (s : List Char) :
    Option ((Margin × α) × List Char) := do
  let (left, s) ← tagOpening? w s
  let s ← space? s
  let (a, s) ← body s
  let (right, s) ← tagClosing? s
  pure ((⟨left, right⟩, a), s)

/-- A closing tag that may repeat a name. -/
def namedEnd? (w : String) (s : List Char) : Option (Margin × List Char) := do
  let (left, s) ← tagOpening? w s
  let s := ((name? (skipSpace s)).map (·.2)).getD s
  let (right, s) ← tagClosing? s
  pure (⟨left, right⟩, s)

def textUntilTag : List Char → List Char × List Char
  | [] => ([], [])
  | c :: r =>
    if startsTag (c :: r) then ([], c :: r)
    else
      let (a, b) := textUntilTag r
      (c :: a, b)

def text? (s : List Char) : Option (Node × List Char) :=
  match textUntilTag s with
  | ([], _) => none
  | (a, b) => some (.text (String.ofList a), b)

/-- From inside a comment to its end. -/
def commentEnd? : List Char → Option (Bool × List Char)
  | [] => none
  | c :: r =>
    match closing? '#' (c :: r) with
    | some e => some e
    | none => commentEnd? r

def comment? (s : List Char) : Option (Node × List Char) := do
  let (left, s) ← opening? '#' s
  match closing? '#' s with
  | some _ => none
  | none =>
    let (right, s) ← commentEnd? s
    pure (.comment ⟨left, right⟩, s)

def rawEnd? : List Char → Option (List Char × Margin × List Char)
  | [] => none
  | c :: r =>
    match bareTag? "endraw" (c :: r) with
    | some (m, rest) => some ([], m, rest)
    | none =>
      match rawEnd? r with
      | some (a, m, rest) => some (c :: a, m, rest)
      | none => none

def raw? (s : List Char) : Option (Node × List Char) := do
  let (m, s) ← bareTag? "raw" s
  let (a, m', s) ← rawEnd? s
  pure (.raw m (String.ofList a) m', s)

def output? (s : List Char) : Option (Node × List Char) := do
  let (left, s) ← opening? '\x7b' s
  let (e, s) ← expression? (skipSpace s)
  let (right, s) ← closing? '\x7d' (skipSpace s)
  pure (.output ⟨left, right⟩ e, s)

def super? (s : List Char) : Option (Node × List Char) := do
  let (_, s) ← opening? '\x7b' s
  let s ← next? "super()" s
  let (_, s) ← closing? '\x7d' (skipSpace s)
  pure (.super, s)

def assignment? : Reads (String × Expr) := fun s => do
  let (name, s) ← name? s
  let s ← next? "=" s
  let (e, s) ← expression? (skipSpace s)
  pure ((name, e), s)

def assign? (w : String) (everywhere : Bool) (s : List Char) : Option (Node × List Char) :=
  (tagOf? w assignment? s).map fun ((m, name, e), r) => (.assign m name everywhere e, r)

def textList : Nat → List Char → List String × List Char
  | 0, s => ([], s)
  | n + 1, s =>
    match quoted? (skipSpace s) with
    | none => ([], s)
    | some (t, r) =>
      match next? "," r with
      | none => ([t], r)
      | some r' =>
        let (ts, r'') := textList n r'
        (t :: ts, if ts.isEmpty then r else r'')

def textArray? (s : List Char) : Option (List String × List Char) := do
  let s ← word? "[" s
  let (items, s) := textList s.length s
  let s := (next? "," s).getD s
  let s ← next? "]" s
  pure (items, s)

def embedding? : Reads (List String × Bool) := fun s => do
  let (names, s) ← ((quoted? s).map fun (t, r) => ([t], r)) <|> textArray? s
  match (next? "ignore" s).bind (next? "missing") with
  | some r => pure ((names, true), r)
  | none => pure ((names, false), s)

def embed? (s : List Char) : Option (Node × List Char) :=
  (tagOf? "include" embedding? s).map fun ((m, names, optional), r) => (.embed m names optional, r)

def importing? : Reads (String × String) := fun s => do
  let (file, s) ← quoted? s
  let s ← space? s
  let s ← word? "as" s
  let s ← space? s
  let (library, s) ← name? s
  pure ((file, library), s)

/-- A tag of the head of a template. The blanks on both sides of it belong to no text. -/
def headTag? {α : Type} (w : String) (body : Reads α) (s : List Char) :
    Option ((Margin × α) × List Char) :=
  (tagOf? w body (skipSpace s)).map fun (x, r) => (x, skipSpace r)

def imports? (s : List Char) : Option (Node × List Char) :=
  (headTag? "import" importing? s).map fun ((m, file, library), r) => (.imports m file library, r)

/-- As many imports as can be read. -/
def importsFrom : Nat → List Char → List Node × List Char
  | 0, s => ([], s)
  | n + 1, s =>
    match imports? s with
    | none => ([], s)
    | some (x, r) =>
      let (xs, r) := importsFrom n r
      (x :: xs, r)

def parent? (s : List Char) : Option (Node × List Char) :=
  (headTag? "extends" quoted? s).map fun ((m, name), r) => (.parent m name, r)

/-- The value an argument has when none is given: a literal. -/
def defaultValue? (s : List Char) : Option (Expr × List Char) :=
  ((boolean? s).map fun (b, r) => (.plain (.bool b), r)) <|>
  ((quoted? s).map fun (t, r) => (.plain (.str t), r)) <|>
  ((decimal? s).map fun (x, r) => (.plain (.float x), r)) <|>
  ((whole? s).map fun (i, r) => (.plain (.int i), r))

def param? (s : List Char) : Option ((String × Option Expr) × List Char) := do
  let (name, s) ← name? s
  match (next? "=" s).bind fun r => defaultValue? (skipSpace r) with
  | some (e, r) => pure ((name, some e), r)
  | none => pure ((name, none), s)

def params : Nat → List Char → List (String × Option Expr) × List Char
  | 0, s => ([], s)
  | n + 1, s =>
    match param? (skipSpace s) with
    | none => ([], s)
    | some (p, r) =>
      match next? "," r with
      | none => ([p], r)
      | some r' =>
        let (ps, r'') := params n r'
        (p :: ps, if ps.isEmpty then r' else r'')

def signature? : Reads (String × List (String × Option Expr)) := fun s => do
  let (name, s) ← name? s
  let s ← next? "(" s
  let (ps, s) := params s.length s
  let s ← next? ")" s
  pure ((name, ps), s)

def iteration? : Reads (Option String × String × Expr) := fun s => do
  let (first, s) ← name? s
  let (key, value, s) :=
    match (next? "," s).bind fun r => name? (skipSpace r) with
    | some (second, r) => (some first, second, r)
    | none => (none, first, s)
  let s ← space? s
  let s ← word? "in" s
  let s ← space? s
  let (e, s) ← container? s
  pure ((key, value, e), s)

/-- The nodes that hold no others. -/
def leaf? (place : Place) (s : List Char) : Option (Node × List Char) :=
  embed? s <|> (if place = .block then super? s else none) <|> output? s <|> comment? s <|>
    assign? "set" false s <|> assign? "set_global" true s <|> raw? s <|>
    (if place = .loop then
      ((bareTag? "break" s).map fun (m, r) => (.stop m, r)) <|>
      ((bareTag? "continue" s).map fun (m, r) => (.skip m, r))
    else none) <|>
    text? s

def Place.holdsBlocks : Place → Bool
  | .plain => true
  | .block => true
  | .filtered => true
  | _ => false

mutual

def node? : Nat → Place → List Char → Option (Node × List Char)
  | 0, _, _ => none
  | n + 1, place, s =>
    leaf? place s <|> (if place.holdsBlocks then block? n s else none) <|> choose? n place s <|>
      loop? n s <|> filtered? n s

/-- As many nodes as can be read. -/
def nodes : Nat → Place → List Char → List Node × List Char
  | 0, _, s => ([], s)
  | n + 1, place, s =>
    match node? n place s with
    | none => ([], s)
    | some (x, r) =>
      let (xs, r) := nodes n place r
      (x :: xs, r)

def block? : Nat → List Char → Option (Node × List Char)
  | 0, _ => none
  | n + 1, s => do
    let ((m, name), s) ← tagOf? "block" name? s
    let (body, s) := nodes n .block s
    let (m', s) ← namedEnd? "endblock" s
    pure (.block m name body m', s)

def choose? : Nat → Place → List Char → Option (Node × List Char)
  | 0, _, _ => none
  | n + 1, place, s => do
    let ((m, c), s) ← tagOf? "if" conditionOf? s
    let (body, s) := nodes n place s
    let (branches, s) := branches n place s
    match bareTag? "else" s with
    | some (m', r) =>
      let (other, r) := nodes n place r
      let (m'', r) ← bareTag? "endif" r
      pure (.choose (.mk m c body :: branches) (some (m', other)) m'', r)
    | none =>
      let (m'', s) ← bareTag? "endif" s
      pure (.choose (.mk m c body :: branches) none m'', s)

def branches : Nat → Place → List Char → List Branch × List Char
  | 0, _, s => ([], s)
  | n + 1, place, s =>
    match tagOf? "elif" conditionOf? s with
    | none => ([], s)
    | some ((m, c), r) =>
      let (body, r) := nodes n place r
      let (bs, r) := branches n place r
      (.mk m c body :: bs, r)

def loop? : Nat → List Char → Option (Node × List Char)
  | 0, _ => none
  | n + 1, s => do
    let ((m, key, value, e), s) ← tagOf? "for" iteration? s
    let (body, s) := nodes n .loop s
    match bareTag? "else" s with
    | some (_, r) =>
      let (other, r) := nodes n .loop r
      let (m', r) ← bareTag? "endfor" r
      pure (.loop m key value e body (some other) m', r)
    | none =>
      let (m', s) ← bareTag? "endfor" s
      pure (.loop m key value e body none m', s)

def filtered? : Nat → List Char → Option (Node × List Char)
  | 0, _ => none
  | n + 1, s => do
    let ((m, f), s) ← tagOf? "filter" filterCall? s
    let (body, s) := nodes n .filtered s
    let (m', s) ← bareTag? "endfilter" s
    pure (.filtered m f body m', s)

end

/-- A definition, which stands at the top only. -/
def define? (n : Nat) (s : List Char) : Option (Node × List Char) := do
  let ((m, name, ps), s) ← tagOf? "macro" signature? s
  let (body, s) := nodes n .definition s
  let (m', s) ← namedEnd? "endmacro" s
  pure (.define m name ps body m', s)

/-- All nodes after the head of a template, or nothing if some of it cannot be read. -/
def topNodes? (depth : Nat) : Nat → List Char → Option (List Node)
  | _, [] => some []
  | 0, _ :: _ => none
  | n + 1, s => do
    let (x, r) ← define? depth s <|> node? depth .plain s
    let xs ← topNodes? depth n r
    pure (x :: xs)

/-- Comments at the very start leave no trace. -/
def dropComments : Nat → List Char → List Char
  | 0, s => s
  | n + 1, s =>
    match comment? s with
    | some (_, r) => dropComments n r
    | none => s

/-- Reads a template: comments, perhaps the template it extends, imports, then everything else. -/
def readNodes? (s : List Char) : Option (List Node) :=
  let s := dropComments s.length s
  let depth := 4 * (s.length + 1)
  let (parent, r) : List Node × List Char :=
    match parent? s with
    | some (x, r) => ([x], r)
    | none => ([], s)
  let (imports, r) := importsFrom r.length r
  (topNodes? depth r.length r).map fun body => parent ++ imports ++ body

end LivePages.Template
