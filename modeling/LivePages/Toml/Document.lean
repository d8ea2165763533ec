import LivePages.Toml.Moment
import LivePages.Toml.Number
import LivePages.Toml.Table

/-!
TOML documents: a document is read into sections, one for each header, and the sections are then
put together into one table. A document that breaks a rule of either step is refused as a whole.
-/

namespace LivePages.Toml

/-- A path of keys, the last of which is set. -/
structure Setting where
  path : List String
  value : Toml

def setAll (es : Entries) (settings : List Setting) : Option Entries :=
  settings.foldlM
    (fun es s =>
      match s.path.getLast? with
      | none => none
      | some k => es.put k s.value s.path.dropLast) es

inductive Heading
  | top
  | table (path : List String)
  | item (path : List String)
  deriving DecidableEq, Repr

/-- A heading with the settings that follow it. -/
structure Section where
  heading : Heading
  settings : List Setting

def Section.add (root : Entries) (s : Section) : Option Entries :=
  let fill (es : Entries) : Option Entries := setAll es s.settings
  match s.heading with
  | .top => fill root
  | .table path =>
    path.getLast?.bind fun k => root.below (fun es => es.openTable k fill) path.dropLast
  | .item path =>
    path.getLast?.bind fun k => root.below (fun es => es.openItem k fill) path.dropLast

/-! ### Values -/

def word? (w : List Char) (s : List Char) : Option (List Char) :=
  if w.isPrefixOf s then some (s.drop w.length) else none

/-- Values that hold no other values. -/
def plain? (s : List Char) : Option (Toml × List Char) :=
  ((text? s).map fun (t, r) => (Toml.str (String.ofList t), r)) <|>
  ((word? "true".toList s).map fun r => (Toml.bool true, r)) <|>
  ((word? "false".toList s).map fun r => (Toml.bool false, r)) <|>
  ((moment? s).map fun (m, r) => (Toml.moment m.text, r)) <|>
  float? s <|> whole? s

mutual

/-- A value; `depth` is how many more lists and tables may be open. -/
def value? (fuel depth : Nat) (s : List Char) : Option (Toml × List Char) :=
  match fuel with
  | 0 => none
  | n + 1 =>
    match s with
    | '[' :: r =>
      match depth with
      | 0 => none
      | d + 1 => (items? n d r).map fun (items, r) => (.arr items, r)
    | '{' :: r =>
      match depth with
      | 0 => none
      | d + 1 =>
        match skipGap r with
        | '}' :: r => some (.table [], r)
        | r => do
          let (settings, r) ← settings? n d r
          pure (.table (fieldsOf (← setAll [] settings)), r)
    | s => plain? s

/-- The items of a list up to its end; a comma may stand before the end. -/
def items? (fuel depth : Nat) (s : List Char) : Option (List Toml × List Char) :=
  match fuel with
  | 0 => none
  | n + 1 => do
    match ← skipLines? s with
    | ']' :: r => pure ([], r)
    | s =>
      let (v, r) ← value? n depth s
      match ← skipLines? r with
      | ',' :: r => (items? n depth r).map fun (vs, r) => (v :: vs, r)
      | ']' :: r => pure ([v], r)
      | _ => none

/-- The settings of a table in braces up to its end. -/
def settings? (fuel depth : Nat) (s : List Char) : Option (List Setting × List Char) :=
  match fuel with
  | 0 => none
  | n + 1 => do
    let (path, r) ← path? s
    let (v, r) ← value? n depth (skipGap (← after? '=' r))
    match skipGap r with
    | ',' :: r => (settings? n depth r).map fun (ss, r) => (⟨path, v⟩ :: ss, r)
    | '}' :: r => pure ([⟨path, v⟩], r)
    | _ => none

end

/-! ### Documents -/

/-- A path between brackets that fills its line. -/
def heading? (closing : List Char) (s : List Char) : Option (List String × List Char) := do
  let (path, r) ← path? s
  pure (path, ← afterTrailer? (← word? closing r))

def setting? (s : List Char) : Option (Setting × List Char) := do
  let (path, r) ← path? s
  let r := skipGap (← after? '=' r)
  let (v, r) ← value? (2 * r.length + 2) (depthLimit - 1) r
  pure (⟨path, v⟩, ← afterTrailer? r)

/-- The sections of a text, `current` being the one under way. -/
def sections? (fuel : Nat) (current : Section) (s : List Char) : Option (List Section) :=
  match fuel with
  | 0 => none
  | n + 1 =>
    match skipGap s with
    | [] => some [current]
    | '#' :: r => (afterLine? (r.dropWhile isPlain)).bind (sections? n current)
    | '\n' :: r => sections? n current r
    | '\r' :: '\n' :: r => sections? n current r
    | '[' :: '[' :: r => do
      let (path, r) ← heading? [']', ']'] r
      (sections? n ⟨.item path, []⟩ r).map (current :: ·)
    | '[' :: r => do
      let (path, r) ← heading? [']'] r
      (sections? n ⟨.table path, []⟩ r).map (current :: ·)
    | s => do
      let (setting, r) ← setting? s
      sections? n ⟨current.heading, current.settings ++ [setting]⟩ r

/-- A mark of the byte order at the start does not count. -/
def dropOrderMark : List Char → List Char
  | c :: r => if c.toNat = 0xFEFF then r else c :: r
  | [] => []

/-- The fields of the table that a document describes. -/
def parse? (text : String) : Option (List (String × Toml)) := do
  let s := dropOrderMark text.toList
  let sections ← sections? (s.length + 1) ⟨.top, []⟩ s
  pure (fieldsOf (← sections.foldlM Section.add []))

end LivePages.Toml
