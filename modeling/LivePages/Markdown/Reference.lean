import LivePages.Markdown.CharacterReference
import LivePages.Markdown.Lexical
import LivePages.Text.Blank
import LivePages.Text.CaseMap
import LivePages.Text.Utf8

/-!
Links by reference: labels, their definitions at the start of a paragraph, and the table of
definitions, in which the first for a label wins.
-/

namespace LivePages.Markdown

structure Destination where
  url : String
  title : String
  deriving DecidableEq, Repr

/-- The octets that a use of a destination adds to a page. -/
def Destination.size (d : Destination) : Nat :=
  d.url.utf8ByteSize + d.title.utf8ByteSize

abbrev References := List (List Char × Destination)

def References.get? (r : References) (label : List Char) : Option Destination :=
  (r.find? (·.1 == label)).map (·.2)

/-- The destination of a label and the octets left after its use: references may add only so many,
or a short text could make a long page. -/
def References.use? (r : References) (room : Nat) (label : List Char) : Option (Destination × Nat) :=
  (r.get? label).bind fun d => if d.size ≤ room then some (d, room - d.size) else none

def References.define (r : References) (label : List Char) (d : Destination) : References :=
  if (r.get? label).isSome then r else r ++ [(label, d)]

/-- Blanks run together to one space. -/
def foldBlanks : Bool → List Char → List Char
  | _, [] => []
  | afterBlank, c :: r =>
    if Text.isBlank c then
      if afterBlank then foldBlanks true r else ' ' :: foldBlanks true r
    else c :: foldBlanks false r

/-- The form in which labels are compared. -/
def normalizeLabel (s : List Char) : List Char :=
  Text.foldCase (foldBlanks false (trim s))

/-- A label takes at most this many octets. -/
def maxLabel : Nat := 1000

/-- The inside of a label after its `[`, last character first, and the rest after its `]`. -/
def labelInside? (size : Nat) (done : List Char) : List Char → Option (List Char × List Char)
  | [] => none
  | ']' :: r => some (done, r)
  | '[' :: _ => none
  | '\\' :: c :: r =>
    if isAsciiPunctuation c then
      if maxLabel < size + 2 then none else labelInside? (size + 2) (c :: '\\' :: done) r
    else if maxLabel < size + 1 then none
    else labelInside? (size + 1) ('\\' :: done) (c :: r)
  | c :: r =>
    let size' := size + Text.Utf8.width c
    if maxLabel < size' then none else labelInside? size' (c :: done) r

/-- A label in brackets, trimmed, and the rest. -/
def label? : List Char → Option (List Char × List Char)
  | '[' :: r => (labelInside? 0 [] r).map fun p => (trim p.1.reverse, p.2)
  | _ => none

def cleanUrl (s : List Char) : String :=
  String.ofList (unescape (CharacterReference.decode (trim s)))

/-- A title without its marks. -/
def cleanTitle (s : List Char) : String :=
  String.ofList (unescape (CharacterReference.decode ((s.drop 1).dropLast)))

/-- Skips blanks, at most one line end, and blanks again. -/
def skipBlanksAndLine (s : List Char) : List Char :=
  let skipLine := fun (s : List Char) =>
    match s with
    | '\r' :: '\n' :: r => r
    | '\r' :: r => r
    | '\n' :: r => r
    | _ => s
  (skipLine (s.dropWhile isBlankOrTab)).dropWhile isBlankOrTab

/-- The rest after a line end, or at the end of the text. -/
def lineEnd? : List Char → Option (List Char)
  | [] => some []
  | '\r' :: '\n' :: r => some r
  | '\r' :: r => some r
  | '\n' :: r => some r
  | _ => none

/-- A definition, up to the end of its line. A title with more after it belongs to the next line if
the destination alone ends one. -/
def definition? (s : List Char) : Option (List Char × Destination × List Char) := do
  let (label, r) ← label? s
  if label.isEmpty then none
  match r with
  | ':' :: r =>
    let (url, afterUrl) ← destination? (skipBlanksAndLine r)
    let beforeTitle := skipBlanksAndLine afterUrl
    let plain := do
      let rest ← lineEnd? (afterUrl.dropWhile isBlankOrTab)
      some (normalizeLabel label, ⟨cleanUrl url, ""⟩, rest)
    if beforeTitle.length = afterUrl.length then plain
    else
      match title? beforeTitle with
      | none => plain
      | some (title, afterTitle) =>
        match lineEnd? (afterTitle.dropWhile isBlankOrTab) with
        | some rest => some (normalizeLabel label, ⟨cleanUrl url, cleanTitle title⟩, rest)
        | none => plain
  | _ => none

/-- Takes the definitions off the front of a paragraph. -/
def takeDefinitions : Nat → References → List Char → References × List Char
  | 0, refs, s => (refs, s)
  | n + 1, refs, s =>
    match definition? s with
    | some (label, d, rest) =>
      takeDefinitions n (if label.isEmpty then refs else refs.define label d) rest
    | none => (refs, s)

end LivePages.Markdown
