import LivePages.Markdown.Line
import LivePages.Markdown.Reference

/-!
The block structure of a text, found line by line. Blocks under way form a stack of frames, the
innermost first; a line first goes on with some of them, then may open new ones, and its remaining
text goes to the innermost. A block is closed when a line does not go on with it, unless the line
lazily continues a paragraph.
-/

namespace LivePages.Markdown

/-- What introduces a list item. `padding` is the width that its lines give up, beside the indent
`offset` of the marker. -/
structure ListMarker where
  ordered : Bool
  start : Nat
  mark : Char
  padding : Nat
  offset : Nat
  deriving DecidableEq, Repr

/-- Markers of one list. -/
def ListMarker.agrees (a b : ListMarker) : Bool :=
  a.ordered == b.ordered && a.mark == b.mark

/-- The kinds of blocks. How tight a list is stands with it if that was settled before the list was
closed. -/
inductive BlockKind
  | document
  | blockQuote
  | list (m : ListMarker) (tight? : Option Bool)
  | item (m : ListMarker)
  | paragraph
  | heading (level : Nat) (underlined : Bool)
  | fenced (mark : Char) (length indent : Nat)
  | indented
  | markup (m : MarkupBlock)
  | thematicBreak
  | table
  deriving DecidableEq, Repr

namespace BlockKind

def isItem : BlockKind → Bool
  | .item _ => true
  | _ => false

def canContain (parent child : BlockKind) : Bool :=
  match parent with
  | .document => !child.isItem
  | .blockQuote => !child.isItem
  | .item _ => !child.isItem
  | .list _ _ => child.isItem
  | _ => false

/-- Kinds whose lines are kept as text and that take no blocks. -/
def acceptsLines : BlockKind → Bool
  | .paragraph => true
  | .heading _ _ => true
  | .fenced _ _ _ => true
  | .indented => true
  | _ => false

/-- Kinds inside which nothing new is opened. -/
def isVerbatim : BlockKind → Bool
  | .fenced _ _ _ => true
  | .indented => true
  | .markup _ => true
  | _ => false

def isParagraph : BlockKind → Bool
  | .paragraph => true
  | _ => false

end BlockKind

/-- A closed block. `endsBlank` says that a blank line followed its last one. -/
inductive Block
  | mk (kind : BlockKind) (content : List Char) (endsBlank : Bool) (children : List Block)

namespace Block

def kind : Block → BlockKind
  | .mk k _ _ _ => k

def children : Block → List Block
  | .mk _ _ _ cs => cs

def markBlank : Block → Block
  | .mk k c _ cs => .mk k c true cs

mutual

/-- Whether a blank line ends the block or, in lists, its last child. -/
def endsWithBlank : Block → Bool
  | .mk k _ endsBlank cs =>
    endsBlank ||
      match k with
      | .list _ _ => lastEndsWithBlank cs
      | .item _ => lastEndsWithBlank cs
      | _ => false

def lastEndsWithBlank : List Block → Bool
  | [] => false
  | [b] => endsWithBlank b
  | _ :: b :: r => lastEndsWithBlank (b :: r)

end

def endsBlank : Block → Bool
  | .mk _ _ e _ => e

/-- Whether a blank line separates two of an item's children, or ends one that is followed by
another item. -/
def loosens (followed : Bool) : List Block → Bool
  | [] => false
  | b :: r => ((followed || !r.isEmpty) && b.endsWithBlank) || loosens followed r

/-- A list is tight if no blank line separates its items or their children. -/
def isTight : List Block → Bool
  | [] => true
  | b :: r =>
    !(b.endsBlank && !r.isEmpty) && !loosens (!r.isEmpty) b.children && isTight r

end Block

/-- A block under way, its lines and closed children last first, with the number of its first line
and whether a delimiter row failed to make a table. -/
structure Frame where
  kind : BlockKind
  lines : List (List Char)
  endsBlank : Bool
  done : List Block
  openedAt : Nat
  noTable : Bool

namespace Frame

def new (kind : BlockKind) (at_ : Nat) : Frame :=
  ⟨kind, [], false, [], at_, false⟩

def content (f : Frame) : List Char :=
  f.lines.reverse.flatten

def addText (f : Frame) (s : List Char) : Frame :=
  if s.isEmpty then f else { f with lines := s :: f.lines }

/-- The block that a frame becomes. Definitions are taken off a paragraph; without other text it
leaves nothing. -/
def close (f : Frame) (refs : References) : References × List Block :=
  match f.kind with
  | .paragraph =>
    let text := f.content
    let (refs, text) := takeDefinitions text.length refs text
    (refs, if blankToLineEnd text then [] else [.mk .paragraph text f.endsBlank []])
  | k => (refs, [.mk k f.content f.endsBlank f.done.reverse])

/-- Frames, the outermost first, as the blocks that they are so far. -/
def blocksSoFar : List Frame → List Block
  | [] => []
  | f :: r => [.mk f.kind f.content f.endsBlank (f.done.reverse ++ blocksSoFar r)]

/-- Settles how tight a list is; `inner` are the frames inside it, the outermost first. -/
def settleTight (inner : List Frame) (f : Frame) : Frame :=
  match f.kind with
  | .list m none =>
    { f with kind := .list m (some (Block.isTight (f.done.reverse ++ blocksSoFar inner))) }
  | _ => f

end Frame

/-- Closes the innermost frame into the one around it. -/
def closeTop (refs : References) : List Frame → References × List Frame
  | f :: p :: r =>
    let (refs, bs) := f.close refs
    (refs, { p with done := bs ++ p.done } :: r)
  | fs => (refs, fs)

def closeTops : Nat → References → List Frame → References × List Frame
  | 0, refs, fs => (refs, fs)
  | n + 1, refs, fs =>
    let (refs, fs) := closeTop refs fs
    closeTops n refs fs

/-- Closes frames until the innermost can contain a kind. -/
def makeRoom (kind : BlockKind) : Nat → References → List Frame → References × List Frame
  | 0, refs, fs => (refs, fs)
  | n + 1, refs, fs =>
    if fs.head?.any fun f => f.kind.canContain kind then (refs, fs)
    else
      let (refs, fs) := closeTop refs fs
      makeRoom kind n refs fs

/-! ### Going on with open blocks -/

/-- Whether a line goes on with a block. -/
inductive GoOn
  | yes (rest : Line)
  | no
  | closingFence

def goOnQuote (l : Line) : GoOn :=
  if l.indent ≤ 3 && l.skipBlanks.rest.head? == some '>' then
    .yes (l.skipColumns (l.indent + 1)).skipOneBlank
  else .no

def goOnItem (m : ListMarker) (hasChild : Bool) (l : Line) : GoOn :=
  if m.offset + m.padding ≤ l.indent then .yes (l.skipColumns (m.offset + m.padding))
  else if l.isBlank && hasChild then .yes l.skipBlanks
  else .no

def goOnFenced (mark : Char) (length indent : Nat) (l : Line) : GoOn :=
  let closing :=
    if l.indent ≤ 3 then (fenceEnd? mark l.skipBlanks.rest).getD 0 else 0
  if length ≤ closing then .closingFence else .yes (l.skipUpTo indent)

def goOnIndented (l : Line) : GoOn :=
  if 4 ≤ l.indent then .yes (l.skipColumns 4)
  else if l.isBlank then .yes l.skipBlanks
  else .no

def MarkupBlock.endsAtBlank : MarkupBlock → Bool
  | .blockTag => true
  | .anyTag => true
  | _ => false

def Frame.goOn (f : Frame) (hasOpenChild : Bool) (l : Line) : GoOn :=
  match f.kind with
  | .blockQuote => goOnQuote l
  | .item m => goOnItem m (hasOpenChild || !f.done.isEmpty) l
  | .fenced mark length indent => goOnFenced mark length indent l
  | .indented => goOnIndented l
  | .markup m => if m.endsAtBlank && l.isBlank then .no else .yes l
  | .paragraph => if l.isBlank then .no else .yes l
  | .table => if l.isBlank then .no else .yes l
  | .heading _ _ => .no
  | _ => .yes l

/-- How far a line goes on with the frames: those it does, innermost first, and those it does not,
outermost first. -/
structure Descent where
  matched : List Frame
  left : List Frame
  line : Line
  closesFence : Bool

def descend (l : Line) (matched : List Frame) : List Frame → Descent
  | [] => ⟨matched, [], l, false⟩
  | f :: r =>
    match f.goOn (!r.isEmpty) l with
    | .yes l' => descend l' (f :: matched) r
    | .no => ⟨matched, f :: r, l, false⟩
    | .closingFence => ⟨matched, f :: r, l, true⟩

/-! ### Opening blocks -/

/-- A line at work: the frames it has reached, those that it may still leave open, and its rest. -/
structure Work where
  refs : References
  frames : List Frame
  left : List Frame
  line : Line
  number : Nat

namespace Work

/-- Closes the frames that the line did not go on with. -/
def closeLeft (w : Work) : Work :=
  let (refs, frames) := closeTops w.left.length w.refs (w.left.reverse ++ w.frames)
  { w with refs := refs, frames := frames, left := [] }

def top (w : Work) : BlockKind :=
  (w.frames.head?.map (·.kind)).getD .document

def mapTop (w : Work) (f : Frame → Frame) : Work :=
  match w.frames with
  | [] => w
  | t :: r => { w with frames := f t :: r }

/-- Opens a block in the innermost one that can contain it. A list that cannot is settled before the
blocks inside it are closed. -/
def push (w : Work) (kind : BlockKind) : Work :=
  let w := if w.top.canContain kind then w else w.mapTop (Frame.settleTight w.left)
  let w := w.closeLeft
  let (refs, frames) := makeRoom kind w.frames.length w.refs w.frames
  { w with refs := refs, frames := Frame.new kind w.number :: frames }

def openQuote? (w : Work) : Option Work :=
  let l := w.line.skipBlanks
  if l.rest.head? == some '>' then
    some { w.push .blockQuote with line := (l.skipChars 1).skipOneBlank }
  else none

def openHeading? (w : Work) : Option Work :=
  let l := w.line.skipBlanks
  (hashHeading? l.rest).map fun (level, r) =>
    { w.push (.heading level false) with line := l.skipChars (l.rest.length - r.length) }

def openFence? (w : Work) : Option Work :=
  let l := w.line.skipBlanks
  (fenceStart? l.rest).map fun (mark, n) =>
    let offset := w.line.rest.length - l.rest.length
    { w.push (.fenced mark n offset) with line := l.skipChars n }

def openMarkup? (w : Work) : Option Work :=
  let s := w.line.skipBlanks.rest
  match markupBlock? s with
  | some m => some (w.push (.markup m))
  | none => if !w.top.isParagraph && isTagLine s then some (w.push (.markup .anyTag)) else none

/-- An underline makes a heading of a paragraph that has more than definitions. -/
def openUnderlined? (w : Work) : Option Work :=
  if !w.top.isParagraph then none
  else
    match underline? w.line.skipBlanks.rest with
    | none => none
    | some level =>
      match w.frames with
      | [] => none
      | f :: r =>
        let text := f.content
        let (refs, text) := takeDefinitions text.length w.refs text
        let f := { f with lines := [text] }
        if blankToLineEnd text then some { w with refs := refs, frames := f :: r }
        else
          some { w with
            refs := refs, frames := { f with kind := .heading level true } :: r,
            line := w.line.finished }

def openBreak? (w : Work) (allMatched : Bool) : Option Work :=
  if w.top.isParagraph && !allMatched then none
  else if isThematicBreak w.line.skipBlanks.rest then
    some { w.push .thematicBreak with line := w.line.finished }
  else none

/-- A list marker at the front of a text and its width. In a paragraph only one with text after it
counts, and a number must be 1. -/
def marker? (inParagraph : Bool) (s : List Char) : Option (Nat × Bool × Nat × Char) :=
  let hasText := fun (r : List Char) => !(inParagraph && blankToLineEnd r)
  match s with
  | [] => none
  | c :: r =>
    if c == '*' || c == '-' || c == '+' then
      -- a bullet may end the text, a number needs a blank or line end after it
      if r.head?.all isSpace && hasText r then some (1, false, 1, c) else none
    else
      let ds := s.takeWhile Char.isDigit
      if 1 ≤ ds.length && ds.length ≤ 9 then
        let start := CharacterReference.decimalNumber ds
        match s.drop ds.length with
        | d :: r' =>
          if (d == '.' || d == ')') && !(inParagraph && start != 1) && r'.head?.any isSpace &&
              hasText r' then
            some (ds.length + 1, true, start, d)
          else none
        | [] => none
      else none

def openItem? (w : Work) (depth : Nat) : Option Work :=
  let indent := w.line.indent
  if 4 ≤ indent || 100 ≤ depth then none
  else
    let l := w.line.skipBlanks
    (marker? w.top.isParagraph l.rest).map fun (width, ordered, start, mark) =>
      let l := l.skipChars width
      let l' := l.skipUpTo 6
      let gap := l'.column - l.column
      let narrow := gap < 1 || 5 ≤ gap || atLineEnd l'.rest
      let m : ListMarker := ⟨ordered, start, mark, if narrow then width + 1 else width + gap, indent⟩
      let line := if !narrow then l' else if 0 < gap then l.skipColumns 1 else l
      let sameList :=
        match w.top with
        | .list m' _ => m.agrees m'
        | _ => false
      let w := if sameList then w else w.push (.list m none)
      { w.push (.item m) with line := line }

def openIndented? (w : Work) (maybeLazy : Bool) : Option Work :=
  if 4 ≤ w.line.indent && !maybeLazy && !w.line.isBlank then
    some { w.push .indented with line := w.line.skipColumns 4 }
  else none

/-! #### Tables, an extension -/

/-- Counts the cells of a row after a bar that may open it: each ends at an unprotected bar, the
last, unless empty, with the text. -/
def cellsFrom (begun : Bool) : List Char → Nat
  | [] => if begun then 1 else 0
  | '\\' :: _ :: r => cellsFrom true r
  | c :: r => if c == '|' then cellsFrom false r + 1 else cellsFrom true r

def cellCount (s : List Char) : Nat :=
  let s := trim s
  cellsFrom false (if s.head? == some '|' then s.drop 1 else s)

def isDelimiterCell (s : List Char) : Bool :=
  let s := trim s
  let s := if s.head? == some ':' then s.drop 1 else s
  let s := if s.getLast? == some ':' then s.dropLast else s
  !s.isEmpty && s.all (· == '-')

def isDelimiterRow (s : List Char) : Bool :=
  let s := trim s
  let s := if s.head? == some '|' then s.drop 1 else s
  let s := if s.getLast? == some '|' then s.dropLast else s
  (Text.splitOn '|' s).all isDelimiterCell

/-- A delimiter row below a paragraph's last line with as many cells makes a table of that line. No
later row does if one has failed. -/
def openTable? (w : Work) : Option Work :=
  match w.frames with
  | [] => none
  | f :: r =>
    let s := w.line.skipBlanks.rest
    match f.kind, f.lines with
    | .paragraph, header :: above =>
      if f.noTable || !isDelimiterRow s then none
      else if cellCount header == cellCount s then
        let w := { w with frames := { f with lines := above } :: r }
        some { w.push .table with line := w.line.finished }
      else some { w with frames := { f with noTable := true } :: r }
    | _, _ => none

/-- Tries every way to open a block, in order. -/
def openOne? (w : Work) (tables allMatched maybeLazy : Bool) (depth : Nat) : Option Work :=
  let plain :=
    if 4 ≤ w.line.indent then none
    else
      w.openQuote? <|> w.openHeading? <|> w.openFence? <|> w.openMarkup? <|> w.openUnderlined? <|>
        w.openBreak? allMatched
  plain <|> w.openItem? depth <|> w.openIndented? maybeLazy <|>
    (if tables && w.line.indent < 4 then w.openTable? else none)

/-- Opens blocks while there are any; a marker consumes text, so the line's length bounds them. -/
def openAll (tables allMatched : Bool) : Nat → Bool → Nat → Work → Work
  | 0, _, _, w => w
  | n + 1, maybeLazy, depth, w =>
    if w.top.isVerbatim then w
    else
      match w.openOne? tables allMatched maybeLazy depth with
      | none => w
      | some w' =>
        if w'.top.acceptsLines then w' else openAll tables allMatched n false (depth + 1) w'

/-! ### Adding text -/

/-- A heading's text without the `#`s that close it. -/
def chopHashes (s : List Char) : List Char :=
  let t := (trimEnd s).reverse
  let r := t.dropWhile (· == '#')
  if r.isEmpty then []
  else if r.length < t.length && r.head?.any isBlankOrTab then trimEnd r.reverse
  else t.reverse

/-- Notes a blank line at the innermost block's last child, and at that block if its kind counts
blank lines; the blocks around it end with text. -/
def noteBlank (w : Work) (blank : Bool) : Work :=
  let w :=
    if !blank then w
    else
      match w.left with
      | f :: r => { w with left := { f with endsBlank := true } :: r }
      | [] =>
        w.mapTop fun f =>
          match f.done with
          | b :: bs => { f with done := b.markBlank :: bs }
          | [] => f
  match w.frames with
  | [] => w
  | f :: around =>
    let counts :=
      match f.kind with
      | .blockQuote => false
      | .heading _ _ => false
      | .thematicBreak => false
      | .fenced _ _ _ => false
      | .item _ => !f.done.isEmpty || !w.left.isEmpty || f.openedAt != w.number
      | _ => true
    { w with
      frames := { f with endsBlank := blank && counts } ::
        around.map fun g => { g with endsBlank := false } }

def addText (w : Work) : Work :=
  let blank := w.line.isBlank
  let text := w.line.text
  match w.top with
  | .fenced _ _ _ => w.mapTop (·.addText text)
  | .indented => w.mapTop (·.addText text)
  | .markup m =>
    let w := w.mapTop (·.addText text)
    if m.endsIn w.line.skipBlanks.rest then
      let (refs, frames) := closeTop w.refs w.frames
      { w with refs := refs, frames := frames }
    else w
  | .heading _ false =>
    if blank then w else w.mapTop (·.addText (chopHashes w.line.skipBlanks.rest))
  | .table => w
  | k =>
    if blank then w
    else if k.acceptsLines then w.mapTop (·.addText w.line.skipBlanks.rest)
    else (w.push .paragraph).mapTop (·.addText w.line.skipBlanks.rest)

/-- A line that opens nothing goes on with a paragraph that it would otherwise end. -/
def isLazy (w : Work) : Bool :=
  !w.line.isBlank && (w.left.getLast?.any fun f => f.kind.isParagraph)

end Work

/-- The frames and definitions after some lines. -/
structure Reading where
  refs : References
  frames : List Frame
  number : Nat

namespace Reading

def start : Reading :=
  ⟨[], [Frame.new .document 0], 0⟩

def addLine (tables : Bool) (r : Reading) (text : List Char) : Reading :=
  let number := r.number + 1
  let text := if r.number = 0 && text.head? == some '\ufeff' then text.drop 1 else text
  let d := descend (Line.ofText text) [] r.frames.reverse
  if d.closesFence then
    let (refs, frames) := closeTops d.left.length r.refs (d.left.reverse ++ d.matched)
    ⟨refs, frames, number⟩
  else
    let w : Work := ⟨r.refs, d.matched, d.left, d.line, number⟩
    let maybeLazy := r.frames.head?.any fun f => f.kind.isParagraph
    let w' := Work.openAll tables d.left.isEmpty (d.line.rest.length + 2) maybeLazy 1 w
    let w'' := w'.noteBlank w'.line.isBlank
    if w''.isLazy then
      let left := w''.left.modify (w''.left.length - 1) (·.addText w''.line.text)
      ⟨w''.refs, left.reverse ++ w''.frames, number⟩
    else
      let w := w''.closeLeft.addText
      ⟨w.refs, w.frames, number⟩

/-- Closes all frames: the definitions and the document. -/
def finish (r : Reading) : References × Block :=
  let (refs, frames) := closeTops r.frames.length r.refs r.frames
  match frames with
  | f :: _ => (refs, .mk .document [] false f.done.reverse)
  | [] => (refs, .mk .document [] false [])

end Reading

/-- The blocks of a text and the definitions found in it. -/
def readBlocks (tables : Bool) (s : List Char) : References × Block :=
  ((lines s).foldl (Reading.addLine tables) Reading.start).finish

end LivePages.Markdown
