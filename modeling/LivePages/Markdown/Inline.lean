import LivePages.Markdown.Autolink
import LivePages.Markdown.Emphasis
import LivePages.Markdown.Reference
import LivePages.Text.Punctuation

/-!
The inline structure of a paragraph or heading. A left-to-right scan leaves pieces; a closing
bracket that finds a destination turns the pieces since its opening one into a link or image, and
at the end emphasis is matched among what is left.
-/

namespace LivePages.Markdown

/-- Extensions beyond bare addresses. -/
structure Extensions where
  strikethrough : Bool
  table : Bool
  superscript : Bool
  deriving DecidableEq, Repr

def Extensions.none : Extensions :=
  ⟨false, false, false⟩

/-- A scan under way: the text read (reversed) and its length, the text to read, the pieces (last
first), forms without an end, and the room for references. -/
structure Scan where
  past : List Char
  pos : Nat
  rest : List Char
  out : List Piece
  inBrackets : Bool
  noLinkOpeners : Bool
  endless : List SoughtEnd
  room : Nat

namespace Scan

def start (room : Nat) (s : List Char) : Scan :=
  ⟨[], 0, s, [], false, false, [], room⟩

/-- Reads `n` characters. -/
def advance (n : Nat) (s : Scan) : Scan :=
  { s with
    past := (s.rest.take n).reverse ++ s.past
    pos := s.pos + min n s.rest.length
    rest := s.rest.drop n }

/-- Reads up to a given rest. -/
def advanceTo (rest : List Char) (s : Scan) : Scan :=
  s.advance (s.rest.length - rest.length)

def emit (p : Piece) (s : Scan) : Scan :=
  { s with out := p :: s.out }

def emitText (t : List Char) (s : Scan) : Scan :=
  if t.isEmpty then s else s.emit (.text t)

def emitLeaf (c : Construct) (s : Scan) : Scan :=
  s.emit (.node (Tree.leaf c))

/-- Takes back the last `n` characters of text. -/
def takeBack : Nat → List Piece → List Piece
  | 0, out => out
  | n, .text t :: out =>
    if n < t.length then .text (t.take (t.length - n)) :: out else takeBack (n - t.length) out
  | _, out => out

/-! ### Single forms -/

def newline (s : Scan) : Scan :=
  let hard := match s.past with | ' ' :: ' ' :: _ => true | _ => false
  let rest := match s.rest with
    | '\r' :: '\n' :: r => r
    | _ :: r => r
    | [] => []
  (s.advanceTo (rest.dropWhile isBlankOrTab)).emitLeaf (if hard then .lineBreak else .softBreak)

/-- Spaces at both ends of a code span, one each, unless it is all spaces. -/
def stripCode (s : List Char) : List Char :=
  if s.any (· != ' ') && s.head? == some ' ' && s.getLast? == some ' ' then (s.drop 1).dropLast
  else s

/-- Line ends in a code span are spaces. -/
def codeText : List Char → List Char
  | [] => []
  | '\r' :: '\n' :: r => ' ' :: codeText r
  | c :: r => (if isLineEnd c then ' ' else c) :: codeText r

/-- The text before the next run of exactly `n` backticks, and the rest after it. -/
def closingTicks? (n : Nat) : Nat → List Char → List Char → Option (List Char × List Char)
  | 0, _, _ => none
  | fuel + 1, done, s =>
    let inside := s.takeWhile (· != '`')
    let r := s.drop inside.length
    if r.isEmpty then none
    else
      let k := (r.takeWhile (· == '`')).length
      if k = n then some (done ++ inside, r.drop k)
      else closingTicks? n fuel (done ++ inside ++ r.take k) (r.drop k)

def code (s : Scan) : Scan :=
  let n := (s.rest.takeWhile (· == '`')).length
  let r := s.rest.drop n
  match (if n ≤ 80 then closingTicks? n (r.length + 1) [] r else none) with
  | some (inside, rest) =>
    (s.advanceTo rest).emitLeaf (.code (String.ofList (stripCode (codeText inside))))
  | none => (s.advance n).emitText (List.replicate n '`')

def backslash (s : Scan) : Scan :=
  match s.rest.drop 1 with
  | c :: _ =>
    if isAsciiPunctuation c then (s.advance 2).emitLeaf (.escaped (String.singleton c))
    else if isLineEnd c then
      (s.advanceTo ((lineEnd? (s.rest.drop 1)).getD [])).emitLeaf .lineBreak
    else (s.advance 1).emitText ['\\']
  | [] => (s.advance 1).emitText ['\\']

def reference (s : Scan) : Scan :=
  match CharacterReference.read? (s.rest.drop 1) with
  | some (cs, rest) => (s.advanceTo rest).emitText cs
  | none => (s.advance 1).emitText ['&']

def angle (s : Scan) : Scan :=
  let r := s.rest.drop 1
  match uriBetweenAngles? r, mailBetweenAngles? r with
  | some (uri, rest), _ =>
    let shown := CharacterReference.decode uri
    (s.advanceTo rest).emit (.node (Autolink.link shown shown))
  | none, some (mail, rest) =>
    let shown := CharacterReference.decode mail
    (s.advanceTo rest).emit (.node (Autolink.link ("mailto:".toList ++ shown) shown))
  | none, none =>
    match inlineMarkup s.endless r with
    | .found rest =>
      let literal := s.rest.take (s.rest.length - rest.length)
      (s.advanceTo rest).emitLeaf (.htmlInline (String.ofList literal))
    | .endless form => { (s.advance 1).emitText ['<'] with endless := form :: s.endless }
    | .absent => (s.advance 1).emitText ['<']

/-! ### Runs of marks -/

def flanks (before after : Char) : Bool :=
  !Text.isBlank after &&
    !(Text.isPunctuation after && !Text.isBlank before && !Text.isPunctuation before)

/-- Runs of `_` open or close only at the edge of a word, and more than two tildes are text. -/
def marks (skipped : Char → Bool) (s : Scan) (mark : Char) : Scan :=
  let n := (s.rest.takeWhile (· == mark)).length
  let before := ((s.past.dropWhile skipped).head?).getD '\n'
  let after := (((s.rest.drop n).dropWhile skipped).head?).getD '\n'
  let left := flanks before after
  let right := flanks after before
  let canOpen :=
    if mark == '_' then left && (!right || Text.isPunctuation before) else left
  let canClose :=
    if mark == '_' then right && (!left || Text.isPunctuation after) else right
  if mark == '~' && 2 < n then (s.advance n).emitText (List.replicate n mark)
  else (s.advance n).emit (.run ⟨mark, n, n, canOpen, canClose, s.pos⟩)

/-! ### Brackets -/

/-- Notes that a bracket stands inside the innermost open one. -/
def noteBracket : List Piece → List Piece
  | [] => []
  | .bracket b :: r => .bracket { b with bracketAfter := true } :: r
  | p :: r => p :: noteBracket r

def openBracket (image : Bool) (s : Scan) : Scan :=
  let s := s.advance (if image then 2 else 1)
  { s with
    out := .bracket ⟨image, s.pos, false⟩ :: noteBracket s.out
    inBrackets := true
    noLinkOpeners := if image then s.noLinkOpeners else false }

/-- The innermost open bracket: the pieces after it in order, and those before it. -/
def innermost? (inside : List Piece) : List Piece → Option (Bracket × List Piece × List Piece)
  | [] => none
  | .bracket b :: before => some (b, inside, before)
  | p :: before => innermost? (p :: inside) before

/-- Destination and title in parentheses after a closing bracket. -/
def inlineDestination? (s : List Char) : Option (Destination × List Char) :=
  match s with
  | '(' :: r => do
    let (url, r) ← destination? (r.dropWhile isTagSpace)
    let r' := r.dropWhile isTagSpace
    let (title, r'') :=
      if r'.length = r.length then ([], r')
      else (title? r').getD ([], r')
    match r''.dropWhile isTagSpace with
    | ')' :: rest => some (⟨cleanUrl url, cleanTitle title⟩, rest)
    | _ => none
  | _ => none

/-- What a closing bracket finds: a destination, the rest after it, and the room left. -/
structure Target where
  destination : Destination
  rest : List Char
  room : Nat

/-- The destination may stand in parentheses, or be found by the label in brackets after the closing
one or by the bracketed text itself. -/
def linkTarget? (refs : References) (s : Scan) (b : Bracket) : Option Target :=
  let after := s.rest.drop 1
  match inlineDestination? after with
  | some (d, rest) => some ⟨d, rest, s.room⟩
  | none =>
    let own := (s.past.take (s.pos - b.pos)).reverse
    let (label?, rest) : Option (List Char) × List Char :=
      match label? after with
      | some (l, rest) =>
        if l.isEmpty then (if b.bracketAfter then some l else some own, rest) else (some l, rest)
      | none => (if b.bracketAfter then none else some own, after)
    label?.bind fun l =>
      (refs.use? s.room (normalizeLabel l)).map fun (d, room) => ⟨d, rest, room⟩

def closeBracket (refs : References) (s : Scan) : Scan :=
  let s := { s with inBrackets := false }
  match innermost? [] s.out with
  | none => (s.advance 1).emitText [']']
  | some (b, inside, before) =>
    let asText :=
      ({ s with out := inside.reverse ++ Piece.text b.text :: before }.advance 1).emitText [']']
    if !b.image && s.noLinkOpeners then asText
    else
      match linkTarget? refs s b with
      | none => asText
      | some ⟨d, rest, room⟩ =>
        let construct : Construct := if b.image then .image d.url d.title else .link d.url d.title
        let s := s.advanceTo rest
        { s with
          out := .node (.mk construct (emphasise inside)) :: before
          noLinkOpeners := s.noLinkOpeners || !b.image
          room := room }

/-! ### Bare addresses and plain text -/

def www (s : Scan) : Scan :=
  match (if s.inBrackets then none else Autolink.www? s.past.head? s.rest) with
  | some (t, n) => (s.advance n).emit (.node t)
  | none => (s.advance 1).emitText ['w']

def colon (s : Scan) : Scan :=
  match (if s.inBrackets then none else Autolink.url? s.past s.rest) with
  | some (t, back, n) =>
    { s.advance n with out := .node t :: takeBack back s.out }
  | none => (s.advance 1).emitText [':']

def isSpecial (x : Extensions) (c : Char) : Bool :=
  "\n\r_*`\\&<[]!:w".toList.contains c || (x.strikethrough && c == '~') ||
    (x.superscript && c == '^')

def afterBreak (s : Scan) : Bool :=
  match s.out with
  | .node (.mk .lineBreak _) :: _ => true
  | _ => false

/-- Characters up to the next that may begin a form; blanks around a line end are dropped. -/
def plain (x : Extensions) (s : Scan) : Scan :=
  let t := s.rest.takeWhile fun c => !isSpecial x c
  let t := if t.isEmpty then s.rest.take 1 else t
  let s' := s.advance t.length
  let t := if s'.rest.head?.any isLineEnd then trimEnd t else t
  s'.emitText (if s.afterBreak then t.dropWhile isSpace else t)

def step (x : Extensions) (refs : References) (s : Scan) : Scan :=
  let skipped := fun c => x.strikethrough && c == '~'
  match s.rest with
  | [] => s
  | '\n' :: _ => s.newline
  | '\r' :: _ => s.newline
  | '`' :: _ => s.code
  | '\\' :: _ => s.backslash
  | '&' :: _ => s.reference
  | '<' :: _ => s.angle
  | '*' :: _ => s.marks skipped '*'
  | '_' :: _ => s.marks skipped '_'
  | '[' :: _ => s.openBracket false
  | ']' :: _ => s.closeBracket refs
  | '!' :: '[' :: '^' :: _ => (s.advance 1).emitText ['!']
  | '!' :: '[' :: _ => s.openBracket true
  | '!' :: _ => (s.advance 1).emitText ['!']
  | ':' :: _ => s.colon
  | 'w' :: _ => s.www
  | c :: _ =>
    if x.strikethrough && c == '~' then s.marks skipped '~'
    else if x.superscript && c == '^' && !s.inBrackets then s.marks skipped '^'
    else s.plain x

def run (x : Extensions) (refs : References) : Nat → Scan → Scan
  | 0, s => s
  | n + 1, s => if s.rest.isEmpty then s else run x refs n (s.step x refs)

end Scan

/-- Joins texts that stand side by side, and drops empty ones. -/
def joinTexts : List Tree → List Tree
  | [] => []
  | .mk (.text a) cs :: r =>
    match joinTexts r with
    | .mk (.text b) _ :: r' => .mk (.text (a ++ b)) cs :: r'
    | r' => if a.isEmpty then r' else .mk (.text a) cs :: r'
  | t :: r => t :: joinTexts r

/-- Protected characters as plain text. -/
def Tree.unprotect : Tree → Tree
  | .mk (.escaped s) cs => .mk (.text s) cs
  | t => t

mutual

/-- Joins texts throughout, and links mail addresses outside links and images. -/
def settle (linked : Bool) : Tree → Tree
  | .mk c cs =>
    let linked := linked || match c with
      | .link _ _ => true
      | .image _ _ => true
      | _ => false
    let parts := linkMails linked (joinTexts (settleAll linked cs))
    .mk c (joinTexts (parts.map Tree.unprotect))

def settleAll (linked : Bool) : List Tree → List Tree
  | [] => []
  | t :: r => settle linked t :: settleAll linked r

/-- Replaces each text by its parts. -/
def linkMails (linked : Bool) : List Tree → List Tree
  | [] => []
  | .mk (.text s) cs :: r =>
    (if linked then [.mk (.text s) cs] else Autolink.linkMail s.length s.toList) ++
      linkMails linked r
  | t :: r => t :: linkMails linked r

end

/-- The constructs of a paragraph's or heading's text, and the room that its references leave. -/
def readInlines (x : Extensions) (refs : References) (room : Nat) (text : List Char) :
    List Tree × Nat :=
  let s := Scan.start room (trimEnd text)
  let s := s.run x refs s.rest.length
  (emphasise s.out.reverse, s.room)

end LivePages.Markdown
