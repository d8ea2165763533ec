import LivePages.Markdown.Lexical
import LivePages.Markdown.Tree
import LivePages.Text.Blank
import LivePages.Text.Punctuation

/-!
Bare addresses in text: `http://`, `https://` and `ftp://` addresses, hosts that begin with `www.`,
and mail addresses.
-/

namespace LivePages.Markdown.Autolink

def isHostChar (c : Char) : Bool :=
  !(Text.isBlank c || Text.isPunctuation c)

/-- What a host has so far: dots, underscores in its last label, and those in the one before. -/
structure Host where
  dots : Nat
  last : Nat
  beforeLast : Nat

/-- The length of the host at the front of a text. It needs a dot, and no underscore in its last
two labels. -/
def hostLength? (h : Host) (n : Nat) : List Char → Option Nat
  | [] =>
    if (0 < h.beforeLast || 0 < h.last) && h.dots ≤ 10 then none
    else if 0 < h.dots then some n else none
  | c :: r =>
    if c == '\\' && !r.isEmpty then hostLength? h (n + 1) r
    else if c == '_' then hostLength? { h with last := h.last + 1 } (n + 1) r
    else if c == '.' then hostLength? ⟨h.dots + 1, 0, h.last⟩ (n + 1) r
    else if !isHostChar c && c != '-' then
      if h.beforeLast == 0 && h.last == 0 && 0 < h.dots then some n else none
    else hostLength? h (n + 1) r

def isTrailing (c : Char) : Bool :=
  "?!.,:*_~'\"".toList.contains c

/-- Drops from the end of an address, written last character first, what does not belong to it:
marks, character references, and closing parentheses without an opening one. -/
def trimTail : Nat → List Char → List Char
  | 0, s => s
  | _, [] => []
  | n + 1, c :: r =>
    if isTrailing c then trimTail n r
    else if c == ';' then
      let name := r.takeWhile Char.isAlpha
      match r.drop name.length with
      | '&' :: r' => if name.isEmpty then trimTail n r else trimTail n r'
      | _ => trimTail n r
    else if c == ')' && (c :: r).count '(' < (c :: r).count ')' then trimTail n r
    else c :: r

/-- The part of a text, up to a `<`, that an address keeps. One U+2069, which closes an isolated
piece of bidirectional text, is dropped from what is left. -/
def trimmed (s : List Char) : List Char :=
  let s := s.takeWhile (· != '<')
  match trimTail s.length s.reverse with
  | '\u2069' :: r => r.reverse
  | r => r.reverse

def untilSpace (s : List Char) : List Char :=
  s.takeWhile fun c => !isSpace c

def link (url shown : List Char) : Tree :=
  .mk (.link (String.ofList url) "") [Tree.text shown]

/-- Characters after which `www.` may begin an address. -/
def mayPrecede (c : Char) : Bool :=
  isSpace c || "*_~([".toList.contains c

/-- An address at the front of a text: what it links, and its length. -/
def www? (previous : Option Char) (s : List Char) : Option (Tree × Nat) :=
  if previous.all mayPrecede && beginsWith "www." s then
    (hostLength? ⟨0, 0, 0⟩ 0 (s.drop 4)).bind fun n =>
      let rest := s.drop (4 + n)
      let shown := trimmed (s.take (4 + n) ++ untilSpace rest)
      some (link ("http://".toList ++ shown) shown, shown.length)
  else none

/-- An address whose scheme ends before the `:` at the front of `s`, with the lengths of the scheme
and of the rest; `past` is what precedes, reversed. -/
def url? (past s : List Char) : Option (Tree × Nat × Nat) :=
  if beginsWith "://" s then
    let scheme := (past.takeWhile Char.isAlpha).reverse
    if ["http", "https", "ftp"].any fun w => w.toList == scheme then
      (hostLength? ⟨0, 0, 0⟩ 0 (s.drop 3)).bind fun n =>
        let tail := trimmed (s.take n ++ untilSpace (s.drop n))
        let whole := scheme ++ tail
        some (link whole whole, scheme.length, tail.length)
    else none
  else none

/-! ### Mail addresses -/

def isMailbox (c : Char) : Bool :=
  c.isAlphanum || c == '.' || c == '+' || c == '-' || c == '_'

/-- Takes a mailbox off the end of a text, last character first, and says whether it names its
scheme. More mailbox characters may stand before the scheme. -/
def mailbox : List Char → List Char × Bool × Bool
  | [] => ([], false, false)
  | c :: r =>
    if isMailbox c then
      let (m, named, chat) := mailbox r
      (c :: m, named, chat)
    else if c == ':' && r.takeWhile Char.isAlpha == "otliam".toList then
      let (m, _, chat) := mailbox r
      (c :: m, true, chat)
    else if c == ':' && r.takeWhile Char.isAlpha == "ppmx".toList then
      let (m, _, _) := mailbox r
      (c :: m, true, true)
    else ([], false, false)

/-- The domain after the `@`: its length and its dots, or nothing when another `@` follows. -/
def domain? (chat : Bool) (n dots : Nat) : List Char → Option (Nat × Nat)
  | [] => some (n, dots)
  | c :: r =>
    if c.isAlphanum then domain? chat (n + 1) dots r
    else if c == '@' then none
    else if c == '.' && r.head?.any Char.isAlphanum then domain? chat (n + 1) (dots + 1) r
    else if c == '/' && chat then domain? chat (n + 1) dots r
    else if c == '-' || c == '_' then domain? chat (n + 1) dots r
    else some (n, dots)

/-- A mail address around the `@` between two texts, the first written last character first: what
it links, the length of its mailbox and that of the rest. -/
def mail? (past rest : List Char) : Option (Tree × Nat × Nat) :=
  let (box, named, chat) := mailbox past
  if box.isEmpty then none
  else
    (domain? chat 0 0 rest).bind fun (n, dots) =>
      let host := rest.take n
      if n = 0 || dots = 0 || !(host.getLast?.any fun c => c.isAlpha || c == '.') then none
      else
        let tail := trimmed ('@' :: host)
        if tail.isEmpty then none
        else
          let shown := box.reverse ++ tail
          let url := if named then shown else "mailto:".toList ++ shown
          some (link url shown, box.length, tail.length)

/-- The first mail address outside brackets: the text before it, what it links, the text after. -/
def findMail? (depth : Int) (past : List Char) : List Char → Option (List Char × Tree × List Char)
  | [] => none
  | c :: r =>
    let depth := if c == '[' then depth + 1 else if c == ']' then depth - 1 else depth
    if c == '@' && depth ≤ 0 then
      match mail? past r with
      | some (t, before, after) => some ((past.drop before).reverse, t, (c :: r).drop after)
      | none => findMail? depth (c :: past) r
    else findMail? depth (c :: past) r

/-- Links the mail addresses of a text. -/
def linkMail : Nat → List Char → List Tree
  | 0, s => [Tree.text s]
  | n + 1, s =>
    match findMail? 0 [] s with
    | none => [Tree.text s]
    | some (before, t, after) =>
      (if before.isEmpty then [] else [Tree.text before]) ++
        t :: (if after.isEmpty then [] else linkMail n after)

end LivePages.Markdown.Autolink
