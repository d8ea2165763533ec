import LivePages.Markdown.Lexical

/-!
A line being read, with the column of what follows. Tabs reach to the next multiple of four, and
one may be used up in part.
-/

namespace LivePages.Markdown

/-- The text still to read, its column, and whether its first tab is used up in part. -/
structure Line where
  rest : List Char
  column : Nat
  splitTab : Bool

namespace Line

def ofText (s : List Char) : Line :=
  ⟨s, 0, false⟩

def toTabStop (column : Nat) : Nat :=
  4 - column % 4

/-- Advances by columns, through part of a tab if need be. -/
def skipColumns : Nat → Line → Line
  | 0, l => l
  | n + 1, l =>
    match l.rest with
    | [] => l
    | '\t' :: r =>
      if toTabStop l.column = 1 then skipColumns n ⟨r, l.column + 1, false⟩
      else skipColumns n ⟨'\t' :: r, l.column + 1, true⟩
    | _ :: r => skipColumns n ⟨r, l.column + 1, false⟩

/-- Advances by characters. -/
def skipChars : Nat → Line → Line
  | 0, l => l
  | n + 1, l =>
    match l.rest with
    | [] => l
    | '\t' :: r => skipChars n ⟨r, l.column + toTabStop l.column, false⟩
    | _ :: r => skipChars n ⟨r, l.column + 1, false⟩

def skipBlanksFrom (column : Nat) (splitTab : Bool) : List Char → Line
  | ' ' :: r => skipBlanksFrom (column + 1) false r
  | '\t' :: r => skipBlanksFrom (column + toTabStop column) false r
  | r => ⟨r, column, splitTab⟩

/-- The line from its first character that is neither blank nor tab. -/
def skipBlanks (l : Line) : Line :=
  skipBlanksFrom l.column l.splitTab l.rest

/-- How many columns of blanks stand in front. -/
def indent (l : Line) : Nat :=
  l.skipBlanks.column - l.column

def isBlank (l : Line) : Bool :=
  atLineEnd l.skipBlanks.rest

/-- Skips one column if a blank or tab follows. -/
def skipOneBlank (l : Line) : Line :=
  if l.rest.head?.any isBlankOrTab then l.skipColumns 1 else l

/-- Skips up to so many columns of blanks. -/
def skipUpTo : Nat → Line → Line
  | 0, l => l
  | n + 1, l => if l.rest.head?.any isBlankOrTab then skipUpTo n (l.skipColumns 1) else l

/-- What remains as text: the unused columns of a split tab become spaces. -/
def text (l : Line) : List Char :=
  if l.splitTab then List.replicate (toTabStop l.column) ' ' ++ l.rest.drop 1 else l.rest

/-- Nothing remains. -/
def finished (l : Line) : Line :=
  { l with rest := [], splitTab := false }

end Line

/-- Cuts a text into lines, each with its line end; a last line may have none. -/
def linesFrom (done : List Char) : List Char → List (List Char)
  | [] => if done.isEmpty then [] else [done.reverse]
  | '\r' :: '\n' :: r => ('\n' :: '\r' :: done).reverse :: linesFrom [] r
  | c :: r =>
    if isLineEnd c then (c :: done).reverse :: linesFrom [] r else linesFrom (c :: done) r

def lines (s : List Char) : List (List Char) :=
  linesFrom [] s

end LivePages.Markdown
