import LivePages.Json.Parser

/-!
The smallest parts of a TOML text: gaps, line ends, comments, keys and the four kinds of strings.
Each reader gives what it read and the rest, or nothing where its form does not stand.
-/

namespace LivePages.Toml

def isGap (c : Char) : Bool :=
  c = ' ' || c = '\t'

def skipGap (s : List Char) : List Char :=
  s.dropWhile isGap

/-- The characters that stand for themselves in a string or comment, quotes and backslash apart. -/
def isPlain (c : Char) : Bool :=
  c = '\t' || (0x20 ≤ c.toNat && c.toNat ≤ 0x7E) || 0x80 ≤ c.toNat

def afterLineFeed? : List Char → Option (List Char)
  | '\n' :: r => some r
  | '\r' :: '\n' :: r => some r
  | _ => none

def skipComment : List Char → List Char
  | '#' :: r => r.dropWhile isPlain
  | s => s

/-- What follows a line feed, or nothing at the end of the text. -/
def afterLine? : List Char → Option (List Char)
  | [] => some []
  | s => afterLineFeed? s

/-- The rest of a line may only hold a gap and a comment. -/
def afterTrailer? (s : List Char) : Option (List Char) :=
  afterLine? (skipComment (skipGap s))

/-- Gaps, line feeds and comments between the items of a list. A comment ends with a line feed. -/
def skipLinesFrom : Nat → List Char → Option (List Char)
  | 0, s => some s
  | n + 1, s =>
    match skipGap s with
    | '#' :: r => (afterLineFeed? (r.dropWhile isPlain)).bind (skipLinesFrom n)
    | '\n' :: r => skipLinesFrom n r
    | '\r' :: '\n' :: r => skipLinesFrom n r
    | '\r' :: _ => none
    | r => some r

def skipLines? (s : List Char) : Option (List Char) :=
  skipLinesFrom (s.length + 1) s

/-! ### Strings -/

def scalar? (n : Nat) : Option Char :=
  if n < 0xD800 || (0xDFFF < n && n < 0x110000) then some (Char.ofNat n) else none

/-- The character with the given hexadecimal digits as its number. -/
def coded? (digits : List Char) : Option Char :=
  (digits.mapM Json.hexValue?).bind fun ds => scalar? (ds.foldl (fun n d => 16 * n + d) 0)

/-- The character that a letter after a backslash stands for. -/
def escaped? : Char → Option Char
  | 'b' => some '\x08'
  | 'f' => some '\x0C'
  | 'n' => some '\n'
  | 'r' => some '\r'
  | 't' => some '\t'
  | '"' => some '"'
  | '\\' => some '\\'
  | _ => none

/-- A character before the text that `more` reads. -/
def prepend? (c : Option Char) (more : Option (List Char × List Char)) :
    Option (List Char × List Char) :=
  c.bind fun c => more.map fun (s, r) => (c :: s, r)

/-- A string after its opening double quote. -/
def basic? : List Char → Option (List Char × List Char)
  | [] => none
  | '"' :: r => some ([], r)
  | '\\' :: 'u' :: a :: b :: c :: d :: r => prepend? (coded? [a, b, c, d]) (basic? r)
  | '\\' :: 'U' :: a :: b :: c :: d :: e :: f :: g :: h :: r =>
    prepend? (coded? [a, b, c, d, e, f, g, h]) (basic? r)
  | '\\' :: c :: r => prepend? (escaped? c) (basic? r)
  | c :: r => if isPlain c && c ≠ '\\' then prepend? (some c) (basic? r) else none

/-- A string after its opening single quote. -/
def verbatim? : List Char → Option (List Char × List Char)
  | [] => none
  | '\'' :: r => some ([], r)
  | c :: r => if isPlain c then prepend? (some c) (verbatim? r) else none

/-- A string of several lines after its opening quotes; up to two quotes may precede the closing
ones. `folds`: blanks after a backslash are left out. -/
def lines? (folds : Bool) : List Char → Option (List Char × List Char)
  | [] => none
  | '"' :: '"' :: '"' :: '"' :: '"' :: r => some (['"', '"'], r)
  | '"' :: '"' :: '"' :: '"' :: r => some (['"'], r)
  | '"' :: '"' :: '"' :: r => some ([], r)
  | '\r' :: '\n' :: r => if folds then lines? true r else prepend? (some '\n') (lines? false r)
  | '\\' :: 'u' :: a :: b :: c :: d :: r => prepend? (coded? [a, b, c, d]) (lines? false r)
  | '\\' :: 'U' :: a :: b :: c :: d :: e :: f :: g :: h :: r =>
    prepend? (coded? [a, b, c, d, e, f, g, h]) (lines? false r)
  | '\\' :: c :: r =>
    if (afterLineFeed? (skipGap (c :: r))).isSome then lines? true (c :: r)
    else prepend? (escaped? c) (lines? false r)
  | c :: r =>
    if folds && (isGap c || c = '\n') then lines? true r
    else if (isPlain c && c ≠ '\\') || c = '\n' then prepend? (some c) (lines? false r)
    else none

/-- As `lines?`, where nothing is escaped. -/
def verbatimLines? : List Char → Option (List Char × List Char)
  | [] => none
  | '\'' :: '\'' :: '\'' :: '\'' :: '\'' :: r => some (['\'', '\''], r)
  | '\'' :: '\'' :: '\'' :: '\'' :: r => some (['\''], r)
  | '\'' :: '\'' :: '\'' :: r => some ([], r)
  | '\r' :: '\n' :: r => prepend? (some '\n') (verbatimLines? r)
  | c :: r => if isPlain c || c = '\n' then prepend? (some c) (verbatimLines? r) else none

/-- A line feed right after the opening quotes does not count. -/
def dropFirstLine (s : List Char) : List Char :=
  (afterLineFeed? s).getD s

def text? : List Char → Option (List Char × List Char)
  | '"' :: '"' :: '"' :: r => lines? false (dropFirstLine r)
  | '"' :: r => basic? r
  | '\'' :: '\'' :: '\'' :: r => verbatimLines? (dropFirstLine r)
  | '\'' :: r => verbatim? r
  | _ => none

/-! ### Keys -/

def isBare (c : Char) : Bool :=
  c.isAlphanum || c = '-' || c = '_'

def simpleKey? : List Char → Option (String × List Char)
  | '"' :: r => (basic? r).map fun (k, r) => (String.ofList k, r)
  | '\'' :: r => (verbatim? r).map fun (k, r) => (String.ofList k, r)
  | s =>
    let k := s.takeWhile isBare
    if k.isEmpty then none else some (String.ofList k, s.dropWhile isBare)

/-- How many keys one path may have, and how deep lists and tables may nest. -/
def depthLimit : Nat := 80

/-- Keys between points, with gaps around each. -/
def pathFrom? : Nat → List Char → Option (List String × List Char)
  | 0, _ => none
  | n + 1, s => do
    let (k, r) ← simpleKey? (skipGap s)
    match skipGap r with
    | '.' :: r => (pathFrom? n r).map fun (ks, r) => (k :: ks, r)
    | r => pure ([k], r)

def path? (s : List Char) : Option (List String × List Char) :=
  pathFrom? (depthLimit - 1) s

end LivePages.Toml
