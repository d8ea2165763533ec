/-!
The smallest written forms of the template language. Each reader takes the text before it, and
gives what it read with the text after it, or nothing.
-/

namespace LivePages.Template

abbrev Reads (α : Type) := List Char → Option (α × List Char)

def isSpace (c : Char) : Bool :=
  c == ' ' || c == '\t' || c == '\r' || c == '\n'

def skipSpace (s : List Char) : List Char :=
  s.dropWhile isSpace

/-- Blanks, at least one. -/
def space? : List Char → Option (List Char)
  | [] => none
  | c :: r => if isSpace c then some (skipSpace r) else none

def literal? : List Char → List Char → Option (List Char)
  | [], s => some s
  | _ :: _, [] => none
  | w :: ws, c :: r => if w = c then literal? ws r else none

/-- The word `w`. -/
def word? (w : String) (s : List Char) : Option (List Char) :=
  literal? w.toList s

/-- The word `w` with blanks before it. -/
def next? (w : String) (s : List Char) : Option (List Char) :=
  word? w (skipSpace s)

def isNameStart (c : Char) : Bool :=
  c.isAlpha || c == '_'

def isNameChar (c : Char) : Bool :=
  c.isAlphanum || c == '_'

/-- What lies between the text `s` and its end part `rest`. -/
def taken (s rest : List Char) : List Char :=
  s.take (s.length - rest.length)

def name? : Reads String
  | [] => none
  | c :: r =>
    if isNameStart c then some (String.ofList (c :: r.takeWhile isNameChar), r.dropWhile isNameChar)
    else none

/-- After a name: any number of a point and name characters. -/
def afterSteps : Nat → List Char → List Char
  | n + 1, '.' :: c :: r =>
    if isNameChar c then afterSteps n (r.dropWhile isNameChar) else '.' :: c :: r
  | _, s => s

def dotted? (s : List Char) : Option (String × List Char) := do
  let (_, r) ← name? s
  let rest := afterSteps s.length r
  pure (String.ofList (taken s rest), rest)

/-- After a whole number: zero alone, or digits that do not start with zero. -/
def afterDigits? : List Char → Option (List Char)
  | '0' :: r => some r
  | c :: r => if c.isDigit then some (r.dropWhile Char.isDigit) else none
  | [] => none

def afterSign : List Char → List Char
  | '-' :: r => r
  | s => s

def afterWhole? (s : List Char) : Option (List Char) :=
  afterDigits? (afterSign s)

def digitsValue (s : List Char) : Nat :=
  s.foldl (fun n c => 10 * n + (c.toNat - 48)) 0

def isNegative : List Char → Bool
  | '-' :: _ => true
  | _ => false

def whole? (s : List Char) : Option (Int × List Char) := do
  let rest ← afterWhole? s
  let n := digitsValue (taken (afterSign s) rest)
  pure (if isNegative s then -(n : Int) else n, rest)

def decimal? (s : List Char) : Option (Float × List Char) := do
  let rest ← afterWhole? s
  match rest with
  | '.' :: c :: r =>
    if c.isDigit then
      let places := c :: r.takeWhile Char.isDigit
      let m := digitsValue (taken (afterSign s) rest ++ places)
      let x := Float.ofScientific m true places.length
      some (if isNegative s then -x else x, r.dropWhile Char.isDigit)
    else none
  | _ => none

def isQuoteMark (c : Char) : Bool :=
  c == '"' || c == '\'' || c == '`'

/-- A text between two equal quote marks; nothing is escaped in it. -/
def quoted? : Reads String
  | [] => none
  | q :: r =>
    if isQuoteMark q then
      match r.dropWhile (· != q) with
      | _ :: rest => some (String.ofList (r.takeWhile (· != q)), rest)
      | [] => none
    else none

def boolean? (s : List Char) : Option (Bool × List Char) :=
  ((word? "true" s).map (true, ·)) <|> ((word? "false" s).map (false, ·)) <|>
    ((word? "True" s).map (true, ·)) <|> ((word? "False" s).map (false, ·))

mutual

/-- After a name: steps, and keys in square brackets. -/
def afterKeys : Nat → List Char → List Char
  | n + 1, '.' :: c :: r =>
    if isNameChar c then afterKeys n (r.dropWhile isNameChar) else '.' :: c :: r
  | n + 1, '[' :: r =>
    match afterKey? n r with
    | some (']' :: rest) => afterKeys n rest
    | _ => '[' :: r
  | _, s => s

def afterKey? : Nat → List Char → Option (List Char)
  | 0, _ => none
  | n + 1, s =>
    afterWhole? s <|> ((quoted? s).map (·.2)) <|>
      ((name? s).map fun p => afterKeys n p.2)

end

/-- A path into the data: a name, then steps and keys. -/
def path? (s : List Char) : Option (String × List Char) := do
  let (_, r) ← name? s
  let rest := afterKeys (2 * s.length) r
  pure (String.ofList (taken s rest), rest)

end LivePages.Template
