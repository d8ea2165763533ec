import LivePages.Json.Value
import LivePages.Text.Utf8

/-!
Reading JSON text. A failure carries its cause and the offset, in octets, at which it is reported;
nesting is limited to 127 levels.
-/

namespace LivePages.Json

/-- Why a text is not JSON. -/
inductive Fault
  | endInList
  | endInObject
  | endInString
  | endInValue
  | expectedColon
  | expectedListCommaOrEnd
  | expectedObjectCommaOrEnd
  | expectedIdent
  | expectedValue
  | invalidEscape
  | invalidNumber
  | numberOutOfRange
  | controlCharacter
  | keyMustBeString
  | loneSurrogate
  | trailingComma
  | trailingCharacters
  | unexpectedEndOfHexEscape
  | tooDeep
  deriving DecidableEq, Repr

def Fault.message : Fault → String
  | .endInList => "EOF while parsing a list"
  | .endInObject => "EOF while parsing an object"
  | .endInString => "EOF while parsing a string"
  | .endInValue => "EOF while parsing a value"
  | .expectedColon => "expected `:`"
  | .expectedListCommaOrEnd => "expected `,` or `]`"
  | .expectedObjectCommaOrEnd => "expected `,` or `\x7d`"
  | .expectedIdent => "expected ident"
  | .expectedValue => "expected value"
  | .invalidEscape => "invalid escape"
  | .invalidNumber => "invalid number"
  | .numberOutOfRange => "number out of range"
  | .controlCharacter => "control character (\\u0000-\\u001F) found while parsing a string"
  | .keyMustBeString => "key must be a string"
  | .loneSurrogate => "lone leading surrogate in hex escape"
  | .trailingComma => "trailing comma"
  | .trailingCharacters => "trailing characters"
  | .unexpectedEndOfHexEscape => "unexpected end of hex escape"
  | .tooDeep => "recursion limit exceeded"

structure ParseError where
  fault : Fault
  offset : Nat
  deriving DecidableEq, Repr

/-- Text still to read, and how many octets lie before it. -/
structure Cursor where
  offset : Nat
  rest : List Char

namespace Cursor

def next? (c : Cursor) : Option (Char × Cursor) :=
  match c.rest with
  | [] => none
  | x :: r => some (x, ⟨c.offset + Text.Utf8.width x, r⟩)

def skipBlankFrom : Nat → List Char → Cursor
  | n, [] => ⟨n, []⟩
  | n, x :: r =>
    if x == ' ' || x == '\n' || x == '\t' || x == '\r' then skipBlankFrom (n + 1) r
    else ⟨n, x :: r⟩

def skipBlank (c : Cursor) : Cursor :=
  skipBlankFrom c.offset c.rest

/-- A fault at the text already read. -/
def fail {α : Type} (c : Cursor) (f : Fault) : Except ParseError α :=
  .error ⟨f, c.offset⟩

/-- A fault at the next octet, if there is one. -/
def failNext {α : Type} (c : Cursor) (f : Fault) : Except ParseError α :=
  .error ⟨f, if c.rest.isEmpty then c.offset else c.offset + 1⟩

/-- Reads digits, giving their values. -/
def digitsFrom : Nat → List Char → List Nat × Cursor
  | n, [] => ([], ⟨n, []⟩)
  | n, x :: r =>
    if x.isDigit then
      let (ds, c) := digitsFrom (n + 1) r
      ((x.toNat - 48) :: ds, c)
    else ([], ⟨n, x :: r⟩)

def digits (c : Cursor) : List Nat × Cursor :=
  digitsFrom c.offset c.rest

end Cursor

/-- Reads the rest of a word such as `true`. -/
def word (c : Cursor) : List Char → Except ParseError Cursor
  | [] => .ok c
  | w :: ws =>
    match c.next? with
    | none => c.fail .endInValue
    | some (x, c') => if x = w then word c' ws else c'.fail .expectedIdent

/-! ### Numbers -/

/-- The largest whole number a value can hold. -/
def maxWhole : Nat := Nat.pow 2 64 - 1

/-- Takes digits into `n` while the result stays a value; gives the digits left over. -/
def accumulate (n : Nat) : List Nat → Nat × List Nat
  | [] => (n, [])
  | d :: ds => if 10 * n + d ≤ maxWhole then accumulate (10 * n + d) ds else (n, d :: ds)

/-- Scales by powers of ten in steps of at most 308; `none` when the result has no float. -/
def scale (fuel : Nat) (x : Float) (e : Int) : Option Float :=
  match fuel with
  | 0 => some x
  | n + 1 =>
    if e.natAbs ≤ 308 then
      let p := Float.ofScientific 1 false e.natAbs
      if e < 0 then some (x / p)
      else
        let y := x * p
        if y.isInf then none else some y
    else if x == 0.0 then some x
    else if e < 0 then scale n (x / 1e308) (e + 308)
    else none

def toFloat (c : Cursor) (negative : Bool) (n : Nat) (e : Int) : Except ParseError (Json × Cursor) :=
  match scale 3000 n.toFloat e with
  | some x => .ok (.float (if negative then -x else x), c)
  | none => c.fail .numberOutOfRange

/-- How many digits it takes to pass `limit`, starting from `n`. -/
def digitsWithin (limit n : Nat) : List Nat → Nat
  | [] => 0
  | d :: ds => if limit < 10 * n + d then 1 else 1 + digitsWithin limit (10 * n + d) ds

/-- After the `e`: sign and digits. -/
def exponent (c : Cursor) (negative : Bool) (n : Nat) (e : Int) :
    Except ParseError (Json × Cursor) :=
  let (down, c) :=
    match c.next? with
    | some ('+', c') => (false, c')
    | some ('-', c') => (true, c')
    | _ => (false, c)
  match c.next? with
  | none => c.fail .endInValue
  | some (x, c') =>
    if !x.isDigit then c'.fail .invalidNumber
    else
      let (ds, c'') := c.digits
      let k : Nat := ds.foldl (fun a d => 10 * a + d) 0
      if 2147483647 < k then
        if n ≠ 0 ∧ !down then
          Cursor.fail ⟨c.offset + digitsWithin 2147483647 0 ds, []⟩ .numberOutOfRange
        else .ok (.float (if negative then -0.0 else 0.0), c'')
      else toFloat c'' negative n (if down then e - k else e + k)

/-- After the point: at least one digit, then perhaps an exponent. -/
def fraction (c : Cursor) (negative : Bool) (n : Nat) (e : Int) :
    Except ParseError (Json × Cursor) :=
  let (ds, c') := c.digits
  if ds.isEmpty then
    if c'.rest.isEmpty then c'.fail .endInValue else c'.failNext .invalidNumber
  else
    let (m, left) := accumulate n ds
    let e' := e - (ds.length - left.length : Nat)
    match c'.next? with
    | some ('e', c'') => exponent c'' negative m e'
    | some ('E', c'') => exponent c'' negative m e'
    | _ => toFloat c' negative m e'

/-- A number without its sign. A whole number that no value can hold becomes a float. -/
def number (c : Cursor) (negative : Bool) : Except ParseError (Json × Cursor) :=
  match c.next? with
  | none => c.fail .endInValue
  | some (x, c') =>
    if !x.isDigit then c'.fail .invalidNumber
    else
      let (ds, after) := if x = '0' then ([0], c') else c.digits
      if x = '0' ∧ (c'.rest.head?.any Char.isDigit) then c'.failNext .invalidNumber
      else
        let (n, left) := accumulate 0 ds
        let e : Int := left.length
        match after.next? with
        | some ('.', c'') => fraction c'' negative n e
        | some ('e', c'') => exponent c'' negative n e
        | some ('E', c'') => exponent c'' negative n e
        | _ =>
          if !left.isEmpty then toFloat after negative n e
          else if !negative then .ok (.int n, after)
          else if n = 0 ∨ Nat.pow 2 63 < n then .ok (.float (-n.toFloat), after)
          else .ok (.int (-(n : Int)), after)

/-! ### Strings -/

def hexValue? (c : Char) : Option Nat :=
  let n := c.toNat
  if 48 ≤ n && n ≤ 57 then some (n - 48)
  else if 97 ≤ n && n ≤ 102 then some (n - 87)
  else if 65 ≤ n && n ≤ 70 then some (n - 55)
  else none

/-- Four hexadecimal digits. -/
def hex4 (c : Cursor) : Except ParseError (Nat × Cursor) :=
  match c.rest with
  | a :: b :: d :: e :: r =>
    match hexValue? a, hexValue? b, hexValue? d, hexValue? e with
    | some a, some b, some d, some e => .ok (((a * 16 + b) * 16 + d) * 16 + e, ⟨c.offset + 4, r⟩)
    | _, _, _, _ => .error ⟨.invalidEscape, c.offset + 4⟩
  | r =>
    if 4 ≤ Text.Utf8.size r then .error ⟨.invalidEscape, c.offset + 4⟩
    else .error ⟨.endInString, c.offset + Text.Utf8.size r⟩

/-- After `\u`: one escape, or two that make one character. -/
def unicodeEscape (c : Cursor) : Except ParseError (Char × Cursor) := do
  let (n, c) ← hex4 c
  if 0xDC00 ≤ n ∧ n ≤ 0xDFFF then c.fail .loneSurrogate
  else if n < 0xD800 ∨ 0xDBFF < n then return (Char.ofNat n, c)
  else
    match c.next? with
    | none => c.fail .endInString
    | some (x, c') =>
      if x ≠ '\\' then Cursor.fail ⟨c.offset + 1, []⟩ .unexpectedEndOfHexEscape
      else
        match c'.next? with
        | none => c'.fail .endInString
        | some (y, c'') =>
          if y ≠ 'u' then Cursor.fail ⟨c'.offset + 1, []⟩ .unexpectedEndOfHexEscape
          else
            let (k, c) ← hex4 c''
            if k < 0xDC00 ∨ 0xDFFF < k then c.fail .loneSurrogate
            else return (Char.ofNat (0x10000 + (n - 0xD800) * 1024 + (k - 0xDC00)), c)

/-- After a backslash. -/
def escape (c : Cursor) : Except ParseError (Char × Cursor) :=
  match c.next? with
  | none => c.fail .endInString
  | some (x, c') =>
    match x with
    | '"' => .ok ('"', c')
    | '\\' => .ok ('\\', c')
    | '/' => .ok ('/', c')
    | 'b' => .ok (Char.ofNat 8, c')
    | 'f' => .ok (Char.ofNat 12, c')
    | 'n' => .ok ('\n', c')
    | 'r' => .ok ('\r', c')
    | 't' => .ok ('\t', c')
    | 'u' => unicodeEscape c'
    | _ => .error ⟨.invalidEscape, c.offset + 1⟩

/-- The rest of a string up to its closing quote; `done` holds its characters so far, last first. -/
def stringBody (fuel : Nat) (done : List Char) (c : Cursor) : Except ParseError (String × Cursor) :=
  match fuel with
  | 0 => c.fail .endInString
  | n + 1 =>
    match c.next? with
    | none => c.fail .endInString
    | some ('"', c') => .ok (String.ofList done.reverse, c')
    | some ('\\', c') => do
      let (x, c'') ← escape c'
      stringBody n (x :: done) c''
    | some (x, c') =>
      if x.toNat < 32 then c'.fail .controlCharacter else stringBody n (x :: done) c'

def stringAfterQuote (c : Cursor) : Except ParseError (String × Cursor) :=
  stringBody (c.rest.length + 1) [] c

/-! ### Values -/

mutual

/-- A value. `fuel` bounds the values still to read, `depth` the brackets still to open. -/
def value (fuel depth : Nat) (c : Cursor) : Except ParseError (Json × Cursor) :=
  match fuel with
  | 0 => c.fail .endInValue
  | n + 1 =>
    let c := c.skipBlank
    match c.next? with
    | none => c.fail .endInValue
    | some (x, c') =>
      match x with
      | 'n' => do return (.null, ← word c' ['u', 'l', 'l'])
      | 't' => do return (.bool true, ← word c' ['r', 'u', 'e'])
      | 'f' => do return (.bool false, ← word c' ['a', 'l', 's', 'e'])
      | '-' => number c' true
      | '"' => do
        let (s, c'') ← stringAfterQuote c'
        return (.str s, c'')
      | '[' =>
        if depth ≤ 1 then c.failNext .tooDeep else items n (depth - 1) [] c'
      | '{' =>
        if depth ≤ 1 then c.failNext .tooDeep else fields n (depth - 1) true [] c'
      | _ => if x.isDigit then number c false else c.failNext .expectedValue

/-- The items of a list and its closing bracket; `done` holds those already read, last first. -/
def items (fuel depth : Nat) (done : List Json) (c : Cursor) : Except ParseError (Json × Cursor) :=
  match fuel with
  | 0 => c.fail .endInList
  | n + 1 =>
    let c := c.skipBlank
    match c.next? with
    | none => c.fail .endInList
    | some (']', c') => .ok (.arr done.reverse, c')
    | some (',', c') =>
      if done.isEmpty then c.failNext .expectedValue
      else
        let c' := c'.skipBlank
        match c'.rest with
        | [] => c'.fail .endInValue
        | ']' :: _ => c'.failNext .trailingComma
        | _ => do
          let (v, c'') ← value n depth c'
          items n depth (v :: done) c''
    | some _ =>
      if done.isEmpty then do
        let (v, c'') ← value n depth c
        items n depth (v :: done) c''
      else c.failNext .expectedListCommaOrEnd

/-- The fields of an object and its closing bracket. -/
def fields (fuel depth : Nat) (first : Bool) (done : Fields) (c : Cursor) :
    Except ParseError (Json × Cursor) :=
  match fuel with
  | 0 => c.fail .endInObject
  | n + 1 =>
    let c := c.skipBlank
    match c.next? with
    | none => c.fail .endInObject
    | some ('}', c') => .ok (.obj done, c')
    | some (',', c') =>
      if first then c.failNext .keyMustBeString
      else
        let c' := c'.skipBlank
        match c'.next? with
        | none => c'.fail .endInValue
        | some ('"', c'') => oneField n depth done c''
        | some ('}', _) => c'.failNext .trailingComma
        | some _ => c'.failNext .keyMustBeString
    | some ('"', c') =>
      if first then oneField n depth done c' else c.failNext .expectedObjectCommaOrEnd
    | some _ => c.failNext (if first then .keyMustBeString else .expectedObjectCommaOrEnd)

/-- One field after the quote that opens its name, then the others. -/
def oneField (fuel depth : Nat) (done : Fields) (c : Cursor) : Except ParseError (Json × Cursor) :=
  match fuel with
  | 0 => c.fail .endInObject
  | n + 1 => do
    let (k, c) ← stringAfterQuote c
    let c := c.skipBlank
    match c.next? with
    | some (':', c') =>
      let (v, c'') ← value n depth c'
      fields n depth false (done.insert k v) c''
    | some _ => c.failNext .expectedColon
    | none => c.fail .endInObject

end

/-- A whole text as one value. -/
def parse (s : String) : Except ParseError Json := do
  let cs := s.toList
  let (v, c) ← value (3 * cs.length + 3) 128 ⟨0, cs⟩
  let c := c.skipBlank
  if c.rest.isEmpty then return v else c.failNext .trailingCharacters

/-- Line and column, counted in octets, of an offset into a text. -/
def position (offset : Nat) : Nat × Nat → List Char → Nat × Nat
  | at_, [] => at_
  | (line, column), c :: r =>
    if offset < Text.Utf8.width c then (line, column + offset)
    else
      position (offset - Text.Utf8.width c)
        (if c = '\n' then (line + 1, 0) else (line, column + Text.Utf8.width c)) r

/-- The error with its place in the text. -/
def ParseError.message (e : ParseError) (source : String) : String :=
  let (line, column) := position e.offset (1, 0) source.toList
  e.fault.message ++ " at line " ++ toString line ++ " column " ++ toString column

end LivePages.Json
