import LivePages.Markdown.CharacterReference.Table
import LivePages.Markdown.Lexical
import LivePages.Text.Blank

/-!
Character references: `&name;`, `&#digits;` and `&#xdigits;`. What is none of these stays as it is.
-/

namespace LivePages.Markdown.CharacterReference

def hexDigit? (c : Char) : Option Nat :=
  if c.isDigit then some (c.toNat - 48)
  else if 'a' ≤ c && c ≤ 'f' then some (c.toNat - 87)
  else if 'A' ≤ c && c ≤ 'F' then some (c.toNat - 55)
  else none

def hexNumber (s : List Char) : Nat :=
  s.foldl (fun n c => 16 * n + (hexDigit? c).getD 0) 0

def decimalNumber (s : List Char) : Nat :=
  s.foldl (fun n c => 10 * n + (c.toNat - 48)) 0

/-- The character with a number. Zero, the surrogates with U+E000 after them, and what is beyond the
last code point give U+FFFD. -/
def ofNumber (n : Nat) : Char :=
  if n = 0 ∨ (0xD800 ≤ n ∧ n ≤ 0xE000) ∨ 0x110000 ≤ n then Char.ofNat 0xFFFD else Char.ofNat n

/-- Reads one entry `name=hex+hex` of the table. -/
def reading? (name : List Char) (e : List Char) : Option (List Char) :=
  match Text.cutAt '=' e with
  | (n, some codes) =>
    if n = name then some ((Text.splitOn '+' codes).map fun c => Char.ofNat (hexNumber c)) else none
  | _ => none

def named? (name : List Char) : Option (List Char) :=
  match name.head? with
  | none => none
  | some c =>
    (namesFrom c).findSome? fun row =>
      (Text.splitOn ' ' row.toList).findSome? (reading? name)

/-- At most this many digits, decimal or hexadecimal. -/
def maxDigits : Nat := 7

/-- A reference by number after its `&#`. -/
def numeric? : List Char → Option (List Char × List Char)
  | x :: r =>
    if x == 'x' || x == 'X' then
      let ds := r.takeWhile fun c => (hexDigit? c).isSome
      match r.drop ds.length with
      | ';' :: r' =>
        if 1 ≤ ds.length && ds.length ≤ maxDigits then some ([ofNumber (hexNumber ds)], r') else none
      | _ => none
    else
      let ds := (x :: r).takeWhile Char.isDigit
      match (x :: r).drop ds.length with
      | ';' :: r' =>
        if 1 ≤ ds.length && ds.length ≤ maxDigits then some ([ofNumber (decimalNumber ds)], r') else none
      | _ => none
  | [] => none

/-- A reference after its `&`: what it stands for, and the rest. -/
def read? : List Char → Option (List Char × List Char)
  | '#' :: r => numeric? r
  | s =>
    let name := s.takeWhile Char.isAlphanum
    match s.drop name.length with
    | ';' :: r => if 2 ≤ name.length then (named? name).map (·, r) else none
    | _ => none

def decodeFuel : Nat → List Char → List Char
  | 0, s => s
  | _, [] => []
  | n + 1, c :: r =>
    if c == '&' then
      match read? r with
      | some (cs, r') => cs ++ decodeFuel n r'
      | none => c :: decodeFuel n r
    else c :: decodeFuel n r

/-- Replaces every reference in a text. -/
def decode (s : List Char) : List Char :=
  decodeFuel s.length s

end LivePages.Markdown.CharacterReference
