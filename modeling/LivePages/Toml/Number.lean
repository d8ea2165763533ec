import LivePages.Decimal.Reader
import LivePages.Toml.Lexical
import LivePages.Toml.Value

/-!
Numbers in a TOML text. Underscores may stand between digits; whole numbers have 64 bits with a
sign, and a float may be too small to be finite but not too large.
-/

namespace LivePages.Toml

/-- Digits, perhaps with single underscores between them, and the rest. -/
def digitRun (isDigit : Char → Bool) : List Char → List Char × List Char
  | '_' :: c :: r =>
    if isDigit c then
      let (ds, r) := digitRun isDigit r
      (c :: ds, r)
    else ([], '_' :: c :: r)
  | c :: r =>
    if isDigit c then
      let (ds, r) := digitRun isDigit r
      (c :: ds, r)
    else ([], c :: r)
  | [] => ([], [])

def digits? (isDigit : Char → Bool) (s : List Char) : Option (List Char × List Char) :=
  match s with
  | c :: _ => if isDigit c then some (digitRun isDigit s) else none
  | [] => none

/-- Decimal digits, where a zero stands alone. -/
def wholeDigits? : List Char → Option (List Char × List Char)
  | '0' :: r => some (['0'], r)
  | s => digits? Char.isDigit s

def sign : List Char → Bool × List Char
  | '-' :: r => (true, r)
  | '+' :: r => (false, r)
  | s => (false, s)

def valueIn (base : Nat) (ds : List Char) : Nat :=
  ds.foldl (fun n c => base * n + (Json.hexValue? c).getD 0) 0

def bounded? (i : Int) : Option Toml :=
  if -Int.pow 2 63 ≤ i && i < Int.pow 2 63 then some (.int i) else none

def inBase? (base : Nat) (s : List Char) : Option (Toml × List Char) := do
  let (ds, r) ← digits? (fun c => (Json.hexValue? c).any (· < base)) s
  pure (← bounded? (valueIn base ds), r)

def whole? : List Char → Option (Toml × List Char)
  | '0' :: 'x' :: r => inBase? 16 r
  | '0' :: 'o' :: r => inBase? 8 r
  | '0' :: 'b' :: r => inBase? 2 r
  | s => do
    let (negative, s) := sign s
    let (ds, r) ← wholeDigits? s
    let n : Int := valueIn 10 ds
    pure (← bounded? (if negative then -n else n), r)

def exponent? : List Char → Option (Int × List Char)
  | c :: s =>
    if c = 'e' || c = 'E' then do
      let (negative, s) := sign s
      let (ds, r) ← digits? Char.isDigit s
      let n : Int := valueIn 10 ds
      pure (if negative then -n else n, r)
    else none
  | [] => none

/-- Digits with a point, an exponent or both. -/
def decimal? (s : List Char) : Option (Float × List Char) := do
  let (ws, r) ← wholeDigits? s
  match r with
  | '.' :: r => do
    let (ps, r) ← digits? Char.isDigit r
    let (e, r) := (exponent? r).getD (0, r)
    pure (Decimal.ofDecimal (valueIn 10 (ws ++ ps)) (e - ps.length), r)
  | r => do
    let (e, r) ← exponent? r
    pure (Decimal.ofDecimal (valueIn 10 ws) e, r)

def infinity : Float := 1.0 / 0.0

def float? (s : List Char) : Option (Toml × List Char) :=
  let (negative, s) := sign s
  let signed (x : Float) : Float := if negative then -x else x
  match s with
  | 'i' :: 'n' :: 'f' :: r => some (.float (signed infinity), r)
  | 'n' :: 'a' :: 'n' :: r => some (.float (signed (0.0 / 0.0)), r)
  | s => do
    let (x, r) ← decimal? s
    if !negative && x.isInf then none else pure (.float (signed x), r)

end LivePages.Toml
