/-!
Reading a decimal as a float: a sign, digits with or without a point, and an exponent, or the words
for infinity and for no number. The result is the float nearest to the decimal.
-/

namespace LivePages.Decimal

def digitsValue (s : List Char) : Nat :=
  s.foldl (fun n c => 10 * n + (c.toNat - 48)) 0

/-- `m · 10^e`, where exponents beyond every float are cut short. -/
def ofDecimal (m : Nat) (e : Int) : Float :=
  if m = 0 then 0.0
  else if e < 0 then Float.ofScientific m true (min (-e).toNat (400 + (toString m).length))
  else Float.ofScientific m false (min e.toNat 400)

def exponent? : List Char → Option Int
  | [] => some 0
  | c :: r =>
    if c = 'e' || c = 'E' then
      match r with
      | '-' :: d :: ds => if (d :: ds).all Char.isDigit then some (-(digitsValue (d :: ds) : Int)) else none
      | '+' :: d :: ds => if (d :: ds).all Char.isDigit then some (digitsValue (d :: ds)) else none
      | d :: ds => if (d :: ds).all Char.isDigit then some (digitsValue (d :: ds)) else none
      | [] => none
    else none

def unsigned? (s : List Char) : Option Float :=
  let whole := s.takeWhile Char.isDigit
  let rest := s.dropWhile Char.isDigit
  let (places, rest) :=
    match rest with
    | '.' :: r => (r.takeWhile Char.isDigit, r.dropWhile Char.isDigit)
    | r => ([], r)
  if whole.isEmpty && places.isEmpty then none
  else (exponent? rest).map fun e => ofDecimal (digitsValue (whole ++ places)) (e - places.length)

def word? (s : List Char) : Option Float :=
  let w := String.ofList (s.map Char.toLower)
  if w = "inf" || w = "infinity" then some (1.0 / 0.0)
  else if w = "nan" then some (0.0 / 0.0)
  else none

def readFloat? (s : List Char) : Option Float :=
  match s with
  | '-' :: r => ((word? r) <|> unsigned? r).map fun x => -x
  | '+' :: r => (word? r) <|> unsigned? r
  | r => (word? r) <|> unsigned? r

end LivePages.Decimal
