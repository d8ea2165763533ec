import LivePages.Decimal.Shortest

/-!
A float with a fixed number of decimal places: the exact value is rounded, a tie to the even digit.
-/

namespace LivePages.Decimal

/-- `n / d` rounded to a whole number, a tie to the even one. -/
def roundEven (n d : Nat) : Nat :=
  let q := n / d
  let r := n % d
  if 2 * r < d then q
  else if d < 2 * r then q + 1
  else if q % 2 = 0 then q
  else q + 1

/-- `m · 2^q` in units of the last of `places` decimal places. -/
def units (places m : Nat) (q : Int) : Nat :=
  if q < 0 then roundEven (m * Nat.pow 10 places) (Nat.pow 2 (-q).toNat)
  else m * Nat.pow 2 q.toNat * Nat.pow 10 places

def padLeft (width : Nat) (s : String) : String :=
  String.ofList (List.replicate (width - s.length) '0') ++ s

def fixedText (places n : Nat) : String :=
  if places = 0 then toString n
  else toString (n / Nat.pow 10 places) ++ "." ++ padLeft places (toString (n % Nat.pow 10 places))

def fixed (places : Nat) (x : Float) : String :=
  match Parts.ofFloat x with
  | .nan => "NaN"
  | .infinite negative => if negative then "-inf" else "inf"
  | .finite negative m q => (if negative then "-" else "") ++ fixedText places (units places m q)

end LivePages.Decimal
