import LivePages.Decimal.Remainder
import LivePages.Template.Expr
import LivePages.Template.Fault
import LivePages.Template.Value

/-!
Arithmetic of templates. Whole numbers stay whole and must fit 64 bits, signed or, when both sides
are natural, unsigned; a quotient is whole when it has no fraction; what is no number is nothing.
-/

namespace LivePages.Template

def fitsSigned (i : Int) : Bool :=
  -Int.pow 2 63 ≤ i && i < Int.pow 2 63

def fitsUnsigned (i : Int) : Bool :=
  0 ≤ i && i < Int.pow 2 64

/-- How two numbers are taken together. -/
inductive Pairing
  | signed (a b : Int)
  | unsigned (a b : Int)
  | floats (x y : Float)

def pairing : Number → Number → Pairing
  | .whole a, .whole b =>
    if fitsSigned a && fitsSigned b then .signed a b
    else if fitsUnsigned a && fitsUnsigned b then .unsigned a b
    else .floats (Float.ofInt a) (Float.ofInt b)
  | a, b => .floats a.toFloat b.toFloat

/-- A float as a number, if it is finite. -/
def real? (x : Float) : Option Number :=
  if x.isFinite then some (.real x) else none

def checked (sign : String) (a b result : Int) (unsigned : Bool) : Except Fault (Option Number) :=
  if (if unsigned then fitsUnsigned result else fitsSigned result) then .ok (some (.whole result))
  else .error (.outOfRange a sign b unsigned)

def wholeOrFloat (sign : String) (whole : Int → Int → Int) (float : Float → Float → Float)
    (a b : Number) : Except Fault (Option Number) :=
  match pairing a b with
  | .signed i j => checked sign i j (whole i j) false
  | .unsigned i j => checked sign i j (whole i j) true
  | .floats x y => .ok (real? (float x y))

def quotient (a b : Number) : Option Number :=
  let z := a.toFloat / b.toFloat
  if z.isNaN then none
  else if z.round == z && z.isFinite then some (.whole z.toInt64.toInt)
  else real? z

/-- The remainder has the sign of the dividend; `outlines` are shown when the divisor is zero. -/
def remainderOf (outlines : String × String) (a b : Number) : Except Fault (Option Number) :=
  match pairing a b with
  | .signed i j =>
    if j = 0 then .error (.remainderByZero outlines.1 outlines.2)
    else .ok (some (.whole (Int.tmod i j)))
  | .unsigned i j =>
    if j = 0 then .error (.remainderByZero outlines.1 outlines.2)
    else .ok (some (.whole (Int.tmod i j)))
  | .floats x y => .ok (real? (Decimal.remainder x y))

def Arithmetic.apply (op : Arithmetic) (outlines : String × String) (a b : Number) :
    Except Fault (Option Number) :=
  match op with
  | .mul => wholeOrFloat "x" (· * ·) (· * ·) a b
  | .add => wholeOrFloat "+" (· + ·) (· + ·) a b
  | .sub => wholeOrFloat "-" (· - ·) (· - ·) a b
  | .div => .ok (quotient a b)
  | .rem => remainderOf outlines a b

def Comparison.floats (op : Comparison) (x y : Float) : Bool :=
  match op with
  | .gt => x > y
  | .ge => x ≥ y
  | .lt => x < y
  | .le => x ≤ y
  | .eq => x == y
  | .ne => x != y

/-- Equality of values: two numbers are compared as floats, and a number differs from all else. -/
def equalValues (a b : Json) : Bool :=
  match Number.ofJson? a, Number.ofJson? b with
  | some x, some y => x.toFloat == y.toFloat
  | none, none => a == b
  | _, _ => false

/-- Comparing a number with something else is false, also for `!=`. -/
def Comparison.equality (op : Comparison) (a b : Json) : Bool :=
  if isNumber a != isNumber b then false
  else if op == .ne then !equalValues a b
  else equalValues a b

end LivePages.Template
