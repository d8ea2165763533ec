/-!
The shortest decimal of a binary float: of all decimals that read back as the value, one with the
fewest digits, and of those the nearest to the value.

A positive finite float is `m * 2 ^ q`. It stands for every real between the midpoints to its two
neighbours, the midpoints included when `m` is even.
-/

namespace LivePages.Decimal

/-- A float taken apart. -/
inductive Parts
  | nan
  | infinite (negative : Bool)
  | finite (negative : Bool) (m : Nat) (q : Int)
  deriving DecidableEq, Repr

def Parts.ofFloat (x : Float) : Parts :=
  let bits : Nat := x.toBits.toNat
  let negative := bits / Nat.pow 2 63 == 1
  let exponent : Nat := bits / Nat.pow 2 52 % 2048
  let fraction := bits % Nat.pow 2 52
  if exponent = 2047 then
    if fraction = 0 then .infinite negative else .nan
  else if exponent = 0 then .finite negative fraction (-1074)
  else .finite negative (Nat.pow 2 52 + fraction) ((exponent : Int) - 1075)

/-- The reals that read back as a value: between `low / den` and `high / den`, with `mid / den` the
value itself. -/
structure Interval where
  low : Nat
  mid : Nat
  high : Nat
  den : Nat
  closed : Bool

/-- The gap below a power of two is half the gap above it, unless the value is subnormal. -/
def Interval.around (m : Nat) (q : Int) : Interval :=
  let below := if m = Nat.pow 2 52 ∧ q ≠ -1074 then 1 else 2
  let scale := if q < 0 then 1 else Nat.pow 2 q.toNat
  let den := if q < 0 then Nat.pow 2 (-q).toNat else 1
  ⟨(4 * m - below) * scale, 4 * m * scale, (4 * m + 2) * scale, 4 * den, m % 2 == 0⟩

/-- Whether `d * 10 ^ e` reads back as the value. -/
def Interval.has (i : Interval) (d : Nat) (e : Int) : Bool :=
  let n := d * i.den * Nat.pow 10 e.toNat
  let s := Nat.pow 10 (-e).toNat
  if i.closed then i.low * s ≤ n && n ≤ i.high * s else i.low * s < n && n < i.high * s

/-- How many digits a number has in base ten; zero has none. -/
def digitCount (n : Nat) : Nat :=
  if n = 0 then 0 else (Nat.toDigits 10 n).length

/-- The `p` with `10 ^ (p - 1) ≤ n / d < 10 ^ p`. -/
def magnitude (n d : Nat) : Int :=
  if d ≤ n then digitCount (n / d)
  else
    let k := digitCount (d / n)
    if d ≤ n * Nat.pow 10 (k - 1) then 2 - (k : Int) else 1 - (k : Int)

/-- The decimals `d * 10 ^ e` next to the value on the grid of step `10 ^ e`, nearer first. -/
def Interval.neighbours (i : Interval) (e : Int) : List Nat :=
  let n := i.mid * Nat.pow 10 (-e).toNat
  let step := i.den * Nat.pow 10 e.toNat
  let d := n / step
  let rest := n % step
  if 2 * rest < step ∨ (2 * rest = step ∧ d % 2 = 0) then [d, d + 1] else [d + 1, d]

/-- The first grid with a hit, from coarse to fine. -/
def Interval.search (i : Interval) (top : Int) : List Nat → Nat × Int
  | [] => (0, 0)
  | n :: ns =>
    let e := top - n
    match (i.neighbours e).find? (i.has · e) with
    | some d => (d, e)
    | none => i.search top ns

/-- Digits without trailing zeros. -/
def stripZeros (fuel : Nat) (d : Nat) (e : Int) : Nat × Int :=
  match fuel with
  | 0 => (d, e)
  | n + 1 => if d ≠ 0 ∧ d % 10 = 0 then stripZeros n (d / 10) (e + 1) else (d, e)

/-- Digits and exponent of the shortest decimal of `m * 2 ^ q`; `(0, 0)` for zero. -/
def shortest (m : Nat) (q : Int) : Nat × Int :=
  if m = 0 then (0, 0)
  else
    let i := Interval.around m q
    let (d, e) := i.search (magnitude i.mid i.den) (List.range' 1 17)
    stripZeros 20 d e

end LivePages.Decimal
