import LivePages.Decimal.Shortest

/-!
The remainder of two floats: exact, with the sign of the dividend.
-/

namespace LivePages.Decimal

/-- `m₁ · 2^q₁` modulo `m₂ · 2^q₂` as a multiple of the smaller power, with that power. -/
def remainderParts (m₁ : Nat) (q₁ : Int) (m₂ : Nat) (q₂ : Int) : Nat × Int :=
  let e := min q₁ q₂
  ((m₁ <<< (q₁ - e).toNat) % (m₂ <<< (q₂ - e).toNat), e)

def remainder (x y : Float) : Float :=
  match Parts.ofFloat x, Parts.ofFloat y with
  | .finite negative m₁ q₁, .finite _ m₂ q₂ =>
    if m₂ = 0 then 0.0 / 0.0
    else
      let (r, e) := remainderParts m₁ q₁ m₂ q₂
      let z := Float.scaleB (Float.ofNat r) e
      if negative then -z else z
  | .finite _ _ _, .infinite _ => x
  | _, _ => 0.0 / 0.0

end LivePages.Decimal
