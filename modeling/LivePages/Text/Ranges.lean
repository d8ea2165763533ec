/-!
Sets of code points as ascending lists of ranges.
-/

namespace LivePages.Text

abbrev Ranges := List (Nat × Nat)

def Ranges.has (r : Ranges) (c : Char) : Bool :=
  r.any fun p => p.1 ≤ c.toNat && c.toNat ≤ p.2

end LivePages.Text
