import LivePages.Decimal.Shortest

/-!
Ways to write a shortest decimal: where positional notation ends, whether a whole number keeps
`.0`, and how an exponent looks.
-/

namespace LivePages.Decimal

/-- The choices of one written form. `point` counts the digits before the decimal point. -/
structure Layout where
  positional : Int → Bool
  keepsPoint : Bool
  exponentPlus : String
  infinite : String
  nan : String

/-- Numbers in data: positional from `1e-5` up to `1e16`, and a float always shows that it is one. -/
def Layout.data : Layout where
  positional point := -5 < point && point ≤ 16
  keepsPoint := true
  exponentPlus := "+"
  infinite := "null"
  nan := "null"

/-- Numbers in text: never an exponent, no trailing point. -/
def Layout.plain : Layout where
  positional _ := true
  keepsPoint := false
  exponentPlus := ""
  infinite := "inf"
  nan := "NaN"

/-- Numbers in debug text: as in data, with a bare exponent. -/
def Layout.debug : Layout where
  positional point := -5 < point && point ≤ 16
  keepsPoint := true
  exponentPlus := ""
  infinite := "inf"
  nan := "NaN"

def zeros (n : Nat) : String :=
  String.ofList (List.replicate n '0')

/-- Digits `ds` with the point after the first `point` of them. -/
def positionalText (ds : String) (point : Int) (keepsPoint : Bool) : String :=
  let len : Int := ds.length
  if point ≤ 0 then "0." ++ zeros (-point).toNat ++ ds
  else if len ≤ point then ds ++ zeros (point - len).toNat ++ (if keepsPoint then ".0" else "")
  else (ds.take point.toNat).toString ++ "." ++ (ds.drop point.toNat).toString

def exponentText (f : Layout) (ds : String) (point : Int) : String :=
  let tail := (ds.drop 1).toString
  let e := point - 1
  (ds.take 1).toString ++ (if tail.isEmpty then "" else "." ++ tail) ++ "e" ++
    (if e < 0 then "-" else f.exponentPlus) ++ toString e.natAbs

def Layout.write (f : Layout) (x : Float) : String :=
  match Parts.ofFloat x with
  | .nan => f.nan
  | .infinite negative => (if negative then "-" else "") ++ f.infinite
  | .finite negative m q =>
    let sign := if negative then "-" else ""
    if m = 0 then sign ++ (if f.keepsPoint then "0.0" else "0")
    else
      let (d, e) := shortest m q
      let ds := toString d
      let point : Int := ds.length + e
      sign ++ (if f.positional point then positionalText ds point f.keepsPoint
        else exponentText f ds point)

end LivePages.Decimal
