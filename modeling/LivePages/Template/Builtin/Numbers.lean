import LivePages.Decimal.Fixed
import LivePages.Template.Builtin.Argument

/-!
Filters on numbers.
-/

namespace LivePages.Template.Builtin

def abs : String × Filter :=
  ("abs", plainFilter fun v _ =>
    match v with
    | .int i => .ok (.int i.natAbs)
    | .float x => .ok (.float x.abs)
    | _ => .error (.said "Filter `abs` was used on a value that isn't a number."))

/-- The distance within which two floats near one count as equal. -/
def epsilon : Float := Float.scaleB 1.0 (-52)

def pluralize : String × Filter :=
  ("pluralize", plainFilter fun v args => do
    let x ← float.value "pluralize" v
    let plural ← text.argOr "pluralize" "plural" "s" args
    let singular ← text.argOr "pluralize" "singular" "" args
    pure (.str (if (x.abs - 1.0).abs > epsilon then plural else singular)))

/-- A power of ten by repeated squaring. -/
def power (x : Float) : Nat → Float
  | 0 => 1.0
  | n + 1 =>
    let half := power x ((n + 1) / 2)
    if (n + 1) % 2 = 0 then half * half else half * half * x
decreasing_by all_goals omega

def powerOfTen (n : Int) : Float :=
  if n < 0 then 1.0 / power 10.0 (min (-n).toNat 400) else power 10.0 (min n.toNat 400)

def round : String × Filter :=
  ("round", plainFilter fun v args => do
    let x ← float.value "round" v
    let method ← text.argOr "round" "method" "common" args
    let places ← whole32.argOr "round" "precision" 0 args
    let scale := powerOfTen places
    let rounded (f : Float → Float) : Except Fault Json :=
      let z := f (scale * x) / scale
      .ok (if z.isFinite then .float z else .null)
    if method = "common" then rounded Float.round
    else if method = "ceil" then rounded Float.ceil
    else if method = "floor" then rounded Float.floor
    else
      .error (.said
        ("Filter `round` received an incorrect value for arg `method`: got `" ++
          Text.quoted method ++ "`, only common, ceil and floor are allowed")))

def sizeUnits : List String :=
  ["B", "kB", "MB", "GB", "TB", "PB", "EB", "ZB", "YB"]

def binarySizeUnits : List String :=
  ["B", "KiB", "MiB", "GiB", "TiB", "PiB", "EiB", "ZiB", "YiB"]

/-- A size in the first unit in which it is below 1024. -/
def sizeIn (x : Float) : List String → String
  | [] => ""
  | [u] => Decimal.fixed 2 x ++ " " ++ u
  | u :: r =>
    if x ≥ 1024.0 then sizeIn (x / 1024.0) r
    else Decimal.fixed (if x.floor == x then 0 else 2) x ++ " " ++ u

def filesizeformat : String × Filter :=
  ("filesizeformat", plainFilter fun v args => do
    let n ← natural.value "filesizeformat" v
    let binary ← boolean.argOr "filesizeformat" "binary" false args
    pure (.str (sizeIn (Float.ofNat n) (if binary then binarySizeUnits else sizeUnits))))

def numberFilters : List (String × Filter) :=
  [abs, pluralize, round, filesizeformat]

end LivePages.Template.Builtin
