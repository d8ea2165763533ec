import LivePages.Decimal.Layout
import LivePages.Json.Printer
import LivePages.Text.Quoted
import LivePages.Text.Search

/-!
Values as templates see them: how a value is shown, when it counts as true, and what a path leads
to inside it.
-/

namespace LivePages.Template

mutual

/-- A value as the page shows it: null shows nothing, and an object only that it is one. -/
def shown : Json → String
  | .null => ""
  | .bool b => if b then "true" else "false"
  | .int i => toString i
  | .float x => Decimal.Layout.plain.write x
  | .str s => s
  | .arr items => "[" ++ String.intercalate ", " (shownItems items) ++ "]"
  | .obj _ => "[object]"

def shownItems : List Json → List String
  | [] => []
  | v :: r => shown v :: shownItems r

end

/-- Zero, null and everything empty count as false. -/
def isTrue : Json → Bool
  | .null => false
  | .bool b => b
  | .int i => i != 0
  | .float x => x != 0.0 && !x.isNaN
  | .str s => !s.isEmpty
  | .arr items => !items.isEmpty
  | .obj fields => !fields.isEmpty

mutual

/-- A value with the name of its kind, for diagnostics. -/
def described : Json → String
  | .null => "Null"
  | .bool b => "Bool(" ++ (if b then "true" else "false") ++ ")"
  | .int i => "Number(" ++ toString i ++ ")"
  | .float x => "Number(" ++ Decimal.Layout.data.write x ++ ")"
  | .str s => "String(" ++ Text.quoted s ++ ")"
  | .arr items => "Array [" ++ String.intercalate ", " (describedItems items) ++ "]"
  | .obj fields => "Object \x7b" ++ String.intercalate ", " (describedFields fields) ++ "\x7d"

def describedItems : List Json → List String
  | [] => []
  | v :: r => described v :: describedItems r

def describedFields : List (String × Json) → List String
  | [] => []
  | (k, v) :: r => (Text.quoted k ++ ": " ++ described v) :: describedFields r

end

/-! ### Numbers -/

inductive Number
  | whole (i : Int)
  | real (x : Float)
  deriving Inhabited

def Number.ofJson? : Json → Option Number
  | .int i => some (.whole i)
  | .float x => some (.real x)
  | _ => none

def Number.toJson : Number → Json
  | .whole i => .int i
  | .real x => .float x

def Number.toFloat : Number → Float
  | .whole i => Float.ofInt i
  | .real x => x

def isNumber (v : Json) : Bool :=
  (Number.ofJson? v).isSome

/-! ### Paths -/

/-- The steps of a path: between points, where a step in double quotes may hold points. -/
def stepsFrom : Nat → List Char → List (List Char)
  | 0, _ => []
  | _, [] => []
  | n + 1, '.' :: r => stepsFrom n r
  | n + 1, '"' :: r =>
    if r.contains '"' then
      r.takeWhile (· != '"') :: stepsFrom n ((r.dropWhile (· != '"')).drop 1)
    else r.takeWhile (· != '.') :: stepsFrom n (r.dropWhile (· != '.'))
  | n + 1, s => s.takeWhile (· != '.') :: stepsFrom n (s.dropWhile (· != '.'))

/-- In a step `~1` stands for `/` and `~0` for `~`. -/
def stepName (s : List Char) : String :=
  String.ofList (Text.replaceAll ['~', '0'] ['~'] (Text.replaceAll ['~', '1'] ['/'] s))

def steps (path : List Char) : List String :=
  (stepsFrom (path.length + 1) path).map stepName

/-- A position in a list: digits without needless zeros. -/
def position? (s : String) : Option Nat :=
  match s.toList with
  | [] => none
  | c :: r =>
    if !(c :: r).all Char.isDigit then none
    else if c = '0' && !r.isEmpty then none
    else some ((c :: r).foldl (fun n d => 10 * n + (d.toNat - 48)) 0)

def step? (name : String) : Json → Option Json
  | .obj fields => Json.Fields.get? fields name
  | .arr items => (position? name).bind fun i => items[i]?
  | _ => none

def follow? : List String → Json → Option Json
  | [], v => some v
  | name :: r, v => (step? name v).bind (follow? r)

/-- What the path `p` leads to inside a value; the empty path leads to the value itself. -/
def inside? (p : String) (v : Json) : Option Json :=
  follow? (steps p.toList) v

end LivePages.Template
