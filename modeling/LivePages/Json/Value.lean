/-!
JSON values. Whole numbers and floats are told apart, and an object's fields are kept in the order
of their names, each name once.
-/

namespace LivePages

inductive Json
  | null
  | bool (b : Bool)
  | int (i : Int)
  | float (x : Float)
  | str (s : String)
  | arr (items : List Json)
  | obj (fields : List (String × Json))
  deriving Inhabited

namespace Json

abbrev Fields := List (String × Json)

/-- Adds or replaces the field `k`, keeping the names in order. -/
def Fields.insert (k : String) (v : Json) : Fields → Fields
  | [] => [(k, v)]
  | (k', v') :: r =>
    if k = k' then (k, v) :: r
    else if k < k' then (k, v) :: (k', v') :: r
    else (k', v') :: Fields.insert k v r

def Fields.get? (fs : Fields) (k : String) : Option Json :=
  (fs.find? (·.1 = k)).map (·.2)

/-- Later fields replace earlier ones of the same name. -/
def Fields.ofList (l : List (String × Json)) : Fields :=
  l.foldl (fun fs kv => fs.insert kv.1 kv.2) []

def ofFields (l : List (String × Json)) : Json :=
  .obj (Fields.ofList l)

def field? : Json → String → Option Json
  | .obj fs, k => Fields.get? fs k
  | _, _ => none

def str? : Json → Option String
  | .str s => some s
  | _ => none

def strs (l : List String) : Json :=
  .arr (l.map .str)

mutual

/-- Equal as values; a whole number and a float never are. -/
def beq : Json → Json → Bool
  | .null, .null => true
  | .bool a, .bool b => a == b
  | .int a, .int b => a == b
  | .float a, .float b => a == b
  | .str a, .str b => a == b
  | .arr a, .arr b => beqItems a b
  | .obj a, .obj b => beqFields a b
  | _, _ => false

def beqItems : List Json → List Json → Bool
  | [], [] => true
  | a :: as, b :: bs => beq a b && beqItems as bs
  | _, _ => false

def beqFields : List (String × Json) → List (String × Json) → Bool
  | [], [] => true
  | (k, a) :: as, (l, b) :: bs => k == l && beq a b && beqFields as bs
  | _, _ => false

end

instance : BEq Json := ⟨beq⟩

end LivePages.Json
