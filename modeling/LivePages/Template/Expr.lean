/-!
Expressions of the template language. An expression is a term with the filters that follow it; a
call names a function, filter or macro and gives its arguments by name.
-/

namespace LivePages.Template

inductive Arithmetic
  | mul
  | div
  | rem
  | add
  | sub
  deriving DecidableEq, Repr

def Arithmetic.name : Arithmetic → String
  | .mul => "Mul"
  | .div => "Div"
  | .rem => "Modulo"
  | .add => "Add"
  | .sub => "Sub"

inductive Comparison
  | gt
  | ge
  | lt
  | le
  | eq
  | ne
  deriving DecidableEq, Repr

def Comparison.name : Comparison → String
  | .gt => "Gt"
  | .ge => "Gte"
  | .lt => "Lt"
  | .le => "Lte"
  | .eq => "Eq"
  | .ne => "NotEq"

inductive Connective
  | both
  | either
  deriving DecidableEq, Repr

def Connective.name : Connective → String
  | .both => "And"
  | .either => "Or"

mutual

/-- `list` is an array literal, `joined` the parts between `~`, `member` the operator `in`. -/
inductive Term
  | str (s : String)
  | int (i : Int)
  | float (x : Float)
  | bool (b : Bool)
  | path (p : String)
  | arith (op : Arithmetic) (left right : Expr)
  | compare (op : Comparison) (left right : Expr)
  | logic (op : Connective) (left right : Expr)
  | test (path : String) (negated : Bool) (name : String) (args : List Expr)
  | call (f : Call)
  | macroCall (library : String) (f : Call)
  | list (items : List Expr)
  | joined (parts : List Term)
  | member (item container : Expr) (negated : Bool)

inductive Expr
  | mk (term : Term) (negated : Bool) (filters : List Call)

inductive Call
  | mk (name : String) (args : List (String × Expr))

end

instance : Inhabited Term := ⟨.bool false⟩

instance : Inhabited Expr := ⟨.mk default false []⟩

def Call.name : Call → String
  | .mk n _ => n

def Call.args : Call → List (String × Expr)
  | .mk _ a => a

def Expr.term : Expr → Term
  | .mk t _ _ => t

def Expr.negated : Expr → Bool
  | .mk _ n _ => n

def Expr.filters : Expr → List Call
  | .mk _ _ f => f

/-- A term alone. -/
def Expr.plain (t : Term) : Expr :=
  .mk t false []

def Expr.setNegated (negated : Bool) : Expr → Expr
  | .mk t _ f => .mk t negated f

/-- Of entries with the same name only the last one is kept. -/
def lastOfEach {α : Type} : List (String × α) → List (String × α)
  | [] => []
  | (k, a) :: r => if r.any (·.1 = k) then lastOfEach r else (k, a) :: lastOfEach r

def Call.arg? (f : Call) (name : String) : Option Expr :=
  (f.args.find? (·.1 = name)).map (·.2)

/-- A `default` filter counts only in first place. -/
def Expr.startsWithDefault (e : Expr) : Bool :=
  match e.filters with
  | [] => false
  | f :: _ => f.name == "default"

/-- A `safe` filter counts only in last place. -/
def Expr.endsWithSafe (e : Expr) : Bool :=
  match e.filters.getLast? with
  | none => false
  | some f => f.name == "safe"

/-! ### Whole numbers in an expression -/

mutual

def Term.wholes : Term → List Int
  | .int i => [i]
  | .str _ => []
  | .float _ => []
  | .bool _ => []
  | .path _ => []
  | .arith _ a b => a.wholes ++ b.wholes
  | .compare _ a b => a.wholes ++ b.wholes
  | .logic _ a b => a.wholes ++ b.wholes
  | .test _ _ _ args => exprsWholes args
  | .call f => f.wholes
  | .macroCall _ f => f.wholes
  | .list items => exprsWholes items
  | .joined parts => termsWholes parts
  | .member a b _ => a.wholes ++ b.wholes

def Expr.wholes : Expr → List Int
  | .mk t _ filters => t.wholes ++ callsWholes filters

def Call.wholes : Call → List Int
  | .mk _ args => argsWholes args

def exprsWholes : List Expr → List Int
  | [] => []
  | e :: r => e.wholes ++ exprsWholes r

def termsWholes : List Term → List Int
  | [] => []
  | t :: r => t.wholes ++ termsWholes r

def callsWholes : List Call → List Int
  | [] => []
  | f :: r => f.wholes ++ callsWholes r

def argsWholes : List (String × Expr) → List Int
  | [] => []
  | (_, e) :: r => e.wholes ++ argsWholes r

end

end LivePages.Template
