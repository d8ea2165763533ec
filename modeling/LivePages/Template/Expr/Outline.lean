import LivePages.Decimal.Layout
import LivePages.Template.Expr
import LivePages.Text.Quoted

/-!
The outline of an expression: its structure written out with every part named, as two error texts
show it.
-/

namespace LivePages.Template

def flagText (b : Bool) : String :=
  if b then "true" else "false"

/-- A named record with its fields. -/
def recordText (name : String) (fields : List (String × String)) : String :=
  name ++ " \x7b " ++ String.intercalate ", " (fields.map fun f => f.1 ++ ": " ++ f.2) ++ " \x7d"

def listText (items : List String) : String :=
  "[" ++ String.intercalate ", " items ++ "]"

def mapText (items : List (String × String)) : String :=
  "\x7b" ++ String.intercalate ", " (items.map fun f => Text.quoted f.1 ++ ": " ++ f.2) ++ "\x7d"

mutual

def Term.outline : Term → String
  | .str s => "String(" ++ Text.quoted s ++ ")"
  | .int i => "Int(" ++ toString i ++ ")"
  | .float x => "Float(" ++ Decimal.Layout.debug.write x ++ ")"
  | .bool b => "Bool(" ++ flagText b ++ ")"
  | .path p => "Ident(" ++ Text.quoted p ++ ")"
  | .arith op a b =>
    "Math(" ++ recordText "MathExpr"
      [("lhs", a.outline), ("rhs", b.outline), ("operator", op.name)] ++ ")"
  | .compare op a b =>
    "Logic(" ++ recordText "LogicExpr"
      [("lhs", a.outline), ("rhs", b.outline), ("operator", op.name)] ++ ")"
  | .logic op a b =>
    "Logic(" ++ recordText "LogicExpr"
      [("lhs", a.outline), ("rhs", b.outline), ("operator", op.name)] ++ ")"
  | .test p negated name args =>
    "Test(" ++ recordText "Test"
      [("ident", Text.quoted p), ("negated", flagText negated), ("name", Text.quoted name),
       ("args", listText (exprOutlines args))] ++ ")"
  | .call f => "FunctionCall(" ++ f.outline ++ ")"
  | .macroCall l (.mk name args) =>
    "MacroCall(" ++ recordText "MacroCall"
      [("namespace", Text.quoted l), ("name", Text.quoted name),
       ("args", mapText (argOutlines args))] ++ ")"
  | .list items => "Array(" ++ listText (exprOutlines items) ++ ")"
  | .joined parts =>
    "StringConcat(" ++ recordText "StringConcat" [("values", listText (termOutlines parts))] ++ ")"
  | .member a b negated =>
    "In(" ++ recordText "In"
      [("lhs", a.outline), ("rhs", b.outline), ("negated", flagText negated)] ++ ")"

def Expr.outline : Expr → String
  | .mk t negated filters =>
    recordText "Expr"
      [("val", t.outline), ("negated", flagText negated),
       ("filters", listText (callOutlines filters))]

def Call.outline : Call → String
  | .mk name args =>
    recordText "FunctionCall" [("name", Text.quoted name), ("args", mapText (argOutlines args))]

def exprOutlines : List Expr → List String
  | [] => []
  | e :: r => e.outline :: exprOutlines r

def termOutlines : List Term → List String
  | [] => []
  | t :: r => t.outline :: termOutlines r

def callOutlines : List Call → List String
  | [] => []
  | f :: r => f.outline :: callOutlines r

def argOutlines : List (String × Expr) → List (String × String)
  | [] => []
  | (k, e) :: r => (k, e.outline) :: argOutlines r

end

/-- The parts of a joined text as a template would write them. -/
def partText : Term → String
  | .str s => "'" ++ s ++ "'"
  | .path p => p
  | _ => "unknown"

end LivePages.Template
