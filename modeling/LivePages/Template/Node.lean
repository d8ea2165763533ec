import LivePages.Template.Expr

/-!
The parts of a template. Every tag says whether the blanks beside it are to be dropped.
-/

namespace LivePages.Template

/-- Whether a tag drops the blanks on its left and on its right. -/
structure Margin where
  left : Bool
  right : Bool
  deriving DecidableEq, Repr, Inhabited

mutual

/-- `choose` is a conditional, `filtered` a section that goes through a filter, `embed` names
templates of which the first known one is put in place. -/
inductive Node
  | text (s : String)
  | comment (m : Margin)
  | raw (opening : Margin) (s : String) (closing : Margin)
  | output (m : Margin) (e : Expr)
  | assign (m : Margin) (name : String) (everywhere : Bool) (value : Expr)
  | parent (m : Margin) (name : String)
  | embed (m : Margin) (names : List String) (optional : Bool)
  | imports (m : Margin) (file library : String)
  | define (opening : Margin) (name : String) (params : List (String × Option Expr))
      (body : List Node) (closing : Margin)
  | choose (branches : List Branch) (otherwise : Option (Margin × List Node)) (closing : Margin)
  | loop (opening : Margin) (key : Option String) (value : String) (container : Expr)
      (body : List Node) (otherwise : Option (List Node)) (closing : Margin)
  | filtered (opening : Margin) (filter : Call) (body : List Node) (closing : Margin)
  | block (opening : Margin) (name : String) (body : List Node) (closing : Margin)
  | super
  | stop (m : Margin)
  | skip (m : Margin)

inductive Branch
  | mk (m : Margin) (condition : Expr) (body : List Node)

end

instance : Inhabited Node := ⟨.super⟩

def Branch.margin : Branch → Margin
  | .mk m _ _ => m

def Branch.condition : Branch → Expr
  | .mk _ c _ => c

def Branch.body : Branch → List Node
  | .mk _ _ b => b

/-! ### Whole numbers in a template -/

def paramsWholes : List (String × Option Expr) → List Int
  | [] => []
  | (_, none) :: r => paramsWholes r
  | (_, some e) :: r => e.wholes ++ paramsWholes r

mutual

def Node.wholes : Node → List Int
  | .output _ e => e.wholes
  | .assign _ _ _ e => e.wholes
  | .define _ _ params body _ => paramsWholes params ++ nodesWholes body
  | .choose branches none _ => branchesWholes branches
  | .choose branches (some (_, body)) _ => branchesWholes branches ++ nodesWholes body
  | .loop _ _ _ e body none _ => e.wholes ++ nodesWholes body
  | .loop _ _ _ e body (some other) _ => e.wholes ++ nodesWholes body ++ nodesWholes other
  | .filtered _ f body _ => f.wholes ++ nodesWholes body
  | .block _ _ body _ => nodesWholes body
  | .text _ => []
  | .comment _ => []
  | .raw _ _ _ => []
  | .parent _ _ => []
  | .embed _ _ _ => []
  | .imports _ _ _ => []
  | .super => []
  | .stop _ => []
  | .skip _ => []

def Branch.wholes : Branch → List Int
  | .mk _ c body => c.wholes ++ nodesWholes body

def nodesWholes : List Node → List Int
  | [] => []
  | n :: r => n.wholes ++ nodesWholes r

def branchesWholes : List Branch → List Int
  | [] => []
  | b :: r => b.wholes ++ branchesWholes r

end

end LivePages.Template
