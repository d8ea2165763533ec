import LivePages.Template.Fault
import LivePages.Template.Margin
import LivePages.Template.Node.Reader

/-!
A template as read from its source: its nodes, and what they say about other templates. A block or
definition may occur once only.
-/

namespace LivePages.Template

/-- A named piece of text with arguments. -/
structure Definition where
  name : String
  params : List (String × Option Expr)
  body : List Node

/-- A block with the blocks inside it that are not under a condition or loop. -/
structure Block where
  name : String
  body : List Node

mutual

def Node.blocks : Node → List Block
  | .block _ name body _ => ⟨name, body⟩ :: blocksOf body
  | _ => []

def blocksOf : List Node → List Block
  | [] => []
  | n :: r => n.blocks ++ blocksOf r

end

def Node.definition? : Node → Option Definition
  | .define _ name params body _ => some ⟨name, params, body⟩
  | _ => none

def Node.import? : Node → Option (String × String)
  | .imports _ file library => some (file, library)
  | _ => none

def Node.parent? : Node → Option String
  | .parent _ name => some name
  | _ => none

/-- The first name that comes up again. -/
def repeated? (seen : List String) : List String → Option String
  | [] => none
  | x :: r => if seen.contains x then some x else repeated? (x :: seen) r

/-- `imports` pairs the file that is imported with the name it goes by. -/
structure Source where
  name : String
  nodes : List Node
  parent : Option String
  blocks : List Block
  definitions : List Definition
  imports : List (String × String)

def Source.block? (t : Source) (name : String) : Option Block :=
  t.blocks.find? (·.name = name)

def Source.definition? (t : Source) (name : String) : Option Definition :=
  t.definitions.find? (·.name = name)

def Source.ofNodes (name : String) (nodes : List Node) : Source where
  name
  nodes
  parent := nodes.reverse.findSome? Node.parent?
  blocks := blocksOf nodes
  definitions := nodes.filterMap Node.definition?
  imports := nodes.filterMap Node.import?

def fitsWhole (i : Int) : Bool :=
  -Int.pow 2 63 ≤ i && i < Int.pow 2 63

/-- The first thing wrong with a template that could be read. -/
def Source.fault? (t : Source) : Option Fault :=
  match (nodesWholes t.nodes).find? fun i => !fitsWhole i with
  | some i => some (.wholeOutOfRange (toString i))
  | none =>
    match repeated? [] (t.blocks.map (·.name)) with
    | some b => some (.repeatedBlock b)
    | none => (repeated? [] (t.definitions.map (·.name))).map .repeatedDefinition

def Source.read (name text : String) : Except Fault Source :=
  match readNodes? text.toList with
  | none => .error (.unreadable name .outsideGrammar)
  | some nodes =>
    let t := Source.ofNodes name (trimMargins nodes)
    match t.fault? with
    | some f => .error (.unreadable name f)
    | none => .ok t

end LivePages.Template
