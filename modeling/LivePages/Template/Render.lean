import LivePages.Template.Eval

/-!
Rendering a template of an engine with data. The text of the topmost ancestor is rendered, and the
name of the template asked for decides whether texts are escaped.
-/

namespace LivePages.Template

/-- Names of templates for pages. -/
def escapes (name : String) : Bool :=
  [".html", ".htm", ".xml"].any fun s => s.toList.isSuffixOf name.toList

/-- Nodes at the top, where nothing is left early. -/
def renderEach (render : Node → Run String) : List Node → Run String
  | [] => pure ""
  | x :: r => do
    let s ← render x
    let t ← renderEach render r
    pure (s ++ t)

/-- The text of the topmost ancestor. -/
def Job.render (j : Job) (depth : Nat) : Run String :=
  Run.placed (·.scene j) (renderEach (Template.render j depth (escapes j.template.name)) j.base.nodes)

def Job.start (j : Job) : State :=
  ⟨[⟨.origin, j.template.name, [], none⟩], []⟩

/-- Rendering with at most so much depth; nothing when more is needed. -/
def Engine.renderWithin (e : Engine) (depth : Nat) (name : String) (data : Json) :
    Option (Except Fault String) :=
  match data with
  | .obj fields =>
    match e.find? name with
    | none => some (.error (.noTemplate name))
    | some t =>
      match e.ancestors t with
      | .error f => some (.error f)
      | .ok above => do
        let j : Job := ⟨e, fields, t, above⟩
        let _ ← e.shelves depth t
        let (r, _) ← j.render depth j.start
        pure r
  | _ => some (.error .dataNotObject)

/-- The depth to which calls, inclusions and nested forms may go. -/
def depthLimit : Nat := 10000

def Engine.render (e : Engine) (name : String) (data : Json) : Except Fault String :=
  (e.renderWithin depthLimit name data).getD (.error .tooDeep)

end LivePages.Template
