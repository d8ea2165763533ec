import LivePages.Markdown.Node

/-!
Touring a document tree. A visitor is called when a node is entered and when it is left; it keeps a
state, may change the node's attributes, and answers how the tour goes on.
-/

namespace LivePages.Markdown

inductive Edge
  | enter
  | exit
  deriving DecidableEq, Repr

inductive Status
  | continue
  | skipChildren
  | stop
  deriving DecidableEq, Repr

def Status.name : Status → String
  | .continue => "Continue"
  | .skipChildren => "SkipChildren"
  | .stop => "Stop"

/-- What a visitor answers to one call. -/
structure Reply (σ : Type) where
  state : σ
  attrs : Markup.Attributes
  status : Status

abbrev Visitor (σ : Type) := σ → Node → Edge → Reply σ

/-- How a tour of some nodes ended: the visitor's state, the nodes, and the last status. -/
structure Toured (σ α : Type) where
  state : σ
  result : α
  status : Status

variable {σ : Type}

/-- Leaves a node whose children have been dealt with. -/
def leave (visit : Visitor σ) (s : σ) (n : Node) : Toured σ Node :=
  let r := visit s n .exit
  ⟨r.state, .mk n.kind r.attrs n.children, r.status⟩

mutual

/-- Stops at once when a call answers `stop`; `skipChildren` on entry still leaves the node. -/
def walk (visit : Visitor σ) (s : σ) : Node → Toured σ Node
  | .mk kind attrs cs =>
    let r := visit s (.mk kind attrs cs) .enter
    match r.status with
    | .stop => ⟨r.state, .mk kind r.attrs cs, .stop⟩
    | .skipChildren => leave visit r.state (.mk kind r.attrs cs)
    | .continue =>
      let t := walkAll visit r.state cs
      match t.status with
      | .stop => ⟨t.state, .mk kind r.attrs t.result, .stop⟩
      | _ => leave visit t.state (.mk kind r.attrs t.result)

/-- Children in order, up to the first whose tour stopped. -/
def walkAll (visit : Visitor σ) (s : σ) : List Node → Toured σ (List Node)
  | [] => ⟨s, [], .continue⟩
  | n :: r =>
    let t := walk visit s n
    match t.status with
    | .stop => ⟨t.state, t.result :: r, .stop⟩
    | _ =>
      let u := walkAll visit t.state r
      ⟨u.state, t.result :: u.result, u.status⟩

end

/-! ### Page attributes -/

def linkTarget : String := "_blank"

def linkRel : String := "noopener noreferrer"

def quoteClass : String := "border-start border-primary border-3 ps-2"

/-- The attributes that a node of a kind gets on a page: links open in a new tab, quotes have a
border. -/
def pageAttributes : Kind → List (String × String)
  | .link _ _ => [("target", linkTarget), ("rel", linkRel)]
  | .blockQuote => [("class", quoteClass)]
  | _ => []

def decorated (k : Kind) (a : Markup.Attributes) : Markup.Attributes :=
  (pageAttributes k).foldl (fun a p => a.set p.1 p.2) a

/-- Sets page attributes on entry and does nothing on exit. -/
def decorator : Visitor Unit
  | _, n, .enter => ⟨(), decorated n.kind n.attrs, .continue⟩
  | _, n, .exit => ⟨(), n.attrs, .continue⟩

/-- Sets the page attributes of a whole tree. -/
def Node.decorate (n : Node) : Node :=
  (walk decorator () n).result

/-! ### Recorded tours -/

/-- Kinds at which a recorded tour stops or skips, by edge. -/
structure Stations where
  enterStop : List String
  enterSkip : List String
  exitStop : List String
  exitSkip : List String

def Stations.status (t : Stations) (kind : String) : Edge → Status
  | .enter =>
    if t.enterStop.contains kind then .stop
    else if t.enterSkip.contains kind then .skipChildren else .continue
  | .exit =>
    if t.exitStop.contains kind then .stop
    else if t.exitSkip.contains kind then .skipChildren else .continue

/-- Writes down each call, last first. -/
def recorder (t : Stations) : Visitor (List (Edge × String))
  | s, n, e => ⟨(e, n.kind.name) :: s, n.attrs, t.status n.kind.name e⟩

end LivePages.Markdown
