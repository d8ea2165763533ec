import LivePages.Template.Engine
import LivePages.Template.Scope

/-!
A running rendering: what it works on, the state that it changes, and how both are used. A fault
leaves the state as it was when the fault arose. A rendering that needs more depth than it may use
comes to nothing, and nothing catches that.
-/

namespace LivePages.Template

/-- A block that was entered: its name, the template its body came from, and how many templates
above the rendered one that is. -/
structure Entered where
  block : String
  template : String
  level : Nat
  deriving DecidableEq, Repr

structure State where
  frames : List Frame
  entered : List Entered

namespace State

def push (s : State) (f : Frame) : State :=
  { s with frames := f :: s.frames }

def pop (s : State) : State :=
  { s with frames := s.frames.drop 1 }

/-- Changes the innermost frame when it is that of a round. -/
def onRound? (g : Frame → Round → Frame) (s : State) : Option State :=
  match s.frames with
  | [] => none
  | f :: r => f.round.map fun round => { s with frames := g f round :: r }

/-- How the innermost frame goes on. -/
def flow (s : State) : Flow :=
  match s.frames with
  | [] => .next
  | f :: _ => f.flow

/-- Binds a name in the innermost frame that is no loop. -/
def setOutside (name : String) (v : Json) : List Frame → List Frame
  | [] => []
  | f :: r => if f.kind == .loop then f :: setOutside name v r else f.set name v :: r

/-- Binds a name in the innermost frame. -/
def setInside (name : String) (v : Json) : List Frame → List Frame
  | [] => []
  | f :: r => f.set name v :: r

def assign (s : State) (name : String) (everywhere : Bool) (v : Json) : State :=
  { s with
    frames := if everywhere then setOutside name v s.frames else setInside name v s.frames }

/-- The name of the template whose text is running. -/
def template (s : State) : String :=
  match s.frames with
  | [] => ""
  | f :: _ => f.template

end State

/-- What is rendered: `template` is the one asked for, `above` are its ancestors, nearest first. -/
structure Job where
  engine : Engine
  data : Json.Fields
  template : Source
  above : List Source

/-- The topmost ancestor, whose text is rendered. -/
def Job.base (j : Job) : Source :=
  (j.above.getLast?).getD j.template

/-- What a path means where a rendering stands. -/
def Job.value (j : Job) (s : State) (path : String) : Except Fault Json :=
  Scope.value ⟨j.data, s.frames⟩ path

/-- The template whose names for definitions count. -/
def Job.speaker (j : Job) (s : State) : String :=
  match s.entered with
  | e :: _ => e.template
  | [] => if j.template.name ≠ j.base.name then j.base.name else s.template

abbrev Run (α : Type) := ExceptT Fault (StateT State Option) α

namespace Run

def fail {α : Type} (f : Fault) : Run α :=
  throw f

def ofExcept {α : Type} : Except Fault α → Run α
  | .ok a => pure a
  | .error f => throw f

/-- What depth is needed for: nothing when there is too little of it. -/
def within? {α : Type} (x : Option α) : Run α := fun s =>
  x.map fun a => (.ok a, s)

/-- All depth has been used. -/
def tooDeep {α : Type} : Run α :=
  within? none

/-- Puts a fault into another. -/
def within {α : Type} (wrap : Fault → Fault) (x : Run α) : Run α := fun s =>
  (x s).map fun (r, s') => (r.mapError wrap, s')

/-- A fault becomes no result. -/
def attempt {α : Type} (x : Run α) : Run (Option α) := fun s =>
  (x s).map fun (r, s') => (.ok r.toOption, s')

/-- A fault is reported with the place where it arose. -/
def placed {α : Type} (scene : State → Scene) (x : Run α) : Run α := fun s =>
  (x s).map fun (r, s') => (r.mapError (.failed (scene s')), s')

/-- What the state tells. -/
def asks {α : Type} (g : State → α) : Run α := do
  pure (g (← get))

/-- Runs with a frame of its own. A fault leaves the frame where it is. -/
def inFrame {α : Type} (f : Frame) (x : Run α) : Run α := do
  modify (·.push f)
  let a ← x
  modify State.pop
  pure a

def onRound (what : String) (g : Frame → Round → Frame) : Run Unit := fun s =>
  match s.onRound? g with
  | some s' => some (.ok (), s')
  | none => some (.error (.outsideLoop what), s)

/-- Leaves the round. -/
def leaveRound (what : String) (flow : Flow) : Run Unit :=
  onRound what fun f round => { f with round := some { round with flow := flow } }

/-- The next round; names set in a round are gone in the next one. -/
def nextRound : Run Unit :=
  onRound "increment" fun f round => ⟨f.kind, f.template, [], some round.following⟩

def enter (e : Entered) : Run Unit :=
  modify fun s => { s with entered := e :: s.entered }

def leave : Run Unit :=
  modify fun s => { s with entered := s.entered.drop 1 }

end Run

/-- Where a rendering stands, for the report of a fault. -/
def State.elsewhere (s : State) (j : Job) : Elsewhere :=
  match s.entered with
  | e :: _ =>
    let holders := (j.template :: j.above).filter fun t => (t.block? e.block).isSome
    if (j.template.block? e.block).isNone then .aParent
    else
      match holders[e.level]? with
      | none => .aParent
      | some t => if t.name = j.template.name then .here else .template t.name
  | [] =>
    match j.above.getLast? with
    | some t => .template t.name
    | none => .here

def State.running (s : State) : Option (String × String) :=
  match s.frames with
  | ⟨.definition library name, _, _, _⟩ :: _ => some (library, name)
  | _ => none

def State.scene (s : State) (j : Job) : Scene :=
  ⟨j.template.name, s.running, s.elsewhere j⟩

end LivePages.Template
