import LivePages.Template.Fault
import LivePages.Template.Value
import LivePages.Text.Blank

/-!
Scope: what a path means while a template is rendered. Frames lie on top of each other; below them
is the data. A definition sees its own frame and those above it, and the data.
-/

namespace LivePages.Template

/-- How a round goes on: with its next node, or it is left, for the end of the loop or for the next
round. -/
inductive Flow
  | next
  | stop
  | skip
  deriving DecidableEq, Repr

/-- One round of a loop; `rest` are the items of the rounds to come. -/
structure Round where
  keyName : Option String
  valueName : String
  key : String
  value : Json
  index : Nat
  rest : List (String × Json)
  flow : Flow

def Round.first? (keyName : Option String) (valueName : String) :
    List (String × Json) → Option Round
  | [] => none
  | (k, v) :: rest => some ⟨keyName, valueName, k, v, 0, rest, .next⟩

/-- The round after this one. -/
def Round.following (r : Round) : Round :=
  match r.rest with
  | [] => { r with index := r.index + 1, flow := .next }
  | (k, v) :: rest =>
    { r with key := k, value := v, index := r.index + 1, rest := rest, flow := .next }

inductive FrameKind
  | origin
  | definition (library name : String)
  | loop
  | embedded
  deriving DecidableEq, Repr

structure Frame where
  kind : FrameKind
  template : String
  locals : List (String × Json)
  round : Option Round

def Frame.set (f : Frame) (name : String) (v : Json) : Frame :=
  ⟨f.kind, f.template, (name, v) :: f.locals.filter (·.1 ≠ name), f.round⟩

def Frame.flow (f : Frame) : Flow :=
  match f.round with
  | none => .next
  | some r => r.flow

/-- The first step of a path, and the rest if there is one. -/
def firstStep (path : String) : String × Option String :=
  let (a, b) := Text.cutAt '.' path.toList
  (String.ofList a, b.map String.ofList)

def insideOpt? (tail : Option String) (v : Json) : Option Json :=
  match tail with
  | none => some v
  | some t => inside? t v

def Frame.local? (f : Frame) (path : String) : Option Json :=
  let (k, tail) := firstStep path
  ((f.locals.find? (·.1 = k)).map (·.2)).bind (insideOpt? tail)

/-- In a loop, `loop` always means the loop. -/
def Round.find? (r : Round) (path : String) : Option Json :=
  let (k, tail) := firstStep path
  if k = "loop" then
    match tail with
    | some "index" => some (.int (r.index + 1))
    | some "index0" => some (.int r.index)
    | some "first" => some (.bool (r.index == 0))
    | some "last" => some (.bool r.rest.isEmpty)
    | _ => none
  else if k = r.valueName then insideOpt? tail r.value
  else if r.keyName = some path then some (.str r.key)
  else none

def Frame.find? (f : Frame) (path : String) : Option Json :=
  f.local? path <|> f.round.bind (·.find? path)

/-- Nothing below such a frame is looked at but the data. -/
def FrameKind.isFloor : FrameKind → Bool
  | .origin => true
  | .definition _ _ => true
  | _ => false

def findInFrames (path : String) : List Frame → Option Json
  | [] => none
  | f :: r =>
    match f.find? path with
    | some v => some v
    | none => if f.kind.isFloor then none else findInFrames path r

structure Scope where
  data : Json.Fields
  frames : List Frame

def Scope.template (s : Scope) : String :=
  match s.frames with
  | [] => ""
  | f :: _ => f.template

def inData? (data : Json.Fields) (path : String) : Option Json :=
  let (k, tail) := firstStep path
  (data.get? (match tail with | none => k | some _ => stepName k.toList)).bind (insideOpt? tail)

def Scope.find? (s : Scope) (path : String) : Option Json :=
  findInFrames path s.frames <|> inData? s.data path

/-! ### Keys in square brackets -/

/-- The text of a bracket up to its closing one, and what follows; brackets inside belong to it. -/
def bracketText (depth : Nat) : List Char → List Char × List Char
  | [] => ([], [])
  | c :: r =>
    if c = ']' && depth = 0 then ([], r)
    else
      let depth := if c = '[' then depth + 1 else if c = ']' then depth - 1 else depth
      let (a, b) := bracketText depth r
      (c :: a, b)

def isIndex (s : List Char) : Bool :=
  !s.isEmpty && s.all Char.isDigit

/-- The keys of a path that are paths themselves: neither quoted nor a position. -/
def pathKeys : Nat → List Char → List (List Char)
  | 0, _ => []
  | _, [] => []
  | n + 1, '[' :: r =>
    match r with
    | [] => []
    | '"' :: r' => pathKeys n r'
    | '\'' :: r' => pathKeys n r'
    | _ =>
      let (key, rest) := bracketText 0 r
      if isIndex key then pathKeys n rest else key :: pathKeys n rest
  | n + 1, _ :: r => pathKeys n r

/-- Puts `new` in place of the first `old`. -/
def replaceFirst (old new : List Char) : List Char → List Char
  | [] => []
  | c :: r =>
    if old.isPrefixOf (c :: r) then new ++ (c :: r).drop old.length
    else c :: replaceFirst old new r

/-- A path with its brackets written as steps. -/
def bracketsAsSteps (s : List Char) : List Char :=
  [("/", "~1"), ("['", ".\""), ("[\"", ".\""), ("[", "."), ("']", "\""), ("\"]", "\""),
      ("]", "")].foldl
    (fun s p => Text.replaceAll p.1.toList p.2.toList s) s

/-- A key's value as a step. -/
def keyStep? : Json → Option String
  | .str s => some ("\"" ++ s ++ "\"")
  | .int i => some (toString i)
  | .float x => some (Decimal.Layout.data.write x)
  | _ => none

def hasBracket (path : String) : Bool :=
  path.toList.contains '['

/-- Looks a path up; keys in brackets that are paths are looked up first. -/
def Scope.lookup (s : Scope) : Nat → String → Except Fault Json
  | 0, path => .error (.unknownPath path s.template)
  | n + 1, path =>
    if !hasBracket path then
      match s.find? path with
      | some v => .ok v
      | none => .error (.unknownPath path s.template)
    else do
      let evaluated ← (pathKeys path.length path.toList).foldlM
        (fun done key =>
          match s.lookup n (String.ofList key) with
          | .error f => .error (.badKey path f.message)
          | .ok v =>
            match keyStep? v with
            | none => .error (.keyNotScalar (String.ofList key) path)
            | some step =>
              .ok (replaceFirst ('[' :: key ++ [']']) ('.' :: step.toList) done))
        path.toList
      let evaluated := String.ofList (bracketsAsSteps evaluated)
      match s.find? evaluated with
      | some v => .ok v
      | none => .error (.unknownKeyPath path s.template evaluated)

/-! ### The whole scope as a value -/

def insertAll (fields : Json.Fields) (more : List (String × Json)) : Json.Fields :=
  more.foldl (fun fs kv => fs.insert kv.1 kv.2) fields

def Round.bindings (r : Round) : List (String × Json) :=
  (r.valueName, r.value) ::
    (match r.keyName with
      | none => []
      | some k => [(k, .str r.key)])

/-- The names that the frames bind, and whether the data is visible below them. -/
def frameBindings (done : Json.Fields) : List Frame → Json.Fields × Bool
  | [] => (done, true)
  | f :: r =>
    let done := insertAll done f.locals
    let done := match f.round with
      | none => done
      | some round => insertAll done round.bindings
    match f.kind with
    | .definition _ _ => (done, false)
    | _ => frameBindings done r

/-- Everything visible, as indented text. -/
def Scope.dump (s : Scope) : String :=
  let (bound, seesData) := frameBindings [] s.frames
  (Json.obj (if seesData then insertAll s.data bound else bound)).pretty

/-- The path that stands for everything visible. -/
def dumpPath : String := "__tera_context"

def Scope.value (s : Scope) (path : String) : Except Fault Json :=
  if path = dumpPath then .ok (.str s.dump) else s.lookup (path.length + 1) path

end LivePages.Template
