import LivePages.Command.Arguments
import LivePages.Config.Reader
import LivePages.Json.Parser
import LivePages.Package.Helpers
import LivePages.Publisher
import LivePages.Reload.Registration

/-!
What a command does, as far as it only reads: the notices on the way and how it ends. Nothing is
printed or written before everything that can fail has been done, so a command that fails leaves
standard output empty and every file as it was.
-/

namespace LivePages.Command

open Config (Settings)

/-- A fault with its causes, outermost first. -/
structure Report where
  message : String
  causes : List String
  deriving DecidableEq, Repr

def Report.ofConfig (f : Config.Fault) : Report :=
  ⟨f.message, f.chain⟩

def Report.ofPage (f : PageFault) : Report :=
  ⟨f.message, f.chain⟩

/-- The same fault seen from outside. -/
def Report.within (message : String) (r : Report) : Report :=
  ⟨message, r.message :: r.causes⟩

/-- How a command ends: `watches` leaves a publisher running over the watched places. -/
inductive Ending
  | fails (r : Report)
  | checked
  | prints (html : String)
  | writes (name path html : String)
  | watches (settings : Settings) (publisher : Publisher) (registration : Reload.Registration)

/-- Steps with their notices, up to the first that fails. -/
abbrev Steps (α : Type) := ExceptT Report (StateT (List Notice) Ask) α

namespace Steps

def say (l : List Notice) : Steps Unit :=
  modify (· ++ l)

def ask {α : Type} (p : Ask α) : Steps α :=
  monadLift p

/-- Goes on with a result, or reports its fault. -/
def get {ε α : Type} (report : ε → Report) (r : Except ε α) : Steps α :=
  match r with
  | .ok a => pure a
  | .error f => throw (report f)

end Steps

open Steps (say ask get)

/-- Where a command runs when it is not told. -/
def defaultRoot : String := "./"

/-- The settings of the project: those of the configuration file, if there is one, with the folder
of templates that the command line gives. -/
def configure (i : Invocation) : Steps Settings := do
  let root := i.root.getD defaultRoot
  let path := Path.join root i.config
  let s ←
    if ← ask (Ask.exists path) then do get Report.ofConfig (← ask (Settings.load path))
    else do
      say [.said "config" (path ++ " not found, using defaults")]
      pure Settings.default
  let s := match i.templates with
    | none => s
    | some t => { s with sources := { s.sources with root := t } }
  let s ← ask (s.resolve root)
  get Report.ofConfig (← ask s.check)
  pure s

def publish (s : Settings) : Steps Publisher := do
  let library := Helpers.library (Lookups.ofMirrors s.mirrors)
  let p ← get (fun f => (Report.ofPage f).within "failed to compile templates")
    (← ask (Publisher.load s.sources library))
  say [Publisher.compileNotice p.tickets p.current]
  pure p

/-- The data that a page is rendered with: an empty object when no file is given. -/
def renderData : Option String → Steps Json
  | none => pure (.obj [])
  | some path => do
    let text ← get (fun f => ⟨"failed to read " ++ path, [f.message]⟩) (← ask (Ask.text path))
    get (fun (e : Json.ParseError) => ⟨"invalid JSON in " ++ path, [e.message text]⟩)
      (Json.parse text)

def renderPage (p : Publisher) (name : String) (data output : Option String) : Steps Ending := do
  let html ← get Report.ofPage (p.render name (← renderData data))
  pure (match output with
    | none => .prints html
    | some path => .writes name path html)

def startWatching (s : Settings) (p : Publisher) : Steps Ending := do
  if !s.reload.enabled then throw ⟨"watching is disabled by [watch] enable = false", []⟩
  let r ← get (fun l => ⟨Reload.nothingWatched l, []⟩) (← ask (Reload.register s.sources.watched))
  say r.notices
  if !r.failures.isEmpty then say [.said "error" (Reload.failuresText r.failures)]
  say [.said "watch" "press Ctrl-C to stop"]
  pure (.watches s p r)

/-- What is said when watching is interrupted. -/
def stopped : Notice :=
  .said "watch" "stopped"

def steps (i : Invocation) : Steps Ending := do
  let s ← configure i
  let p ← publish s
  match i.action with
  | .check =>
    say (p.current.names.map fun n => .said "compile" ("ok " ++ n))
    pure .checked
  | .render name data output => renderPage p name data output
  | .watch => startWatching s p

/-- The notices of a command and its ending. -/
def plan (i : Invocation) : Ask (List Notice × Ending) := do
  match ← (steps i).run.run [] with
  | (.ok e, l) => pure (l, e)
  | (.error r, l) => pure (l, .fails r)

end LivePages.Command
