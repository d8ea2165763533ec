import LivePages.Config.Fault
import LivePages.Config.Mirrors
import LivePages.Config.Sources

/-!
The settings of a project, the paths in them, and the checks that they pass before they are used.
The first violation in a fixed order is reported: the layout, the names, the requirements, the
root folder, the addresses.
-/

namespace LivePages.Config

/-- What to do when a changed template no longer compiles. -/
inductive Policy
  | abort
  | keep
  deriving DecidableEq, Repr

def Policy.name : Policy → String
  | .abort => "abort"
  | .keep => "keep"

def Policy.all : List Policy := [.abort, .keep]

structure Reload where
  enabled : Bool
  onError : Policy
  deriving DecidableEq, Repr

def Reload.default : Reload := ⟨true, .abort⟩

/-- `path` is the file that the settings came from, or empty. -/
structure Settings where
  path : String
  sources : Sources
  reload : Reload
  mirrors : Mirrors
  deriving DecidableEq, Repr

def Settings.default : Settings :=
  ⟨"", Sources.default, Reload.default, Mirrors.default⟩

/-! ### Checks -/

/-- Names that stay in their folder. -/
def isName (s : String) : Bool :=
  !(Text.trim s).isEmpty && !s.toList.contains '/' && !s.toList.contains '\\' && s ≠ ".."

/-- Each name is a name and none occurs twice, nor among `seen`. -/
def checkNames (seen : List String) : List String → Except Fault Unit
  | [] => .ok ()
  | n :: r =>
    if !isName n then .error (.invalidName n)
    else if seen.contains n then .error (.repeatedName n)
    else checkNames (n :: seen) r

def Component.check (c : Component) : Except Fault Unit :=
  c.requires.forM fun r =>
    if !isName r then .error (.invalidRequirement c.name r)
    else if r = c.name then .error (.requiresItself c.name)
    else .ok ()

def Sources.check (s : Sources) : Except Fault Unit := do
  if !isName s.layout then throw (.invalidLayout s.layout)
  checkNames [baseName] s.names
  s.components.forM Component.check

def isAddress (url : String) : Bool :=
  "http".toList.isPrefixOf url.toList

def Mirrors.check (m : Mirrors) : Except Fault Unit :=
  (m.url :: m.mirrors.map (·.2)).forM fun url =>
    if isAddress url then .ok () else .error (.invalidAddress url)

def Settings.check (s : Settings) : Ask (Except Fault Unit) := do
  let rootIsFolder ← Ask.isFolder s.sources.root
  pure do
    s.sources.check
    if !rootIsFolder then throw (.rootNotAFolder s.sources.root)
    s.mirrors.check

/-! ### Paths -/

/-- The path from the top, without detours if there is something at it. -/
def settled (p : String) : Ask String := do
  match ← Ask.canonical p with
  | .ok q => pure q
  | .error _ =>
    if Path.isAbsolute p then pure p else pure (Path.join (← Ask.here) p)

/-- The settings with the root of the templates settled below the project's root. -/
def Settings.resolve (s : Settings) (root : String) : Ask Settings := do
  let root ← settled root
  let place ← settled (Path.join root s.sources.root)
  pure { s with sources := { s.sources with root := place } }

end LivePages.Config
