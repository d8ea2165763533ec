import LivePages.FileTree.World
import LivePages.Notice

/-!
Which places are watched. A place that cannot be watched is reported and left out; only when none is
left does watching not start.
-/

namespace LivePages.Reload

inductive WatchFault
  | noPath
  | refused (cause : DiskFault)
  deriving DecidableEq, Repr

def WatchFault.message : WatchFault → String
  | .noPath => "No path was found."
  | .refused cause => cause.message

structure Failure where
  path : String
  cause : WatchFault
  deriving DecidableEq, Repr

def Failure.text (f : Failure) : String :=
  "`" ++ f.path ++ "`: " ++ f.cause.message

def failuresText (l : List Failure) : String :=
  String.intercalate "; " (l.map Failure.text)

structure Registration where
  watched : List String
  failures : List Failure
  deriving DecidableEq, Repr

def nothingWatched (failures : List Failure) : String :=
  "no template directory could be watched: " ++ failuresText failures

/-- Why a place cannot be watched, if it cannot. -/
def failure? (path : String) : Ask (Option Failure) := do
  match ← Ask.canonical path with
  | .ok _ => pure none
  | .error .missing => pure (some ⟨path, .noPath⟩)
  | .error f => pure (some ⟨path, .refused f⟩)

def Registration.of (places : List (String × Option Failure)) : Registration :=
  ⟨(places.filter (·.2.isNone)).map (·.1), places.filterMap (·.2)⟩

/-- Registers each place. When none can be watched, the failures are the result. -/
def register (paths : List String) : Ask (Except (List Failure) Registration) := do
  let places ← paths.mapM fun p => do pure (p, ← failure? p)
  let r := Registration.of places
  pure (if r.watched.isEmpty then .error r.failures else .ok r)

def Registration.notices (r : Registration) : List Notice :=
  r.watched.map (fun p => .said "watch" ("watching " ++ p)) ++
    (if r.failures.isEmpty then []
      else [.said "watch" ("some directories are not watched: " ++ failuresText r.failures)])

end LivePages.Reload
