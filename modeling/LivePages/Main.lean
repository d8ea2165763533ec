import LivePages.Command.Outcome
import LivePages.Reload.Handling
import LivePages.Reload.Survey

/-!
The command line over the real disk. It answers a program's questions, prints its notices, and looks
at the watched folders at short intervals.
-/

namespace LivePages.Main

def diskFault : IO.Error → DiskFault
  | .noFileOrDirectory .. => .missing
  | .inappropriateType .. => .notAFolder
  | .alreadyExists .. => .exists
  | _ => .missing

def attempt {α : Type} (action : IO α) : IO (Except DiskFault α) := do
  match ← action.toBaseIO with
  | .ok a => pure (.ok a)
  | .error e => pure (.error (diskFault e))

def isFolder (path : String) : IO Bool := do
  match ← attempt (IO.FS.realPath path) with
  | .ok p => p.isDir
  | .error _ => pure false

def text (path : String) : IO (Except DiskFault String) := do
  if ← isFolder path then return .error .aFolder
  match ← attempt (IO.FS.readBinFile path) with
  | .error f => pure (.error f)
  | .ok bytes =>
    match Text.Utf8.decode? bytes.toList with
    | some s => pure (.ok (String.ofList s))
    | none => pure (.error .notText)

def entries (path : String) : IO (Except DiskFault (List Listed)) :=
  attempt do
    let found ← (← IO.FS.realPath path).readDir
    found.toList.mapM fun e => do pure ⟨some e.fileName, !(← e.path.isDir)⟩

def answer : (q : Question) → IO q.Answer
  | .text p => text p
  | .entries p => entries p
  | .isFolder p => isFolder p
  | .exists p => do
    match ← attempt (IO.FS.realPath p) with
    | .ok _ => pure true
    | .error _ => pure false
  | .canonical p => attempt do pure (← IO.FS.realPath p).toString
  | .here => do pure (← IO.currentDir).toString

def converse {α : Type} : Ask α → IO α
  | .done a => pure a
  | .ask q next => do converse (next (← answer q))

/-! ### Printing -/

/-- A time in milliseconds with one place. -/
def elapsedText (nanoseconds : Nat) : String :=
  let tenths := nanoseconds / 100000
  toString (tenths / 10) ++ "." ++ toString (tenths % 10) ++ "ms"

/-- The result of an action, and how long it took. -/
def timed {α : Type} (action : IO α) : IO (α × String) := do
  let start ← IO.monoNanosNow
  let a ← action
  pure (a, elapsedText ((← IO.monoNanosNow) - start))

def usesColour : IO Bool := do
  match ← IO.getEnv "CLICOLOR_FORCE" with
  | some v => if v ≠ "0" then return true
  | none => pure ()
  if (← IO.getEnv "NO_COLOR").isSome then return false
  (← IO.getStdout).isTty

def say (elapsed : String) (notices : List Notice) : IO Unit := do
  let inColour ← usesColour
  for n in notices do
    (← IO.getStderr).putStr (Notice.written inColour n.label (n.message elapsed))

def printReport (r : Command.Report) : IO UInt32 := do
  for l in r.lines do
    (← IO.getStderr).putStrLn l
  pure 1

/-! ### Watching -/

partial def surveyAt (path : String) : IO (List Reload.Sighting) := do
  match ← attempt (IO.FS.realPath path) with
  | .error _ => pure []
  | .ok place =>
    match ← attempt place.metadata with
    | .error _ => pure []
    | .ok m =>
      let folder ← place.isDir
      let stamp := m.modified.sec * 1000000000 + m.modified.nsec.toNat
      let below ←
        if folder then do
          match ← attempt place.readDir with
          | .error _ => pure []
          | .ok found =>
            pure (← found.toList.mapM fun e => surveyAt (Path.join path e.fileName)).flatten
        else pure []
      pure (⟨path, folder, stamp⟩ :: below)

def survey (paths : List String) : IO (List Reload.Sighting) := do
  pure (← paths.mapM surveyAt).flatten

def pause : UInt32 := 200

/-- Handles what changed since the last survey, again and again, until the session has ended. -/
partial def watch (policy : Config.Policy) (paths : List String) (old : List Reload.Sighting)
    (s : Reload.Session) : IO UInt32 := do
  IO.sleep pause
  let new ← survey paths
  let mut s := s
  for e in Reload.between old new do
    let (next, elapsed) ← timed (converse (Reload.handle policy s (.event e)))
    say elapsed next.notices
    s := { next with notices := [] }
  match s.exitCode? with
  | some code => pure code
  | none => watch policy paths new s

def finish (elapsed : String) : Command.Ending → IO UInt32
  | .fails r => printReport r
  | .checked => pure 0
  | .prints html => do
    (← IO.getStdout).putStr html
    pure 0
  | .writes name path html => do
    match ← attempt (IO.FS.writeFile path html) with
    | .error f => printReport ⟨"failed to write " ++ path, [f.message]⟩
    | .ok _ =>
      say elapsed [.said "render" (name ++ " -> " ++ path)]
      pure 0
  | .watches settings publisher r => do
    watch settings.reload.onError r.watched (← survey r.watched) (Reload.Session.start publisher)

def run (words : List String) : IO UInt32 := do
  match Command.parse words with
  | .error .help => do
    (← IO.getStdout).putStr Command.helpText
    pure 0
  | .error .version => do
    (← IO.getStdout).putStr Command.versionText
    pure 0
  | .error .misuse => do
    (← IO.getStderr).putStr Command.helpText
    pure 2
  | .ok i => do
    let ((notices, ending), elapsed) ← timed (converse (Command.plan i))
    say elapsed notices
    finish elapsed ending

end LivePages.Main

def main (words : List String) : IO UInt32 :=
  LivePages.Main.run words
