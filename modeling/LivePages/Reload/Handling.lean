import LivePages.Config.Settings
import LivePages.Notice
import LivePages.Publisher
import LivePages.Reload.Event

/-!
Handling what the watched places report, one delivery at a time: an event that counts compiles once.
When that fails, the policy decides whether the program goes on.
-/

namespace LivePages.Reload

open Config (Policy)

inductive Delivery
  | event (e : Event)
  | trouble (message : String)
  deriving DecidableEq, Repr

/-- The publisher, the notices in order, and whether the program has ended. -/
structure Session where
  publisher : Publisher
  notices : List Notice
  ended : Bool

def Session.start (p : Publisher) : Session :=
  ⟨p, [], false⟩

/-- The exit code, once the program has ended. -/
def Session.exitCode? (s : Session) : Option UInt32 :=
  if s.ended then some 1 else none

def Session.say (s : Session) (l : List Notice) : Session :=
  { s with notices := s.notices ++ l }

/-- A fault and its causes on one line. -/
def oneLine (f : PageFault) : String :=
  String.intercalate ": " (f.message :: f.chain)

def trigger (root : String) (e : Event) : Notice :=
  .said "watch" (e.kind.text ++ " " ++ ((e.paths.head?.map (Path.relativeTo root)).getD "") ++
    ", recompiling")

def failureNotices (policy : Policy) (f : PageFault) : List Notice :=
  [.said "error" (oneLine f),
    match policy with
    | .abort => .said "error" "template reload failed, exiting"
    | .keep => .said "watch" "keeping previous templates"]

def handleEvent (policy : Policy) (s : Session) (e : Event) : Ask Session :=
  if !e.counts then pure s
  else do
    let (p, result) ← s.publisher.compile
    let s := Session.say { s with publisher := p } [trigger p.sources.root e]
    match result with
    | .ok edition => pure (s.say [Publisher.compileNotice p.tickets edition])
    | .error f => pure { s.say (failureNotices policy f) with ended := policy = .abort }

/-- Once the program has ended, nothing more is handled. -/
def handle (policy : Policy) (s : Session) (d : Delivery) : Ask Session :=
  if s.ended then pure s
  else
    match d with
    | .event e => handleEvent policy s e
    | .trouble m => pure (s.say [.said "watch" ("watch error: " ++ m)])

end LivePages.Reload
