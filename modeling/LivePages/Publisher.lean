import LivePages.Edition.Build
import LivePages.Notice

/-!
The publisher holds the current edition. A compile takes its ticket before it reads anything, and
its edition is published unless one with a higher number is already out, so a slow compile never
replaces a newer one. A failed compile leaves the current edition and uses up its ticket.
-/

namespace LivePages

open Config (Sources)
open Template (Library)

structure Publisher where
  sources : Sources
  library : Library
  tickets : Nat
  current : Edition

namespace Publisher

def new (s : Sources) (library : Library) : Publisher :=
  ⟨s, library, 0, Edition.empty⟩

/-- The number of the next compile. -/
def takeTicket (p : Publisher) : Nat × Publisher :=
  (p.tickets + 1, { p with tickets := p.tickets + 1 })

def publish (p : Publisher) (e : Edition) : Publisher :=
  if e.number < p.current.number then p else { p with current := e }

/-- Takes a ticket, builds and publishes. The result is the edition that is current afterwards. -/
def compile (p : Publisher) : Ask (Publisher × Except PageFault Edition) := do
  let (ticket, p) := p.takeTicket
  match ← (Edition.build p.sources p.library ticket).run with
  | .error f => pure (p, .error f)
  | .ok e => pure (p.publish e, .ok (p.publish e).current)

/-- What is said of a compile with this ticket, after which `e` is the current edition. -/
def compileNotice (ticket : Nat) (e : Edition) : Notice :=
  if e.number = ticket then .compiled e.size ticket else .superseded ticket e.number

/-- A publisher with its first edition. -/
def load (s : Sources) (library : Library) : Ask (Except PageFault Publisher) := do
  match ← (new s library).compile with
  | (_, .error f) => pure (.error f)
  | (p, .ok _) => pure (.ok p)

def get? (p : Publisher) (name : String) : Option Page :=
  p.current.get? name

def render (p : Publisher) (name : String) (data : Json) : Except PageFault String :=
  match p.get? name with
  | none => .error (.unknown name)
  | some page => page.render data

end Publisher

end LivePages
