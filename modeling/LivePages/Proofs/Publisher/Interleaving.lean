import LivePages.Proofs.Edition.Number
import LivePages.Publisher

/-! Compiles of one publisher that overlap. Each takes its ticket, asks the disk one question at a
time and publishes in one step; between any two of these steps others may take theirs, readers may
look at the current edition, and the disk may change. A disk is any way to answer questions, so a text
caught half-written is a disk of its own between two changes. -/

namespace LivePages

/-- A disk all of whose files hold one text and all of whose folders are empty. -/
def Disk.uniform (text : String) : Disk
  | .text _ => .ok text
  | .entries _ => .ok []
  | .isFolder _ => false
  | .exists _ => false
  | .canonical path => .ok path
  | .here => "/"

end LivePages

namespace LivePages.Overlap

open Config (Sources)
open Template (Library)

/-- How far a compile has come. The result of one that has published is the edition that was current
after that step. -/
inductive Phase
  | building (rest : Ask (Except PageFault Edition))
  | failed (fault : PageFault)
  | published (own result : Edition)

/-- What is still to be done of a compile's build. -/
def Phase.rest : Phase → Ask (Except PageFault Edition)
  | .building rest => rest
  | .failed f => .done (.error f)
  | .published own _ => .done (.ok own)

def Phase.own? : Phase → Option Edition
  | .published own _ => some own
  | _ => none

/-- What a compile that has ended gave. -/
def Phase.outcome? : Phase → Option (Except PageFault Edition)
  | .building _ => none
  | .failed f => some (.error f)
  | .published _ result => some (.ok result)

/-- A compile under way or ended; `since` is how often the disk had changed when it took its ticket. -/
structure Compile where
  ticket : Nat
  since : Nat
  phase : Phase

/-- The publisher, the disk, the disks before it, last first, the compiles in the order of their
tickets, and the editions that readers have seen. -/
structure Site where
  publisher : Publisher
  disk : Disk
  past : List Disk
  compiles : List Compile
  seen : List Edition

/-- One step: a compile takes its ticket, compile `i` asks its next question or ends, a reader loads
the current edition, or the disk changes. -/
inductive Action
  | start
  | advance (i : Nat)
  | look
  | edit (d : Disk)

namespace Site

def new (s : Sources) (library : Library) (d : Disk) : Site :=
  ⟨.new s library, d, [], [], []⟩

def edits (s : Site) : Nat :=
  s.past.length

def program (s : Site) (ticket : Nat) : Ask (Except PageFault Edition) :=
  (Edition.build s.publisher.sources s.publisher.library ticket).run

def start (s : Site) : Site :=
  { s with
    publisher := s.publisher.takeTicket.2
    compiles := s.compiles ++
      [⟨s.publisher.takeTicket.1, s.edits, .building (s.program s.publisher.takeTicket.1)⟩] }

/-- Sets compile `i` to a phase. -/
def setPhase (s : Site) (i : Nat) (c : Compile) (ph : Phase) : Site :=
  { s with compiles := s.compiles.set i { c with phase := ph } }

/-- The next step of compile `i`. One that has built its edition compares and publishes at once. -/
def advance (s : Site) (i : Nat) : Site :=
  match s.compiles[i]? with
  | none => s
  | some c =>
    match c.phase with
    | .building (.ask q next) => s.setPhase i c (.building (next (s.disk q)))
    | .building (.done (.error f)) => s.setPhase i c (.failed f)
    | .building (.done (.ok e)) =>
      let p := s.publisher.publish e
      { s with publisher := p }.setPhase i c (.published e p.current)
    | _ => s

def step (s : Site) : Action → Site
  | .start => s.start
  | .advance i => s.advance i
  | .look => { s with seen := s.publisher.current :: s.seen }
  | .edit d => { s with disk := d, past := s.disk :: s.past }

def run (s : Site) (actions : List Action) : Site :=
  actions.foldl step s

/-- Whether the disk `d` was there at some time since the disk had changed `k` times. -/
def Stood (s : Site) (k : Nat) (d : Disk) : Prop :=
  d ∈ (s.disk :: s.past).take (s.edits + 1 - k)

theorem stood_disk {s : Site} {k : Nat} (hk : k ≤ s.edits) : s.Stood k s.disk := by
  unfold Stood
  rw [show s.edits + 1 - k = s.edits - k + 1 by omega, List.take_succ_cons]
  exact List.mem_cons_self

/-- Since the last change only the present disk was there. -/
theorem eq_disk_of_stood {s : Site} {d : Disk} (h : s.Stood s.edits d) : d = s.disk := by
  unfold Stood at h
  rw [show s.edits + 1 - s.edits = 1 by omega] at h
  simpa using h

theorem Stood.edit {s : Site} {k : Nat} {d d' : Disk} (hk : k ≤ s.edits) (h : s.Stood k d) :
    (s.step (.edit d')).Stood k d := by
  unfold Stood at h ⊢
  have hedits : (s.step (.edit d')).edits = s.edits + 1 := rfl
  rw [hedits, show s.edits + 1 + 1 - k = s.edits + 1 - k + 1 by omega, List.take_succ_cons]
  exact List.mem_cons_of_mem _ h

/-! ### One compile alone -/

variable {s : Site} {i : Nat} {c : Compile}

theorem advance_ask {q : Question} {next : q.Answer → Ask (Except PageFault Edition)}
    (hc : s.compiles[i]? = some c) (hp : c.phase = .building (.ask q next)) :
    s.advance i = s.setPhase i c (.building (next (s.disk q))) := by
  simp only [advance, hc, hp]

theorem advance_fail {f : PageFault} (hc : s.compiles[i]? = some c)
    (hp : c.phase = .building (.done (.error f))) : s.advance i = s.setPhase i c (.failed f) := by
  simp only [advance, hc, hp]

theorem advance_publish {e : Edition} (hc : s.compiles[i]? = some c)
    (hp : c.phase = .building (.done (.ok e))) :
    s.advance i = { s with publisher := s.publisher.publish e }.setPhase i c
      (.published e (s.publisher.publish e).current) := by
  simp only [advance, hc, hp]

/-- What becomes of a site when compile `i`, of phase `c.phase`, ends with a result of its build. -/
def ended (s : Site) (i : Nat) (c : Compile) : Except PageFault Edition → Site
  | .error f => s.setPhase i c (.failed f)
  | .ok e => { s with publisher := s.publisher.publish e }.setPhase i c
      (.published e (s.publisher.publish e).current)

theorem ended_setPhase (s : Site) (i : Nat) (c : Compile) (ph : Phase)
    (r : Except PageFault Edition) :
    (s.setPhase i c ph).ended i { c with phase := ph } r = s.ended i c r := by
  cases r <;> simp [ended, setPhase]

/-- A compile that nothing interrupts comes to its end. -/
theorem advance_to_end {rest : Ask (Except PageFault Edition)} (hc : s.compiles[i]? = some c)
    (hp : c.phase = .building rest) :
    ∃ n, s.run (List.replicate n (.advance i)) = s.ended i c (rest.run s.disk) := by
  induction rest generalizing s c with
  | done r =>
    refine ⟨1, ?_⟩
    cases r with
    | error f => exact advance_fail hc hp
    | ok e => exact advance_publish hc hp
  | ask q next ih =>
    have hi : i < s.compiles.length := (List.getElem?_eq_some_iff.1 hc).1
    have hc' : (s.setPhase i c (.building (next (s.disk q)))).compiles[i]? =
        some { c with phase := .building (next (s.disk q)) } := List.getElem?_set_self hi
    obtain ⟨n, hn⟩ := ih (s.disk q) hc' rfl
    refine ⟨n + 1, ?_⟩
    rw [ended_setPhase] at hn
    rw [List.replicate_succ, run, List.foldl_cons, step, advance_ask hc hp]
    exact hn

/-- What a publisher and its compile come to with a result of the build. -/
def concluded (p : Publisher) : Except PageFault Edition → Publisher × Except PageFault Edition
  | .error f => (p, .error f)
  | .ok e => (p.publish e, .ok (p.publish e).current)

theorem run_compile (p : Publisher) (d : Disk) :
    p.compile.run d =
      concluded p.takeTicket.2 ((Edition.build p.sources p.library p.takeTicket.1).run.run d) := by
  have hsame : Edition.build p.sources p.library p.takeTicket.1 =
      Edition.build p.takeTicket.2.sources p.takeTicket.2.library p.takeTicket.1 := rfl
  unfold Publisher.compile
  simp only [Ask.run_bind, hsame]
  cases (Edition.build p.takeTicket.2.sources p.takeTicket.2.library p.takeTicket.1).run.run d <;> rfl

/-- What compile `i` gave, if it has ended. -/
def outcome? (s : Site) (i : Nat) : Option (Except PageFault Edition) :=
  s.compiles[i]?.bind (·.phase.outcome?)

theorem ended_eq_concluded {s : Site} {i : Nat} {c : Compile} (hi : i < s.compiles.length)
    (r : Except PageFault Edition) :
    (s.ended i c r).publisher = (concluded s.publisher r).1 ∧
      (s.ended i c r).outcome? i = some (concluded s.publisher r).2 := by
  cases r with
  | error f => exact ⟨rfl, by simp [outcome?, ended, setPhase, Phase.outcome?, concluded, hi]⟩
  | ok e => exact ⟨rfl, by simp [outcome?, ended, setPhase, Phase.outcome?, concluded, hi]⟩

/-- Without interruption the steps of a compile come to what `Publisher.compile` does. -/
theorem start_to_end (s : Site) : ∃ n,
    (s.start.run (List.replicate n (.advance s.compiles.length))).publisher =
      (s.publisher.compile.run s.disk).1 ∧
    (s.start.run (List.replicate n (.advance s.compiles.length))).outcome? s.compiles.length =
      some (s.publisher.compile.run s.disk).2 := by
  have hi : s.compiles.length < s.start.compiles.length := by simp [start]
  have hc : s.start.compiles[s.compiles.length]? = some ⟨s.publisher.takeTicket.1, s.edits,
      .building (s.program s.publisher.takeTicket.1)⟩ := by simp [start]
  obtain ⟨n, hn⟩ := advance_to_end hc rfl
  refine ⟨n, ?_⟩
  rw [hn, run_compile]
  exact ended_eq_concluded hi _

end Site

end LivePages.Overlap
