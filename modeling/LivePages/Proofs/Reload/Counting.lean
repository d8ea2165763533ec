import Mathlib.Data.List.Induction
import LivePages.Proofs.FileTree.Course
import LivePages.Proofs.Reload.Watching

/-! How often the watcher compiles. Compiling opens files, and that is reported too, so the watcher's
work fills the queue that it works on. Still every delivery that counts is compiled for once, in the
order of arrival, and nothing else is; under the policy to abort this ends with the first compile
that fails. -/

namespace LivePages.Reload

open Config (Policy)

/-- A delivery that was handled, with the disks that answered what was asked meanwhile. -/
structure Turn where
  delivery : Delivery
  disks : Nat → Disk

/-- The watcher's thread: its session, the deliveries that wait, and the turns that it has taken. -/
structure Thread where
  session : Session
  waiting : List Delivery
  turns : List Turn

/-- A file that is opened is reported, and does not stand for a change. -/
def echo (a : Access) (paths : List String) : Delivery :=
  .event ⟨.access a, paths, false⟩

/-- A delivery arrives from outside, or because a compile opened a file; or the thread takes a turn. -/
inductive Happening
  | arrives (d : Delivery)
  | echoes (a : Access) (paths : List String)
  | turn (disks : Nat → Disk)

/-- What a turn's compile makes of a publisher, and what it gives. -/
def Turn.attempt (t : Turn) (p : Publisher) : Publisher × Except PageFault Edition :=
  p.compile.runThrough t.disks

/-- The publisher after one compile in each of some turns. -/
def compiled (p : Publisher) : List Turn → Publisher
  | [] => p
  | t :: r => compiled (t.attempt p).1 r

/-- What the compiles give, one after the other. -/
def outcomes (p : Publisher) : List Turn → List (Except PageFault Edition)
  | [] => []
  | t :: r => (t.attempt p).2 :: outcomes (t.attempt p).1 r

/-- After such a delivery a template may be another one: something came to be or went away, its
contents or its name changed, or events were lost. -/
inductive Delivery.MayChange : Delivery → Prop
  | created (t : Thing) (paths : List String) (rescan : Bool) :
    MayChange (.event ⟨.created t, paths, rescan⟩)
  | removed (t : Thing) (paths : List String) (rescan : Bool) :
    MayChange (.event ⟨.removed t, paths, rescan⟩)
  | changed (c : Change) (paths : List String) (rescan : Bool) (h : ∀ d, c ≠ .detail d) :
    MayChange (.event ⟨.changed c, paths, rescan⟩)
  | lost (k : Kind) (paths : List String) : MayChange (.event ⟨k, paths, true⟩)

def deliveries (hs : List Happening) : List Delivery :=
  hs.filterMap fun
    | .arrives d => some d
    | .echoes a paths => some (echo a paths)
    | .turn _ => none

/-- The deliveries that no compile has caused. -/
def arrivals (hs : List Happening) : List Delivery :=
  hs.filterMap fun
    | .arrives d => some d
    | _ => none

namespace Thread

def start (p : Publisher) : Thread :=
  ⟨.start p, [], []⟩

/-- A turn handles the delivery that has waited longest. A program that has ended takes none. -/
def turn (policy : Policy) (t : Thread) (disks : Nat → Disk) : Thread :=
  if t.session.ended then t
  else
    match t.waiting with
    | [] => t
    | d :: r => ⟨(handle policy t.session d).runThrough disks, r, t.turns ++ [⟨d, disks⟩]⟩

def step (policy : Policy) (t : Thread) : Happening → Thread
  | .arrives d => { t with waiting := t.waiting ++ [d] }
  | .echoes a paths => { t with waiting := t.waiting ++ [echo a paths] }
  | .turn disks => t.turn policy disks

def run (policy : Policy) (t : Thread) (hs : List Happening) : Thread :=
  hs.foldl (step policy) t

/-- The turns in which the thread compiled, or should have. -/
def attempts (t : Thread) : List Turn :=
  t.turns.filter (·.delivery.counts)

theorem run_append (policy : Policy) (t : Thread) (hs more : List Happening) :
    t.run policy (hs ++ more) = (t.run policy hs).run policy more :=
  List.foldl_append

theorem run_concat (policy : Policy) (t : Thread) (hs : List Happening) (h : Happening) :
    t.run policy (hs ++ [h]) = (t.run policy hs).step policy h :=
  run_append policy t hs [h]

end Thread

/-! ### One delivery -/

theorem Delivery.counts_iff (d : Delivery) : d.counts = true ↔ d.MayChange := by
  constructor
  · intro h
    cases d with
    | trouble m => cases h
    | event e =>
      obtain ⟨kind, paths, rescan⟩ := e
      cases rescan with
      | true => exact .lost kind paths
      | false =>
        have hkind : kind.isChange = true := (Bool.or_false _).symm.trans h
        cases kind with
        | created t => exact .created t paths false
        | removed t => exact .removed t paths false
        | changed c =>
          refine .changed c paths false fun d hd => ?_
          rw [hd] at hkind
          cases hkind
        | _ => cases hkind
  · intro h
    cases h with
    | created t paths rescan => rfl
    | removed t paths rescan => rfl
    | changed c paths rescan hc =>
      cases c with
      | detail d => exact absurd rfl (hc d)
      | _ => rfl
    | lost k paths => exact Bool.or_true _

theorem tickets_publish (p : Publisher) (e : Edition) : (p.publish e).tickets = p.tickets := by
  unfold Publisher.publish
  split <;> rfl

/-- A compile uses up one ticket, whether it succeeds or fails. -/
theorem Turn.tickets_attempt (t : Turn) (p : Publisher) :
    (t.attempt p).1.tickets = p.tickets + 1 := by
  have hevery : p.compile.Every fun r : Publisher × Except PageFault Edition =>
      r.1.tickets = p.tickets + 1 := by
    refine (Ask.every_true _).bind fun r _ => ?_
    cases r with
    | error f => rfl
    | ok e => exact tickets_publish _ e
  exact hevery.runThrough t.disks

/-- The session after the compile for an event. -/
def afterCompile (policy : Policy) (s : Session) (e : Event) :
    Publisher × Except PageFault Edition → Session
  | (p, .ok edition) =>
    (Session.say { s with publisher := p } [trigger p.sources.root e]).say
      [Publisher.compileNotice p.tickets edition]
  | (p, .error f) =>
    { (Session.say { s with publisher := p } [trigger p.sources.root e]).say
        (failureNotices policy f) with ended := policy = .abort }

theorem runThrough_handle_of_counts (policy : Policy) {s : Session} {d : Delivery}
    (disks : Nat → Disk) (hgoing : s.ended = false) (hcounts : d.counts = true) :
    ∃ e, d = .event e ∧
      (handle policy s d).runThrough disks =
        afterCompile policy s e (s.publisher.compile.runThrough disks) := by
  cases d with
  | trouble m => cases hcounts
  | event e =>
    have hgo : ¬(!e.counts) = true := by
      rw [show e.counts = true from hcounts]
      decide
    refine ⟨e, rfl, ?_⟩
    rw [handle, hgoing, if_neg Bool.false_ne_true]
    simp only [handleEvent, if_neg hgo]
    refine Ask.runThrough_bind_pure (g := afterCompile policy s e) (fun r => ?_) disks
    obtain ⟨p, result⟩ := r
    cases result <;> rfl

theorem runThrough_handle_of_not_counts (policy : Policy) (s : Session) {d : Delivery}
    (disks : Nat → Disk) (hcounts : d.counts = false) :
    ((handle policy s d).runThrough disks).publisher = s.publisher ∧
      ((handle policy s d).runThrough disks).ended = s.ended := by
  cases d with
  | trouble m =>
    rw [handle]
    split <;> exact ⟨rfl, rfl⟩
  | event e =>
    have hstop : (!e.counts) = true := by
      rw [show e.counts = false from hcounts]
      rfl
    rw [handle]
    split
    · exact ⟨rfl, rfl⟩
    · simp only [handleEvent, if_pos hstop]
      exact ⟨rfl, rfl⟩

theorem publisher_afterCompile (policy : Policy) (s : Session) (e : Event)
    (r : Publisher × Except PageFault Edition) : (afterCompile policy s e r).publisher = r.1 := by
  obtain ⟨p, result⟩ := r
  cases result <;> rfl

/-- The program ends when a compile fails under the policy to abort. -/
theorem ended_afterCompile (policy : Policy) {s : Session} (e : Event) (hgoing : s.ended = false)
    (r : Publisher × Except PageFault Edition) :
    (afterCompile policy s e r).ended = true ↔ policy = .abort ∧ ∃ f, r.2 = .error f := by
  obtain ⟨p, result⟩ := r
  cases result with
  | ok edition =>
    refine iff_of_false ?_ fun ⟨_, f, hf⟩ => nomatch hf
    rw [show (afterCompile policy s e (p, .ok edition)).ended = s.ended from rfl, hgoing]
    exact Bool.false_ne_true
  | error f =>
    rw [show (afterCompile policy s e (p, .error f)).ended = decide (policy = .abort) from rfl,
      decide_eq_true_iff]
    exact ⟨fun h => ⟨h, f, rfl⟩, fun h => h.1⟩

/-! ### A run of the thread -/

theorem compiled_concat (p : Publisher) (ts : List Turn) (t : Turn) :
    compiled p (ts ++ [t]) = (t.attempt (compiled p ts)).1 := by
  induction ts generalizing p with
  | nil => rfl
  | cons u ts ih => exact ih _

theorem outcomes_concat (p : Publisher) (ts : List Turn) (t : Turn) :
    outcomes p (ts ++ [t]) = outcomes p ts ++ [(t.attempt (compiled p ts)).2] := by
  induction ts generalizing p with
  | nil => rfl
  | cons u ts ih => exact congrArg _ (ih _)

theorem tickets_compiled (p : Publisher) (ts : List Turn) :
    (compiled p ts).tickets = p.tickets + ts.length := by
  induction ts generalizing p with
  | nil => rfl
  | cons t ts ih =>
    rw [compiled, ih, t.tickets_attempt, List.length_cons]
    omega

/-- All of the compiles succeed. -/
def Succeed (p : Publisher) (ts : List Turn) : Prop :=
  ∀ r ∈ outcomes p ts, ∃ e, r = .ok e

/-- The last of the compiles fails, and no other. -/
def FailLast (p : Publisher) (ts : List Turn) : Prop :=
  ∃ before last f, ts = before ++ [last] ∧ Succeed p before ∧
    (last.attempt (compiled p before)).2 = .error f

namespace Thread

/-- What is kept while a thread runs. -/
structure Faithful (policy : Policy) (p : Publisher) (hs : List Happening) (t : Thread) : Prop where
  order : t.turns.map (·.delivery) ++ t.waiting = deliveries hs
  publisher : t.session.publisher = compiled p t.attempts
  going : t.session.ended = false → policy = .abort → Succeed p t.attempts
  ended : t.session.ended = true → policy = .abort ∧ FailLast p t.attempts

variable {policy : Policy} {p : Publisher} {hs : List Happening} {t : Thread}

theorem faithful_start : (start p).Faithful policy p [] :=
  ⟨rfl, rfl, fun _ _ => List.forall_mem_nil _, fun h => nomatch h⟩

theorem Faithful.arrives (h : t.Faithful policy p hs) {x : Happening} {d : Delivery}
    (hx : deliveries [x] = [d]) :
    Faithful policy p (hs ++ [x]) { t with waiting := t.waiting ++ [d] } where
  order := by
    rw [deliveries, List.filterMap_append, ← deliveries, ← deliveries, hx, ← h.order,
      List.append_assoc]
  publisher := h.publisher
  going := h.going
  ended := h.ended

theorem attempts_concat (t : Thread) (u : Turn) (s : Session) (r : List Delivery) :
    attempts ⟨s, r, t.turns ++ [u]⟩ = t.attempts ++ if u.delivery.counts then [u] else [] := by
  rw [attempts, attempts, List.filter_append, List.filter_singleton, Bool.cond_eq_ite]

theorem Faithful.turn (h : t.Faithful policy p hs) (disks : Nat → Disk) :
    (t.turn policy disks).Faithful policy p (hs ++ [.turn disks]) := by
  have hsame : deliveries (hs ++ [.turn disks]) = deliveries hs := by
    simp [deliveries, List.filterMap_append]
  have hstill : t.Faithful policy p (hs ++ [.turn disks]) :=
    ⟨h.order.trans hsame.symm, h.publisher, h.going, h.ended⟩
  unfold Thread.turn
  cases hended : t.session.ended with
  | true => exact hstill
  | false =>
    rw [if_neg Bool.false_ne_true]
    split
    · exact hstill
    rename_i d r hwaiting
    have horder : (t.turns ++ [(⟨d, disks⟩ : Turn)]).map (·.delivery) ++ r =
        deliveries (hs ++ [.turn disks]) := by
      rw [hsame, ← h.order, hwaiting, List.map_append, List.append_assoc]
      rfl
    cases hcounts : d.counts with
    | false =>
      obtain ⟨hpublisher, hgoing⟩ := runThrough_handle_of_not_counts policy t.session disks hcounts
      have hattempts :=
        attempts_concat t ⟨d, disks⟩ ((handle policy t.session d).runThrough disks) r
      rw [hcounts, if_neg Bool.false_ne_true, List.append_nil] at hattempts
      refine ⟨horder, ?_, fun _ => ?_, fun hnow => ?_⟩
      · rw [hattempts, hpublisher]
        exact h.publisher
      · rw [hattempts]
        exact h.going hended
      · rw [hgoing, hended] at hnow
        cases hnow
    | true =>
      obtain ⟨e, rfl, hafter⟩ := runThrough_handle_of_counts policy disks hended hcounts
      have hattempts := attempts_concat t ⟨.event e, disks⟩
        ((handle policy t.session (.event e)).runThrough disks) r
      rw [hcounts, if_pos rfl] at hattempts
      -- the compile of this turn, on the publisher that the earlier ones have left
      have hattempt : t.session.publisher.compile.runThrough disks =
          Turn.attempt ⟨.event e, disks⟩ (compiled p t.attempts) := by
        rw [← h.publisher]
        rfl
      refine ⟨horder, ?_, fun hnow habort => ?_, fun hnow => ?_⟩
      · rw [hattempts, compiled_concat, hafter, publisher_afterCompile, hattempt]
      · rw [hattempts, Succeed, outcomes_concat]
        refine List.forall_mem_append.2 ⟨h.going hended habort, List.forall_mem_singleton.2 ?_⟩
        cases hresult : (Turn.attempt ⟨.event e, disks⟩ (compiled p t.attempts)).2 with
        | ok edition => exact ⟨edition, rfl⟩
        | error f =>
          have hfailed := (ended_afterCompile policy e hended _).2 ⟨habort, f, hresult⟩
          rw [← hattempt, ← hafter, hnow] at hfailed
          cases hfailed
      · rw [hafter, ended_afterCompile policy e hended, hattempt] at hnow
        obtain ⟨habort, f, hf⟩ := hnow
        rw [hattempts]
        exact ⟨habort, t.attempts, ⟨.event e, disks⟩, f, rfl, h.going hended habort, hf⟩

theorem Faithful.step (h : t.Faithful policy p hs) (x : Happening) :
    (t.step policy x).Faithful policy p (hs ++ [x]) := by
  cases x with
  | arrives d => exact h.arrives rfl
  | echoes a paths => exact h.arrives rfl
  | turn disks => exact h.turn disks

theorem faithful_run (policy : Policy) (p : Publisher) (hs : List Happening) :
    ((start p).run policy hs).Faithful policy p hs := by
  induction hs using List.reverseRecOn with
  | nil => exact faithful_start
  | append_singleton hs x ih =>
    rw [run_concat]
    exact ih.step x

/-! ### The law -/

theorem countP_deliveries (hs : List Happening) :
    (deliveries hs).countP Delivery.counts = (arrivals hs).countP Delivery.counts := by
  induction hs with
  | nil => rfl
  | cons x hs ih =>
    cases x with
    | arrives d =>
      exact (List.countP_cons ..).trans ((congrArg (· + _) ih).trans (List.countP_cons ..).symm)
    | echoes a paths => exact (List.countP_cons ..).trans ih
    | turn disks => exact ih

theorem length_attempts (t : Thread) :
    t.attempts.length = (t.turns.map (·.delivery)).countP Delivery.counts := by
  rw [attempts, ← List.countP_eq_length_filter, List.countP_map]
  rfl

theorem run_of_ended (hended : t.session.ended = true) (more : List Happening) :
    (t.run policy more).session = t.session ∧ (t.run policy more).turns = t.turns := by
  induction more generalizing t with
  | nil => exact ⟨rfl, rfl⟩
  | cons x more ih =>
    have hstep : (t.step policy x).session = t.session ∧ (t.step policy x).turns = t.turns := by
      cases x with
      | turn disks =>
        rw [step, turn, if_pos hended]
        exact ⟨rfl, rfl⟩
      | _ => exact ⟨rfl, rfl⟩
    obtain ⟨hsession, hturns⟩ := ih (hstep.1.symm ▸ hended)
    exact ⟨hsession.trans hstep.1, hturns.trans hstep.2⟩

/-- While the program goes on, each turn takes a delivery, so none waits for ever. -/
theorem waiting_run_turns (hgoing : ∀ more, (t.run policy more).session.ended = false)
    (disks : List (Nat → Disk)) :
    (t.run policy (disks.map .turn)).waiting = t.waiting.drop disks.length := by
  induction disks generalizing t with
  | nil => rfl
  | cons ds disks ih =>
    have hnow : t.session.ended = false := hgoing []
    have hrest := ih (t := t.step policy (.turn ds)) fun more => hgoing (.turn ds :: more)
    rw [List.map_cons, run, List.foldl_cons, ← run, hrest, step, turn, hnow,
      if_neg Bool.false_ne_true]
    cases hwaiting : t.waiting with
    | nil => simp [hwaiting]
    | cons d r => rfl

/-- What holds of a watcher's thread after any run. Under the policy to abort, the program ended
with exit code 1 once an attempt failed. -/
structure Counted (policy : Policy) (p : Publisher) (hs : List Happening) (t : Thread) : Prop where
  order : t.turns.map (·.delivery) ++ t.waiting = deliveries hs
  attempted : ∀ u, u ∈ t.attempts ↔ u ∈ t.turns ∧ u.delivery.MayChange
  publisher : t.session.publisher = compiled p t.attempts
  tickets : t.session.publisher.tickets = p.tickets + t.attempts.length
  bounded : t.attempts.length + t.waiting.countP Delivery.counts =
    (arrivals hs).countP Delivery.counts
  taken : policy = .keep → ∀ disks : List (Nat → Disk), disks.length = t.waiting.length →
    (t.run policy (disks.map .turn)).waiting = []
  kept : policy = .keep → t.session.exitCode? = none
  succeeded : policy = .abort → t.session.exitCode? = none → Succeed p t.attempts
  failed : ∀ code, t.session.exitCode? = some code →
    code = 1 ∧ policy = .abort ∧ FailLast p t.attempts
  final : ∀ code, t.session.exitCode? = some code → ∀ more,
    (t.run policy more).session = t.session ∧ (t.run policy more).turns = t.turns

theorem exitCode?_eq_some_iff {s : Session} {code : UInt32} :
    s.exitCode? = some code ↔ s.ended = true ∧ code = 1 := by
  rw [Session.exitCode?, Option.ite_none_right_eq_some, Option.some.injEq, eq_comm (a := code)]

theorem exitCode?_eq_none_iff {s : Session} : s.exitCode? = none ↔ s.ended = false := by
  cases h : s.ended <;> simp [Session.exitCode?, h]

/-- Whatever is delivered, and however often its own compiles are reported to it, the watcher compiles
once for each event that may stand for a change. -/
theorem one_compile_for_each_change (policy : Policy) (p : Publisher) (hs : List Happening) :
    ((start p).run policy hs).Counted policy p hs := by
  have h := faithful_run policy p hs
  have hkeep : policy = .keep → ∀ more, ((start p).run policy (hs ++ more)).session.ended = false := by
    rintro rfl more
    by_contra hended
    cases ((faithful_run .keep p (hs ++ more)).ended (by simpa using hended)).1
  refine ⟨h.order, fun u => ?_, h.publisher, ?_, ?_, fun hpolicy disks hlength => ?_,
    fun hpolicy => ?_, fun hpolicy hcode => ?_, fun code hcode => ?_, fun code hcode => ?_⟩
  · rw [attempts, List.mem_filter, Delivery.counts_iff]
  · rw [h.publisher, tickets_compiled]
  · rw [length_attempts, ← List.countP_append, h.order, countP_deliveries]
  · rw [waiting_run_turns (fun more => run_append policy (start p) hs more ▸ hkeep hpolicy more),
      hlength, List.drop_length]
  · exact exitCode?_eq_none_iff.2 (List.append_nil hs ▸ hkeep hpolicy [])
  · exact h.going (exitCode?_eq_none_iff.1 hcode) hpolicy
  · obtain ⟨hended, rfl⟩ := exitCode?_eq_some_iff.1 hcode
    exact ⟨rfl, h.ended hended⟩
  · exact run_of_ended (exitCode?_eq_some_iff.1 hcode).1

end Thread

end LivePages.Reload
