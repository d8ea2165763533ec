import LivePages.Proofs.Publisher.Overlap
import LivePages.Reload.Handling

/-! A watched site. Deliveries queue and are handled one at a time, in order; one that counts starts a
compile and is handled to its end when that compile has ended. In between the disk may change, more
deliveries may come, and others may compile and read. -/

namespace LivePages.Reload

open Config (Policy)
open Overlap (Site)

def Delivery.counts : Delivery → Bool
  | .event e => e.counts
  | .trouble _ => false

/-- A delivery and the changes of the disk that it reports. Change `k` is the one before which the
disk had changed `k` times. -/
structure Report where
  delivery : Delivery
  changes : List Nat

/-- What the watcher is at: the position of the compile that it waits for, and the changes that the
delivery reported. -/
structure Handling where
  compile : Nat
  changes : List Nat

/-- A site, the reports that wait, what the watcher is at, and the changes and the number of reports
handled to the end by a compile. -/
structure Watched where
  site : Site
  queue : List Report
  handling : Option Handling
  handled : List Nat
  triggers : Nat

/-- A step of the site (of the watcher's compile, of others, or of the disk), the coming of a report,
and the watcher's steps. -/
inductive Action
  | site (a : Overlap.Action)
  | report (d : Delivery) (changes : List Nat)
  | take
  | finish

namespace Watched

/-- A watcher that starts on a site. -/
def start (s : Site) : Watched :=
  ⟨s, [], none, [], 0⟩

/-- Takes the next report when the one before has been handled. -/
def take (w : Watched) : Watched :=
  match w.handling, w.queue with
  | none, q :: r =>
    if q.delivery.counts then
      { w with
        site := w.site.start
        queue := r
        handling := some ⟨w.site.compiles.length, q.changes⟩ }
    else { w with queue := r }
  | _, _ => w

/-- Ends the handling of a report when its compile has ended, in whichever way. -/
def finish (w : Watched) : Watched :=
  match w.handling with
  | none => w
  | some h =>
    if (w.site.outcome? h.compile).isSome then
      { w with handling := none, handled := h.changes ++ w.handled, triggers := w.triggers + 1 }
    else w

/-- A report is of changes that have taken effect. -/
def step (w : Watched) : Action → Watched
  | .site a => { w with site := w.site.step a }
  | .report d changes =>
    { w with queue := w.queue ++ [⟨d, changes.filter fun k => decide (k < w.site.edits)⟩] }
  | .take => w.take
  | .finish => w.finish

def run (w : Watched) (actions : List Action) : Watched :=
  actions.foldl step w

theorem run_cons (w : Watched) (a : Action) (actions : List Action) :
    w.run (a :: actions) = (w.step a).run actions :=
  rfl

theorem run_append (w : Watched) (as bs : List Action) : w.run (as ++ bs) = (w.run as).run bs :=
  List.foldl_append

theorem run_site (w : Watched) (actions : List Overlap.Action) :
    w.run (actions.map .site) = { w with site := w.site.run actions } := by
  induction actions generalizing w with
  | nil => rfl
  | cons a actions ih => exact ih (w.step (.site a))

/-! ### One report alone -/

/-- What the handling of one delivery makes of the publisher when nothing interrupts it. -/
theorem publisher_handle (session : Session) (d : Delivery) (disk : Disk)
    (hgoing : session.ended = false) :
    ((handle .keep session d).run disk).publisher =
        (if d.counts then (session.publisher.compile.run disk).1 else session.publisher) ∧
      ((handle .keep session d).run disk).ended = false := by
  cases d with
  | trouble m =>
    simp only [handle, hgoing, Bool.false_eq_true, if_false]
    exact ⟨rfl, hgoing⟩
  | event e =>
    simp only [handle, hgoing, Bool.false_eq_true, if_false, handleEvent]
    by_cases hc : e.counts = true
    · have hgo : ¬(!e.counts) = true := by simp [hc]
      have hcounts : (Delivery.event e).counts = true := hc
      rw [if_neg hgo, if_pos hcounts, Ask.run_bind]
      obtain ⟨p, result⟩ := session.publisher.compile.run disk
      cases result with
      | ok edition => exact ⟨rfl, rfl⟩
      | error f => exact ⟨rfl, rfl⟩
    · have hstop : (!e.counts) = true := by simp [hc]
      have hcounts : ¬(Delivery.event e).counts = true := hc
      rw [if_pos hstop, if_neg hcounts]
      exact ⟨rfl, hgoing⟩

theorem take_of_counts {w : Watched} {q : Report} {r : List Report} (hidle : w.handling = none)
    (hqueue : w.queue = q :: r) (hc : q.delivery.counts = true) :
    w.take = { w with
      site := w.site.start, queue := r, handling := some ⟨w.site.compiles.length, q.changes⟩ } := by
  simp only [take, hidle, hqueue, hc, if_true]

theorem finish_of_ended {w : Watched} {h : Handling} (hbusy : w.handling = some h)
    (hended : (w.site.outcome? h.compile).isSome = true) :
    w.finish = { w with
      handling := none, handled := h.changes ++ w.handled, triggers := w.triggers + 1 } := by
  simp only [finish, hbusy, hended, if_true]

/-- Without interruption the watcher's steps for one report come to what `handle` does. -/
theorem take_to_finish (w : Watched) {q : Report} {r : List Report} (hidle : w.handling = none)
    (hqueue : w.queue = q :: r) {session : Session} (hgoing : session.ended = false)
    (hsame : session.publisher = w.site.publisher) :
    ∃ actions, (w.run actions).queue = r ∧ (w.run actions).handling = none ∧
      (w.run actions).site.publisher =
        ((handle .keep session q.delivery).run w.site.disk).publisher := by
  have hpublisher := (publisher_handle session q.delivery w.site.disk hgoing).1
  rw [hsame] at hpublisher
  cases hc : q.delivery.counts with
  | false =>
    refine ⟨[.take], ?_⟩
    rw [hpublisher, hc]
    simp [run, step, take, hidle, hqueue, hc]
  | true =>
    obtain ⟨n, hp, hended⟩ := w.site.start_to_end
    refine ⟨.take :: ((List.replicate n (.advance w.site.compiles.length)).map .site ++ [.finish]), ?_⟩
    rw [hpublisher, hc, run_cons, step, take_of_counts hidle hqueue hc, run_append, run_site]
    rw [show ∀ v : Watched, v.run [.finish] = v.finish from fun _ => rfl]
    rw [finish_of_ended rfl (by rw [hended]; rfl)]
    exact ⟨rfl, rfl, hp⟩

end Watched

end LivePages.Reload
