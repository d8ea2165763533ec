import Mathlib.Tactic.SplitIfs
import LivePages.Markdown.Walk

/-! The calls of a tour. A visitor that changes no node is called along the pruned tour of the tree,
which enters a node, tours its children if it was told to continue, and leaves the node; the first
answer `stop` is the end. -/

namespace LivePages.Markdown

/-- A call of a visitor, and its answer. -/
structure Call where
  node : Node
  edge : Edge
  status : Status

/-- What a visitor is called with. -/
def Call.place (c : Call) : Node × Edge :=
  (c.node, c.edge)

def Stops (calls : List Call) : Prop :=
  ∃ c ∈ calls, c.status = .stop

/-- The calls up to the first that answers `stop`. -/
def upToStop : List Call → List Call
  | [] => []
  | c :: r => if c.status = .stop then [c] else c :: upToStop r

variable {σ τ : Type}

namespace Visitor

/-- The visitor changes no node. -/
def Keeps (visit : Visitor σ) : Prop :=
  ∀ s n e, (visit s n e).attrs = n.attrs

/-- The visitor's state after some calls. -/
def after (visit : Visitor σ) (s : σ) (calls : List Call) : σ :=
  calls.foldl (fun s c => (visit s c.node c.edge).state) s

mutual

/-- The pruned tour of a node. Only the answer on entry prunes it, and no answer ends it. -/
def tour (visit : Visitor σ) (s : σ) : Node → List Call
  | .mk kind attrs cs =>
    let entered := visit s (.mk kind attrs cs) .enter
    let below := if entered.status = .continue then tourAll visit entered.state cs else []
    let left := visit (visit.after entered.state below) (.mk kind attrs cs) .exit
    ⟨.mk kind attrs cs, .enter, entered.status⟩ ::
      (below ++ [⟨.mk kind attrs cs, .exit, left.status⟩])

/-- The pruned tours of some nodes, one after the other. -/
def tourAll (visit : Visitor σ) (s : σ) : List Node → List Call
  | [] => []
  | n :: r => tour visit s n ++ tourAll visit (visit.after s (tour visit s n)) r

end

/-- Writes down each call with its answer, beside the visitor's own state. -/
def noted (visit : Visitor σ) : Visitor (σ × List Call) :=
  fun s n e =>
    let r := visit s.1 n e
    ⟨(r.state, s.2 ++ [⟨n, e, r.status⟩]), r.attrs, r.status⟩

/-- Says `continue` on leaving a node where the visitor says `skipChildren`. -/
def goingOn (visit : Visitor σ) : Visitor σ :=
  fun s n e =>
    let r := visit s n e
    if e = .exit ∧ r.status = .skipChildren then { r with status := .continue } else r

@[simp] theorem after_nil (visit : Visitor σ) (s : σ) : visit.after s [] = s :=
  rfl

@[simp] theorem after_cons (visit : Visitor σ) (s : σ) (c : Call) (calls : List Call) :
    visit.after s (c :: calls) = visit.after (visit s c.node c.edge).state calls :=
  rfl

@[simp] theorem after_append (visit : Visitor σ) (s : σ) (a b : List Call) :
    visit.after s (a ++ b) = visit.after (visit.after s a) b :=
  List.foldl_append

end Visitor

/-! ### Calls up to a stop -/

theorem stops_append {a b : List Call} : Stops (a ++ b) ↔ Stops a ∨ Stops b := by
  simp only [Stops, List.mem_append, or_and_right, exists_or]

theorem upToStop_append_of_stops {a : List Call} (h : Stops a) (b : List Call) :
    upToStop (a ++ b) = upToStop a := by
  induction a with
  | nil => simp [Stops] at h
  | cons c r ih =>
    rw [List.cons_append, upToStop, upToStop]
    by_cases hc : c.status = .stop
    · rw [if_pos hc, if_pos hc]
    · have hr : Stops r := by simpa [Stops, hc] using h
      rw [if_neg hc, if_neg hc, ih hr]

theorem upToStop_append {a : List Call} (h : ¬ Stops a) (b : List Call) :
    upToStop (a ++ b) = a ++ upToStop b := by
  induction a with
  | nil => rfl
  | cons c r ih =>
    have hc : c.status ≠ .stop := fun hc => h ⟨c, List.mem_cons_self, hc⟩
    have hr : ¬ Stops r := fun ⟨d, hd, hstop⟩ => h ⟨d, List.mem_cons_of_mem _ hd, hstop⟩
    rw [List.cons_append, upToStop, if_neg hc, ih hr, List.cons_append]

theorem upToStop_eq_self {calls : List Call} (h : ¬ Stops calls) : upToStop calls = calls := by
  simpa [upToStop] using upToStop_append h []

theorem upToStop_singleton (c : Call) : upToStop [c] = [c] := by
  rw [upToStop, upToStop, ite_self]

theorem stops_upToStop {calls : List Call} : Stops (upToStop calls) ↔ Stops calls := by
  induction calls with
  | nil => rfl
  | cons c r ih =>
    rw [upToStop]
    by_cases hc : c.status = .stop
    · simp [Stops, hc]
    · rw [if_neg hc]
      simpa [Stops, hc] using ih

/-- When neither the entry nor what lies below stops a tour, the node is left. -/
theorem upToStop_left {c : Call} {below : List Call} (hc : c.status ≠ .stop) (hbelow : ¬ Stops below)
    (d : Call) : upToStop (c :: (below ++ [d])) = c :: (below ++ [d]) := by
  rw [upToStop, if_neg hc, upToStop_append hbelow, upToStop_singleton]

theorem stops_left {c : Call} {below : List Call} (hc : c.status ≠ .stop) (hbelow : ¬ Stops below)
    (d : Call) : Stops (c :: (below ++ [d])) ↔ d.status = .stop := by
  rw [← List.cons_append, stops_append, or_iff_right]
  · simp [Stops]
  · rintro ⟨b, hb, hstop⟩
    rcases List.mem_cons.1 hb with rfl | hb
    · exact hc hstop
    · exact hbelow ⟨b, hb, hstop⟩

/-- Nothing comes after a stop. -/
theorem eq_nil_of_upToStop {calls before later : List Call} {c : Call}
    (h : upToStop calls = before ++ c :: later) (hc : c.status = .stop) : later = [] := by
  induction calls generalizing before with
  | nil => simp [upToStop] at h
  | cons d r ih =>
    rw [upToStop] at h
    by_cases hd : d.status = .stop
    · rw [if_pos hd] at h
      cases before with
      | nil => exact (List.cons.inj h).2.symm
      | cons e l => simp at h
    · rw [if_neg hd] at h
      cases before with
      | nil =>
        obtain ⟨rfl, -⟩ := List.cons.inj h
        exact absurd hc hd
      | cons e l => exact ih (List.cons.inj h).2

/-! ### The calls that are made -/

/-- A reply with the state seen through `f`. -/
def Reply.mapState (f : τ → σ) (r : Reply τ) : Reply σ :=
  ⟨f r.state, r.attrs, r.status⟩

def Toured.mapState {α : Type} (f : τ → σ) (t : Toured τ α) : Toured σ α :=
  ⟨f t.state, t.result, t.status⟩

section Simulation

variable {f : τ → σ} {more : Visitor τ} {visit : Visitor σ}

theorem leave_mapState (h : ∀ t n e, (more t n e).mapState f = visit (f t) n e) (t : τ) (n : Node) :
    (leave more t n).mapState f = leave visit (f t) n := by
  rw [leave, leave, ← h]
  rfl

mutual

/-- A visitor that holds more in its state makes the same tour. -/
theorem walk_mapState (h : ∀ t n e, (more t n e).mapState f = visit (f t) n e) :
    ∀ (n : Node) (t : τ), (walk more t n).mapState f = walk visit (f t) n
  | .mk kind attrs cs, t => by
    rw [walk, walk, ← h]
    cases hstatus : (more t (.mk kind attrs cs) .enter).status with
    | stop => simp only [Reply.mapState, hstatus]; rfl
    | skipChildren =>
      simp only [Reply.mapState, hstatus]
      exact leave_mapState h _ _
    | «continue» =>
      simp only [Reply.mapState, hstatus, ← walkAll_mapState h cs]
      cases hbelow : (walkAll more (more t (.mk kind attrs cs) .enter).state cs).status with
      | stop => simp only [Toured.mapState, hbelow]
      | skipChildren => simpa only [Toured.mapState, hbelow] using leave_mapState h _ _
      | «continue» => simpa only [Toured.mapState, hbelow] using leave_mapState h _ _

theorem walkAll_mapState (h : ∀ t n e, (more t n e).mapState f = visit (f t) n e) :
    ∀ (ns : List Node) (t : τ), (walkAll more t ns).mapState f = walkAll visit (f t) ns
  | [], t => rfl
  | n :: r, t => by
    rw [walkAll, walkAll, ← walk_mapState h n]
    cases hfirst : (walk more t n).status with
    | stop => simp only [Toured.mapState, hfirst]
    | skipChildren => simp only [Toured.mapState, hfirst, ← walkAll_mapState h r]
    | «continue» => simp only [Toured.mapState, hfirst, ← walkAll_mapState h r]

end

end Simulation

section Calls

variable {visit : Visitor σ}

theorem leave_noted (hkeeps : visit.Keeps) (s : σ) (log : List Call) (n : Node) :
    leave visit.noted (s, log) n =
      ⟨((visit s n .exit).state, log ++ [⟨n, .exit, (visit s n .exit).status⟩]), n,
        (visit s n .exit).status⟩ := by
  obtain ⟨kind, attrs, cs⟩ := n
  have hattrs := hkeeps s (.mk kind attrs cs) .exit
  simp only [leave, Visitor.noted, hattrs, Node.kind, Node.attrs, Node.children]

mutual

/-- What a visitor that changes no node is called with and answers, after the calls noted in `log`.
A tour that no answer stops ends by leaving its node. -/
theorem walk_noted (hkeeps : visit.Keeps) : ∀ (n : Node) (s : σ) (log : List Call), ∃ st,
    walk visit.noted (s, log) n =
        ⟨(visit.after s (upToStop (visit.tour s n)), log ++ upToStop (visit.tour s n)), n, st⟩ ∧
      (st = .stop ↔ Stops (visit.tour s n)) ∧
      (¬ Stops (visit.tour s n) → ∃ before, visit.tour s n = before ++ [⟨n, .exit, st⟩])
  | .mk kind attrs cs, s, log => by
    have hattrs : (visit s (.mk kind attrs cs) .enter).attrs = attrs := hkeeps _ _ _
    rw [walk, Visitor.tour]
    simp only [Visitor.noted, hattrs]
    cases hentered : (visit s (.mk kind attrs cs) .enter).status with
    | stop =>
      refine ⟨.stop, ?_, iff_of_true rfl ⟨_, List.mem_cons_self, rfl⟩, fun h => ?_⟩
      · simp [upToStop]
      · exact absurd ⟨_, List.mem_cons_self, rfl⟩ h
    | skipChildren =>
      have hbelow : ¬ Stops [] := by simp [Stops]
      simp only [reduceCtorEq, if_false, leave_noted hkeeps]
      rw [upToStop_left (by simp) hbelow, stops_left (by simp) hbelow]
      exact ⟨_, by simp, Iff.rfl, fun _ => ⟨_, (List.cons_append ..).symm⟩⟩
    | «continue» =>
      obtain ⟨st, hbelow, hst⟩ := walkAll_noted hkeeps cs
        (visit s (.mk kind attrs cs) .enter).state (log ++ [⟨.mk kind attrs cs, .enter, .continue⟩])
      simp only [if_true, hbelow]
      by_cases hstop : Stops (visit.tourAll (visit s (.mk kind attrs cs) .enter).state cs)
      · obtain rfl := hst.2 hstop
        have hall : Stops (⟨.mk kind attrs cs, .enter, .continue⟩ ::
            visit.tourAll (visit s (.mk kind attrs cs) .enter).state cs) :=
          hstop.imp fun _ h => ⟨List.mem_cons_of_mem _ h.1, h.2⟩
        rw [← List.cons_append, upToStop_append_of_stops hall, stops_append]
        refine ⟨.stop, ?_, iff_of_true rfl (.inl hall), fun h => absurd (.inl hall) h⟩
        simp [upToStop]
      · rw [upToStop_eq_self hstop, upToStop_left (by simp) hstop, stops_left (by simp) hstop]
        cases st with
        | stop => exact absurd (hst.1 rfl) hstop
        | skipChildren | «continue» =>
          exact ⟨_, by simp [leave_noted hkeeps], Iff.rfl, fun _ => ⟨_, (List.cons_append ..).symm⟩⟩

theorem walkAll_noted (hkeeps : visit.Keeps) : ∀ (ns : List Node) (s : σ) (log : List Call), ∃ st,
    walkAll visit.noted (s, log) ns =
        ⟨(visit.after s (upToStop (visit.tourAll s ns)), log ++ upToStop (visit.tourAll s ns)), ns,
          st⟩ ∧
      (st = .stop ↔ Stops (visit.tourAll s ns))
  | [], s, log => by
    refine ⟨.continue, ?_, ?_⟩
    · simp [walkAll, Visitor.tourAll, upToStop]
    · simp [Visitor.tourAll, Stops]
  | n :: r, s, log => by
    obtain ⟨st, hfirst, hst, -⟩ := walk_noted hkeeps n s log
    rw [walkAll, Visitor.tourAll, hfirst]
    by_cases hstop : Stops (visit.tour s n)
    · obtain rfl := hst.2 hstop
      refine ⟨.stop, ?_, iff_of_true rfl (stops_append.2 (.inl hstop))⟩
      rw [upToStop_append_of_stops hstop]
    · obtain ⟨st', hrest, hst'⟩ :=
        walkAll_noted hkeeps r (visit.after s (visit.tour s n)) (log ++ visit.tour s n)
      refine ⟨st', ?_, by rw [hst', stops_append, or_iff_right hstop]⟩
      rw [upToStop_eq_self hstop, hrest, upToStop_append hstop, Visitor.after_append,
        List.append_assoc]
      cases st with
      | stop => exact absurd (hst.1 rfl) hstop
      | skipChildren => rfl
      | «continue» => rfl

end

end Calls

/-! ### Skipped children -/

/-- After an entry that skips the children the same node is left. -/
def LeavesSkipped : List Call → Prop
  | [] => True
  | c :: r =>
    (c.edge = .enter → c.status = .skipChildren → ∃ st rest, r = ⟨c.node, .exit, st⟩ :: rest) ∧
      LeavesSkipped r

theorem LeavesSkipped.append {a b : List Call} (ha : LeavesSkipped a) (hb : LeavesSkipped b) :
    LeavesSkipped (a ++ b) := by
  induction a with
  | nil => exact hb
  | cons c r ih =>
    refine ⟨fun hedge hstatus => ?_, ih ha.2⟩
    obtain ⟨st, rest, rfl⟩ := ha.1 hedge hstatus
    exact ⟨st, rest ++ b, rfl⟩

theorem LeavesSkipped.upToStop {calls : List Call} (h : LeavesSkipped calls) :
    LeavesSkipped (upToStop calls) := by
  induction calls with
  | nil => exact h
  | cons c r ih =>
    rw [Markdown.upToStop]
    by_cases hc : c.status = .stop
    · rw [if_pos hc]
      exact ⟨fun _ hskip => by simp [hc] at hskip, trivial⟩
    · rw [if_neg hc]
      refine ⟨fun hedge hstatus => ?_, ih h.2⟩
      obtain ⟨st, rest, rfl⟩ := h.1 hedge hstatus
      rw [Markdown.upToStop]
      split_ifs
      · exact ⟨st, [], rfl⟩
      · exact ⟨st, _, rfl⟩

theorem leavesSkipped_exit (n : Node) (st : Status) : LeavesSkipped [⟨n, .exit, st⟩] :=
  ⟨nofun, trivial⟩

mutual

theorem leavesSkipped_tour (visit : Visitor σ) : ∀ (n : Node) (s : σ), LeavesSkipped (visit.tour s n)
  | .mk kind attrs cs, s => by
    rw [Visitor.tour]
    split_ifs with hentered
    · refine ⟨fun _ hskip => ?_, (leavesSkipped_tourAll visit cs _).append (leavesSkipped_exit _ _)⟩
      rw [hentered] at hskip
      cases hskip
    · exact ⟨fun _ _ => ⟨_, [], rfl⟩, leavesSkipped_exit _ _⟩

theorem leavesSkipped_tourAll (visit : Visitor σ) :
    ∀ (ns : List Node) (s : σ), LeavesSkipped (visit.tourAll s ns)
  | [], _ => trivial
  | n :: r, s => (leavesSkipped_tour visit n s).append (leavesSkipped_tourAll visit r _)

end

/-- The call with `continue` for `skipChildren` on leaving. -/
def Call.goingOn (c : Call) : Call :=
  if c.edge = .exit ∧ c.status = .skipChildren then { c with status := .continue } else c

theorem Call.place_goingOn (c : Call) : c.goingOn.place = c.place := by
  rw [goingOn]
  split_ifs <;> rfl

theorem Call.stops_goingOn (c : Call) : c.goingOn.status = .stop ↔ c.status = .stop := by
  rw [goingOn]
  split_ifs with h
  · simp [h.2]
  · rfl

theorem upToStop_map_goingOn (calls : List Call) :
    upToStop (calls.map Call.goingOn) = (upToStop calls).map Call.goingOn := by
  induction calls with
  | nil => rfl
  | cons c r ih =>
    rw [List.map_cons, upToStop, upToStop, ih]
    simp only [c.stops_goingOn]
    split_ifs <;> rfl

namespace Visitor

variable (visit : Visitor σ)

theorem goingOn_enter (s : σ) (n : Node) : visit.goingOn s n .enter = visit s n .enter := by
  simp [goingOn]

theorem goingOn_state (s : σ) (n : Node) (e : Edge) :
    (visit.goingOn s n e).state = (visit s n e).state := by
  rw [goingOn]
  split_ifs <;> rfl

theorem goingOn_exit (s : σ) (n : Node) :
    (⟨n, .exit, (visit.goingOn s n .exit).status⟩ : Call) =
      (⟨n, .exit, (visit s n .exit).status⟩ : Call).goingOn := by
  simp only [goingOn, Call.goingOn]
  split_ifs <;> rfl

theorem Keeps.goingOn {visit : Visitor σ} (h : visit.Keeps) : visit.goingOn.Keeps := by
  intro s n e
  rw [Visitor.goingOn, ← h s n e]
  split_ifs <;> rfl

theorem after_goingOn (s : σ) (calls : List Call) :
    visit.goingOn.after s (calls.map Call.goingOn) = visit.after s calls := by
  induction calls generalizing s with
  | nil => rfl
  | cons c r ih =>
    have hplace : c.goingOn.node = c.node ∧ c.goingOn.edge = c.edge :=
      ⟨congrArg Prod.fst c.place_goingOn, congrArg Prod.snd c.place_goingOn⟩
    rw [List.map_cons, after_cons, after_cons, hplace.1, hplace.2, goingOn_state, ih]

mutual

/-- Only the answers on entry prune a tour. -/
theorem tour_goingOn : ∀ (n : Node) (s : σ), visit.goingOn.tour s n = (visit.tour s n).map Call.goingOn
  | .mk kind attrs cs, s => by
    rw [tour, tour, goingOn_enter]
    split_ifs
    · rw [tourAll_goingOn cs, after_goingOn, goingOn_exit]
      simp [Call.goingOn]
    · rw [goingOn_exit]
      simp [Call.goingOn]

theorem tourAll_goingOn :
    ∀ (ns : List Node) (s : σ), visit.goingOn.tourAll s ns = (visit.tourAll s ns).map Call.goingOn
  | [], _ => rfl
  | n :: r, s => by
    rw [tourAll, tourAll, tour_goingOn n, after_goingOn, tourAll_goingOn r, List.map_append]

end

end Visitor

/-- A visitor that changes no node is called along the pruned tour up to its first `stop`, and the
walk ends with its last answer. -/
theorem walk_is_pruned_tour (visit : Visitor σ) (hkeeps : visit.Keeps) (s : σ) (n : Node) :
    ∃ calls st,
      walk visit.noted (s, []) n = ⟨(visit.after s calls, calls), n, st⟩ ∧
        walk visit s n = ⟨visit.after s calls, n, st⟩ ∧
        calls = upToStop (visit.tour s n) ∧
        (st = .stop ↔ Stops calls) ∧
        (¬ Stops calls → calls = visit.tour s n ∧ ∃ before, calls = before ++ [⟨n, .exit, st⟩]) ∧
        (∀ before c later, calls = before ++ c :: later → c.status = .stop → later = []) ∧
        LeavesSkipped calls ∧
        (walk visit.goingOn.noted (s, []) n).state.2.map Call.place = calls.map Call.place := by
  obtain ⟨st, hnoted, hst, hlast⟩ := walk_noted hkeeps n s []
  obtain ⟨st', hgoing, -⟩ := walk_noted hkeeps.goingOn n s []
  refine ⟨_, st, hnoted, ?_, rfl, ?_, fun hstops => ?_, ?_, ?_, ?_⟩
  · have hsame : (walk visit.noted (s, []) n).mapState Prod.fst = walk visit s n :=
      walk_mapState (fun _ _ _ => rfl) n (s, [])
    rw [← hsame, hnoted]
    rfl
  · rw [hst, stops_upToStop]
  · rw [stops_upToStop] at hstops
    rw [upToStop_eq_self hstops]
    exact ⟨rfl, hlast hstops⟩
  · exact fun before c later h hc => eq_nil_of_upToStop h hc
  · exact (leavesSkipped_tour visit n s).upToStop
  · rw [hgoing]
    simp only [List.nil_append, visit.tour_goingOn, upToStop_map_goingOn, List.map_map]
    exact List.map_congr_left fun c _ => c.place_goingOn

/-- Skips the children of links, skips in vain on leaving emphasis, and stops on leaving strong text. -/
def linkSkipper : Visitor (List (Edge × String)) :=
  recorder ⟨[], ["Link"], ["Strong"], ["Emph"]⟩

def linkedText : Node :=
  .mk .paragraph []
    [.mk .emph [] [.mk (.text "a") [] []], .mk (.link "u" "") [] [.mk (.text "b") [] []],
      .mk .strong [] [.mk (.text "c") [] []], .mk (.text "d") [] []]

/-- The text of the link, the last text and the end of the paragraph are not visited. -/
theorem walk_is_pruned_tour_links :
    linkSkipper.Keeps ∧ ∃ calls,
      walk linkSkipper.noted ([], []) linkedText =
          ⟨(linkSkipper.after [] calls, calls), linkedText, .stop⟩ ∧
        calls.map (fun c => (c.edge, c.node.kind.name)) =
          [(.enter, "Paragraph"), (.enter, "Emph"), (.enter, "Text"), (.exit, "Text"),
            (.exit, "Emph"), (.enter, "Link"), (.exit, "Link"), (.enter, "Strong"),
            (.enter, "Text"), (.exit, "Text"), (.exit, "Strong")] := by
  have hkeeps : linkSkipper.Keeps := fun _ _ _ => rfl
  obtain ⟨calls, st, hnoted, -, hcalls, -⟩ := walk_is_pruned_tour linkSkipper hkeeps [] linkedText
  have hst : st = .stop := by
    have hstatus := congrArg Toured.status hnoted
    exact hstatus.symm.trans (by decide)
  subst hst hcalls
  exact ⟨hkeeps, _, hnoted, by decide⟩

end LivePages.Markdown
