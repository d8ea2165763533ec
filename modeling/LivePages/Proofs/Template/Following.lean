import LivePages.Template.Render

/-! Two renderings side by side, whose states correspond. One follows the other when it comes to the
same result wherever the other comes to one, and the states correspond again. -/

namespace LivePages.Template

/-- How the states of two renderings correspond, with some frames on top that both pushed: between
two nodes, and after one that may have left a round. -/
structure Bond where
  firm : Nat → State → State → Prop
  loose : Nat → State → State → Prop

/-- After nodes that stand in the body of a loop, or outside of any. -/
def Bond.after (B : Bond) (inLoop : Bool) : Nat → State → State → Prop :=
  if inLoop then B.loose else B.firm

/-- From corresponding states `x'` comes to the result that `x` comes to. No frame that was there is
gone; a fault may leave its own behind. -/
def Follows {α : Type} (B : Bond) (before after : Nat → State → State → Prop) (x x' : Run α) :
    Prop :=
  ∀ k s s' r t, before k s s' → x s = some (r, t) →
    ∃ m t', k ≤ m ∧ x' s' = some (r, t') ∧
      match r with
      | .ok _ => after m t t'
      | .error _ => B.firm m t t'

/-! ### One rendering -/

namespace Run

variable {α β : Type}

theorem bind_eq_some_iff {x : Run α} {f : α → Run β} {s t : State} {r : Except Fault β} :
    (x >>= f) s = some (r, t) ↔
      (∃ a u, x s = some (.ok a, u) ∧ f a u = some (r, t)) ∨
        ∃ e, x s = some (.error e, t) ∧ r = .error e := by
  change (x s).bind _ = some (r, t) ↔ _
  rcases hx : x s with _ | ⟨a | a, u⟩
  · simp
  · change some (Except.error a, u) = some (r, t) ↔ _
    constructor
    · intro h
      cases h
      exact .inr ⟨a, rfl, rfl⟩
    · rintro (⟨_, _, h, -⟩ | ⟨e, h, rfl⟩) <;> cases h
      rfl
  · change f a u = some (r, t) ↔ _
    constructor
    · exact fun h => .inl ⟨a, u, rfl, h⟩
    · rintro (⟨_, _, h, hf⟩ | ⟨e, h, -⟩) <;> cases h
      exact hf

theorem bind_ok {x : Run α} {f : α → Run β} {s u : State} {a : α} (h : x s = some (.ok a, u)) :
    (x >>= f) s = f a u := by
  change (x s).bind _ = _
  rw [h]
  rfl

theorem bind_error {x : Run α} {f : α → Run β} {s u : State} {e : Fault}
    (h : x s = some (.error e, u)) : (x >>= f) s = some (.error e, u) := by
  change (x s).bind _ = _
  rw [h]
  rfl

theorem inFrame_eq (f : Frame) (x : Run α) (s : State) :
    inFrame f x s = (x >>= fun a => do modify State.pop; pure a) (s.push f) :=
  rfl

end Run

/-! ### Rules -/

namespace Follows

variable {α β : Type} {B : Bond} {before between after : Nat → State → State → Prop} {x x' : Run α}

theorem pure (a : α) : Follows B before before (pure a) (pure a) := by
  rintro k s s' r t hs ht
  cases ht
  exact ⟨k, s', Nat.le_refl k, rfl, hs⟩

theorem fail (f : Fault) : Follows B B.firm after (Run.fail f : Run α) (Run.fail f) := by
  rintro k s s' r t hs ht
  cases ht
  exact ⟨k, s', Nat.le_refl k, rfl, hs⟩

theorem ofExcept (r : Except Fault α) :
    Follows B B.firm B.firm (Run.ofExcept r) (Run.ofExcept r) := by
  cases r with
  | error f => exact fail f
  | ok a => exact pure a

theorem tooDeep : Follows B before after (Run.tooDeep : Run α) x' := by
  rintro k s s' r t - ht
  cases ht

theorem asks {g g' : State → α} (hg : ∀ k s s', before k s s' → g' s' = g s) :
    Follows B before before (Run.asks g) (Run.asks g') := by
  rintro k s s' r t hs ht
  cases ht
  refine ⟨k, s', Nat.le_refl k, ?_, hs⟩
  rw [← hg k s s' hs]
  rfl

theorem modify {g g' : State → State} (h : ∀ k s s', before k s s' → after k (g s) (g' s')) :
    Follows B before after (modify g : Run PUnit) (modify g') := by
  rintro k s s' r t hs ht
  cases ht
  exact ⟨k, g' s', Nat.le_refl k, rfl, h k s s' hs⟩

theorem bind {f f' : α → Run β} (hx : Follows B before between x x')
    (hf : ∀ a, Follows B between after (f a) (f' a)) :
    Follows B before after (x >>= f) (x' >>= f') := by
  rintro k s s' r t hs ht
  rcases Run.bind_eq_some_iff.1 ht with ⟨a, u, hu, ht⟩ | ⟨e, he, rfl⟩
  · obtain ⟨m, u', hkm, hu', hlink⟩ := hx k s s' _ u hs hu
    obtain ⟨l, t', hml, ht', hafter⟩ := hf a m u u' r t hlink ht
    exact ⟨l, t', Nat.le_trans hkm hml, (Run.bind_ok hu').trans ht', hafter⟩
  · obtain ⟨m, t', hkm, ht', hlink⟩ := hx k s s' _ t hs he
    exact ⟨m, t', hkm, Run.bind_error ht', hlink⟩

theorem within (wrap : Fault → Fault) (h : Follows B before after x x') :
    Follows B before after (Run.within wrap x) (Run.within wrap x') := by
  rintro k s s' r t hs ht
  obtain ⟨⟨q, u⟩, hu, heq⟩ := Option.map_eq_some_iff.1 ht
  obtain ⟨m, u', hkm, hu', hafter⟩ := h k s s' q u hs hu
  cases heq
  refine ⟨m, u', hkm, by rw [Run.within, hu']; rfl, ?_⟩
  cases q <;> exact hafter

theorem attempt (h : Follows B before B.firm x x') :
    Follows B before B.firm (Run.attempt x) (Run.attempt x') := by
  rintro k s s' r t hs ht
  obtain ⟨⟨q, u⟩, hu, heq⟩ := Option.map_eq_some_iff.1 ht
  obtain ⟨m, u', hkm, hu', hafter⟩ := h k s s' q u hs hu
  cases heq
  refine ⟨m, u', hkm, by rw [Run.attempt, hu']; rfl, ?_⟩
  cases q <;> exact hafter

theorem weaken (h : Follows B before between x x')
    (hweaken : ∀ k s s', between k s s' → after k s s') : Follows B before after x x' := by
  rintro k s s' r t hs ht
  obtain ⟨m, t', hkm, ht', hlink⟩ := h k s s' r t hs ht
  refine ⟨m, t', hkm, ht', ?_⟩
  cases r with
  | error f => exact hlink
  | ok a => exact hweaken m t t' hlink

theorem strengthen (h : Follows B between after x x')
    (hstrengthen : ∀ k s s', before k s s' → between k s s') : Follows B before after x x' :=
  fun k s s' r t hs ht => h k s s' r t (hstrengthen k s s' hs) ht

/-- What the state has told is known in what follows. -/
theorem bind_asks {g g' : State → α} {f f' : α → Run β}
    (hg : ∀ k s s', before k s s' → g' s' = g s)
    (hf : ∀ a, Follows B (fun k s s' => before k s s' ∧ g s = a) after (f a) (f' a)) :
    Follows B before after (Run.asks g >>= f) (Run.asks g' >>= f') := by
  rintro k s s' r t hs ht
  obtain ⟨m, t', hkm, ht', hlink⟩ := hf (g s) k s s' r t ⟨hs, rfl⟩ ht
  refine ⟨m, t', hkm, ?_, hlink⟩
  rw [← hg k s s' hs] at ht'
  exact ht'

theorem bind_asks_left {g : State → α} {f : α → Run β} {y' : Run β} {a : α}
    (hg : ∀ k s s', before k s s' → g s = a) (h : Follows B before after (f a) y') :
    Follows B before after (Run.asks g >>= f) y' := by
  rintro k s s' r t hs ht
  refine h k s s' r t hs ?_
  rw [← hg k s s' hs]
  exact ht

theorem bind_asks_right {g : State → α} {f : α → Run β} {y : Run β} {a : α}
    (hg : ∀ k s s', before k s s' → g s' = a) (h : Follows B before after y (f a)) :
    Follows B before after y (Run.asks g >>= f) := by
  rintro k s s' r t hs ht
  obtain ⟨m, t', hkm, ht', hafter⟩ := h k s s' r t hs ht
  rw [← hg k s s' hs] at ht'
  exact ⟨m, t', hkm, ht', hafter⟩

/-- What the states say can be used. -/
theorem of_states {p : Prop} (hp : ∀ k s s', before k s s' → p)
    (h : p → Follows B before after x x') : Follows B before after x x' :=
  fun k s s' r t hs ht => h (hp k s s' hs) k s s' r t hs ht

theorem bind_within? {y y' : Option α} {f f' : α → Run β} (hy : ∀ a, y = some a → y' = some a)
    (hf : ∀ a, y = some a → Follows B before after (f a) (f' a)) :
    Follows B before after (Run.within? y >>= f) (Run.within? y' >>= f') := by
  cases ha : y with
  | none =>
    rintro k s s' r t - ht
    cases ht
  | some a =>
    rw [hy a ha]
    exact hf a ha

theorem bind_ofExcept {r : Except Fault α} {f f' : α → Run β}
    (hf : ∀ a, r = .ok a → Follows B B.firm after (f a) (f' a)) :
    Follows B B.firm after (Run.ofExcept r >>= f) (Run.ofExcept r >>= f') := by
  cases r with
  | error e =>
    rintro k s s' r t hs ht
    cases ht
    exact ⟨k, s', Nat.le_refl k, rfl, hs⟩
  | ok a => exact hf a rfl

theorem ite {c : Prop} [Decidable c] {y y' : Run α} (hx : Follows B before after x x')
    (hy : Follows B before after y y') :
    Follows B before after (if c then x else y) (if c then x' else y') := by
  split
  · exact hx
  · exact hy

theorem mapM {f f' : α → Run β} (hf : ∀ a, Follows B before before (f a) (f' a)) (l : List α) :
    Follows B before before (l.mapM f) (l.mapM f') := by
  induction l with
  | nil => exact .pure []
  | cons a l ih =>
    rw [List.mapM_cons, List.mapM_cons]
    exact .bind (hf a) fun b => .bind ih fun bs => .pure (b :: bs)

theorem foldlM {f f' : β → α → Run β} (hf : ∀ b a, Follows B before before (f b a) (f' b a))
    (l : List α) (b : β) : Follows B before before (l.foldlM f b) (l.foldlM f' b) := by
  induction l generalizing b with
  | nil => exact .pure b
  | cons a l ih =>
    rw [List.foldlM_cons, List.foldlM_cons]
    exact .bind (hf b a) ih

/-- A frame of its own is pushed before and taken away after. -/
theorem inFrame {f : Frame}
    (hpush : ∀ k s s', before k s s' → B.firm (k + 1) (s.push f) (s'.push f))
    (hpop : ∀ k s s', B.loose (k + 1) s s' → B.firm k s.pop s'.pop)
    (hx : Follows B B.firm B.loose x x') :
    Follows B before B.firm (Run.inFrame f x) (Run.inFrame f x') := by
  rintro k s s' r t hs ht
  rw [Run.inFrame_eq] at ht
  rcases Run.bind_eq_some_iff.1 ht with ⟨a, u, hu, ht⟩ | ⟨e, he, rfl⟩
  · obtain ⟨m, u', hkm, hu', hloose⟩ := hx _ _ _ _ u (hpush k s s' hs) hu
    cases ht
    obtain ⟨m, rfl⟩ : ∃ l, m = l + 1 := ⟨m - 1, by omega⟩
    refine ⟨m, u'.pop, by omega, ?_, hpop m u u' hloose⟩
    rw [Run.inFrame_eq]
    exact Run.bind_ok hu'
  · obtain ⟨m, t', hkm, ht', hfirm⟩ := hx _ _ _ _ t (hpush k s s' hs) he
    refine ⟨m, t', by omega, ?_, hfirm⟩
    rw [Run.inFrame_eq]
    exact Run.bind_error ht'

/-- Renderings that follow each other come to the same result, or both need more depth. -/
theorem map_fst_eq {B' : Bond} {before' after' : Nat → State → State → Prop}
    (h : Follows B before after x x') (h' : Follows B' before' after' x' x) {k k' : Nat}
    {s s' : State} (hs : before k s s') (hs' : before' k' s' s) : (x' s').map Prod.fst = (x s).map Prod.fst := by
  cases hx : x s with
  | some q =>
    obtain ⟨_, t', -, ht', -⟩ := h k s s' q.1 q.2 hs hx
    rw [ht']
    rfl
  | none =>
    cases hx' : x' s' with
    | none => rfl
    | some q =>
      obtain ⟨_, t, -, ht, -⟩ := h' k' s' s q.1 q.2 hs' hx'
      rw [hx] at ht
      cases ht

end Follows

/-! ### Bonds that the steps of a rendering keep -/

/-- Corresponding states go on alike, and stay in correspondence when both do the same to their
frames. -/
structure Bond.Sound (B : Bond) : Prop where
  loosen : ∀ k s s', B.firm k s s' → B.loose k s s'
  settle : ∀ k s s', B.loose k s s' → s.flow = .next → B.firm k s s'
  flow : ∀ k s s', B.loose k s s' → s'.flow = s.flow
  assign : ∀ k s s', B.firm k s s' → ∀ name everywhere v,
    B.firm k (s.assign name everywhere v) (s'.assign name everywhere v)
  pop : ∀ k s s', B.loose (k + 1) s s' → B.firm k s.pop s'.pop
  leave : ∀ what flow,
    Follows B B.firm B.loose (Run.leaveRound what flow) (Run.leaveRound what flow)
  round : Follows B B.loose B.firm Run.nextRound Run.nextRound

namespace Bond.Sound

variable {B : Bond} {inLoop : Bool}

theorem of_firm (hB : B.Sound) (k : Nat) (s s' : State) (h : B.firm k s s') :
    B.after inLoop k s s' := by
  cases inLoop with
  | false => exact h
  | true => exact hB.loosen k s s' h

theorem to_loose (hB : B.Sound) (k : Nat) (s s' : State) (h : B.after inLoop k s s') :
    B.loose k s s' := by
  cases inLoop with
  | false => exact hB.loosen k s s' h
  | true => exact h

theorem flow_after (hB : B.Sound) (k : Nat) (s s' : State) (h : B.after inLoop k s s') :
    s'.flow = s.flow :=
  hB.flow k s s' (hB.to_loose k s s' h)

theorem renderAll (hB : B.Sound) {f f' : Node → Run String} {l : List Node}
    (hf : ∀ x ∈ l, Follows B B.firm (B.after inLoop) (f x) (f' x)) :
    Follows B B.firm (B.after inLoop) (renderAll f l) (renderAll f' l) := by
  induction l with
  | nil => exact (Follows.pure "").weaken hB.of_firm
  | cons x l ih =>
    obtain ⟨hx, hl⟩ := List.forall_mem_cons.1 hf
    refine .bind hx fun s => .bind_asks hB.flow_after fun flow => ?_
    by_cases hflow : flow = .next
    · -- nothing has been left, so the next node starts from where the last one stood
      rw [if_pos hflow, if_pos hflow]
      refine (Follows.bind (ih hl) fun t => .pure _).strengthen fun k s s' h => ?_
      exact hB.settle k s s' (hB.to_loose k s s' h.1) (h.2.trans hflow)
    · rw [if_neg hflow, if_neg hflow]
      exact (Follows.pure s).strengthen fun _ _ _ h => h.1

theorem renderRounds (hB : B.Sound) {x x' : Run String} (hx : Follows B B.firm B.loose x x')
    (rounds : Nat) : Follows B B.firm B.loose (renderRounds x rounds) (renderRounds x' rounds) := by
  induction rounds with
  | zero => exact (Follows.pure "").weaken hB.loosen
  | succ rounds ih =>
    refine .bind hx fun s => .bind_asks hB.flow fun flow => .ite ?_ ?_
    · exact (Follows.pure s).strengthen fun _ _ _ h => h.1
    · refine (Follows.bind hB.round fun _ => ?_).strengthen fun _ _ _ h => h.1
      exact .bind ih fun t => .pure _

end Bond.Sound

end LivePages.Template
