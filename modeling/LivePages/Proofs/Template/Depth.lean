import LivePages.Proofs.Template.Alike

/-! Depth only bounds: a rendering that comes to an end within some depth comes to the same end with
more. -/

namespace LivePages.Template

/-- The same rendering twice. -/
def Bond.same : Bond :=
  ⟨fun _ s s' => s = s', fun _ s s' => s = s'⟩

theorem after_same (inLoop : Bool) : Bond.same.after inLoop = fun _ s s' => s = s' := by
  cases inLoop <;> rfl

theorem follows_self {α : Type} (x : Run α) :
    Follows Bond.same Bond.same.firm Bond.same.firm x x := by
  rintro k s s' r t h ht
  cases h
  refine ⟨k, t, Nat.le_refl k, ht, ?_⟩
  cases r <;> rfl

theorem sound_same : Bond.same.Sound where
  loosen _ _ _ h := h
  settle _ _ _ h _ := h
  flow k s s' h := by
    cases h
    rfl
  assign k s s' h name everywhere v := by
    cases h
    rfl
  pop k s s' h := by
    cases h
    rfl
  leave what flow := follows_self _
  round := follows_self _

theorem alike_self (j : Job) :
    Alike Bond.same (fun _ _ => True) (fun _ => True) (fun _ => True) j j where
  bond := sound_same
  library := rfl
  value k s s' h p := by
    cases h
    rfl
  template k s s' h := by
    cases h
    exact ⟨rfl, trivial⟩
  speaker k s s' h := by
    cases h
    exact ⟨rfl, trivial⟩
  push k s s' h f _ _ := by
    cases h
    rfl
  choose _ _ _ _ _ := ⟨fun _ _ _ _ => trivial, fun _ _ _ _ _ => trivial⟩
  loop _ _ _ _ _ _ _ _ _ := ⟨fun _ _ => trivial, fun _ _ _ _ => trivial⟩
  filtered _ _ _ _ _ _ _ _ := trivial
  left inLoop _ _ k s s' h := by
    rw [after_same]
    exact h
  find? _ _ := rfl
  known _ _ _ _ := trivial
  home _ _ := trivial
  nodes _ _ _ _ := trivial
  definitions _ _ _ _ _ _ := trivial
  imports _ _ _ _ := trivial
  ancestors _ _ := ⟨rfl, fun _ _ _ _ => trivial⟩
  embed _ _ _ _ _ := ⟨rfl, fun _ _ => trivial⟩
  block n n' H escape inLoop m name body m' _ := by
    refine .bind (follows_self (Run.asks State.template)) fun template => ?_
    split
    · refine .bind (follows_self (Run.enter _)) fun _ => ?_
      exact H.renderAll sound_same escape fun _ _ => trivial
    · exact H.renderAll sound_same escape fun _ _ => trivial
  above n n' H escape := by
    refine .bind (follows_self (Run.asks State.entered)) fun entered => ?_
    split
    · exact .fail _
    · split
      · exact .fail _
      · rename_i e _ t level b _
        refine .bind (follows_self (Run.enter _)) fun _ => ?_
        have hbody : Follows Bond.same Bond.same.firm (Bond.same.after false)
            (renderAll (render j n escape) b.body) (renderAll (render j n' escape) b.body) :=
          H.renderAll sound_same escape fun _ _ => trivial
        refine .bind hbody fun text => .bind (follows_self Run.leave) fun _ => ?_
        exact .ite (.bind (follows_self Run.leave) fun _ => .pure _) (.pure _)

/-! ### Whole renderings -/

theorem follows_renderEach {B : Bond} {f f' : Node → Run String} {l : List Node}
    (hf : ∀ x ∈ l, Follows B B.firm B.firm (f x) (f' x)) :
    Follows B B.firm B.firm (renderEach f l) (renderEach f' l) := by
  induction l with
  | nil => exact .pure ""
  | cons x l ih =>
    obtain ⟨hx, hl⟩ := List.forall_mem_cons.1 hf
    exact .bind hx fun s => .bind (ih hl) fun t => .pure _

theorem eq_of_follows_same {α : Type} {x x' : Run α}
    (h : Follows Bond.same Bond.same.firm Bond.same.firm x x') {s t : State} {r : Except Fault α}
    (ht : x s = some (r, t)) : x' s = some (r, t) := by
  obtain ⟨_, t', -, ht', hsame⟩ := h 0 s s r t rfl ht
  cases r with
  | error f =>
    obtain rfl : t = t' := hsame
    exact ht'
  | ok a =>
    obtain rfl : t = t' := hsame
    exact ht'

theorem Job.render_of_le (j : Job) {n n' : Nat} (hn : n ≤ n') {s t : State}
    {r : Except Fault String} (h : j.render n s = some (r, t)) : j.render n' s = some (r, t) := by
  have hlevel := level_of_alike (alike_self j) hn
  obtain ⟨⟨q, u⟩, hu, heq⟩ := Option.map_eq_some_iff.1 h
  have hu' := eq_of_follows_same (follows_renderEach fun x _ => hlevel.render _ false x trivial) hu
  exact Option.map_eq_some_iff.2 ⟨(q, u), hu', heq⟩

/-- What comes to an end within some depth comes to the same end with more. -/
theorem Engine.renderWithin_of_le {e : Engine} {n n' : Nat} (hn : n ≤ n') {name : String}
    {data : Json} {r : Except Fault String} (h : e.renderWithin n name data = some r) :
    e.renderWithin n' name data = some r := by
  cases data with
  | obj fields =>
    unfold renderWithin at h ⊢
    dsimp only at h ⊢
    split
    · rename_i hfind
      rwa [hfind] at h
    · rename_i t hfind
      rw [hfind] at h
      dsimp only at h
      split
      · rename_i f hancestors
        rwa [hancestors] at h
      · rename_i above hancestors
        rw [hancestors] at h
        obtain ⟨l, hl, h⟩ := Option.bind_eq_some_iff.1 h
        obtain ⟨q, hq, h⟩ := Option.bind_eq_some_iff.1 h
        have hl' := (alike_self ⟨e, fields, t, above⟩).shelves hn trivial hl
        refine Option.bind_eq_some_iff.2 ⟨l, hl', Option.bind_eq_some_iff.2 ⟨q, ?_, h⟩⟩
        exact Job.render_of_le _ hn hq
  | _ => exact h

/-- What the template of a name comes to with an object: nothing when it needs more depth, no text
when it fails. -/
def Engine.outcome (e : Engine) (depth : Nat) (name : String) (fields : Json.Fields) :
    Option (Option String) :=
  (e.renderWithin depth name (.obj fields)).map Except.toOption

theorem Engine.outcome_of_le {e : Engine} {n n' : Nat} (hn : n ≤ n') {name : String}
    {fields : Json.Fields} {r : Option String} (h : e.outcome n name fields = some r) :
    e.outcome n' name fields = some r := by
  obtain ⟨q, hq, hr⟩ := Option.map_eq_some_iff.1 h
  exact Option.map_eq_some_iff.2 ⟨q, renderWithin_of_le hn hq, hr⟩

theorem Engine.toOption_render (e : Engine) (name : String) (fields : Json.Fields) :
    (e.render name (.obj fields)).toOption = (e.outcome depthLimit name fields).getD none := by
  unfold render outcome
  cases e.renderWithin depthLimit name (.obj fields) <;> rfl

end LivePages.Template
