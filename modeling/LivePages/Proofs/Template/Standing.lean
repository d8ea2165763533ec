import LivePages.Proofs.Template.Following

/-! A template that is rendered for itself stands on one frame; embedded in a page it stands on a
frame above the page's. What a path means does not tell the two apart, and neither does anything
that a rendering does to its frames. -/

namespace LivePages.Template

/-- The frames below those that a rendering pushes: the template's own, and that of the page it is
embedded in, if it is. -/
def ground (page : Option String) (name : String) (locals : List (String × Json)) : List Frame :=
  match page with
  | none => [⟨.origin, name, locals, none⟩]
  | some page => [⟨.embedded, name, locals, none⟩, ⟨.origin, page, [], none⟩]

/-- Frames that have been pushed onto the ground, with no block entered. -/
def standing (page : Option String) (name : String) (top : List Frame)
    (locals : List (String × Json)) : State :=
  ⟨top ++ ground page name locals, []⟩

variable {page page' : Option String} {name : String} {top : List Frame}
  {locals : List (String × Json)}

/-! ### What paths mean -/

theorem findInFrames_append_ground (page : Option String) (name path : String) (top : List Frame)
    (locals : List (String × Json)) :
    findInFrames path (top ++ ground page name locals) =
      findInFrames path (top ++ ground none name locals) := by
  induction top with
  | nil =>
    cases page with
    | none => rfl
    | some page =>
      have hfind : Frame.find? ⟨.embedded, name, locals, none⟩ path =
        Frame.find? ⟨.origin, name, locals, none⟩ path := rfl
      have hpage : Frame.find? ⟨.origin, page, [], none⟩ path = none := rfl
      simp only [ground, List.nil_append, findInFrames, hfind, hpage, FrameKind.isFloor, if_true]
      rfl
  | cons f top ih => rw [List.cons_append, List.cons_append, findInFrames, findInFrames, ih]

theorem frameBindings_append_ground (page : Option String) (name : String) (done : Json.Fields)
    (top : List Frame) (locals : List (String × Json)) :
    frameBindings done (top ++ ground page name locals) =
      frameBindings done (top ++ ground none name locals) := by
  induction top generalizing done with
  | nil => cases page <;> rfl
  | cons f top ih =>
    rw [List.cons_append, List.cons_append, frameBindings, frameBindings]
    split
    · rfl
    · exact ih _

theorem template_standing (page : Option String) (name : String) (top : List Frame)
    (locals : List (String × Json)) :
    (standing page name top locals).template = (standing none name top locals).template := by
  cases top with
  | nil => cases page <;> rfl
  | cons f top => rfl

/-- A scope is looked into through what single paths mean in it; its template is only named. -/
theorem Scope.lookup_congr {s s' : Scope} (hfind : ∀ path, s'.find? path = s.find? path)
    (htemplate : s'.template = s.template) (n : Nat) (path : String) :
    s'.lookup n path = s.lookup n path := by
  induction n generalizing path with
  | zero => rw [Scope.lookup, Scope.lookup, htemplate]
  | succ n ih =>
    unfold Scope.lookup
    simp only [hfind, htemplate, ih]

theorem value_standing (page : Option String) (name : String) (data : Json.Fields)
    (top : List Frame) (locals : List (String × Json)) (path : String) :
    Scope.value ⟨data, (standing page name top locals).frames⟩ path =
      Scope.value ⟨data, (standing none name top locals).frames⟩ path := by
  unfold Scope.value
  split
  · unfold Scope.dump standing
    rw [frameBindings_append_ground]
  · have htemplate : Scope.template ⟨data, (standing page name top locals).frames⟩ =
        Scope.template ⟨data, (standing none name top locals).frames⟩ :=
      template_standing page name top locals
    refine Scope.lookup_congr (fun path => ?_) htemplate _ path
    unfold Scope.find? standing
    rw [findInFrames_append_ground]

/-! ### What is done to frames -/

section
variable {P : Frame → Prop} (hset : ∀ f key v, P f → P (f.set key v))
include hset

theorem setOutside_append_ground (name : String) (locals : List (String × Json))
    (htop : ∀ f ∈ top, P f) (key : String) (v : Json) :
    ∃ top' locals', top'.length = top.length ∧ (∀ f ∈ top', P f) ∧ ∀ page,
      State.setOutside key v (top ++ ground page name locals) =
        top' ++ ground page name locals' := by
  induction top with
  | nil =>
    refine ⟨[], (Frame.set ⟨.origin, name, locals, none⟩ key v).locals, rfl,
      List.forall_mem_nil _, ?_⟩
    rintro (_ | page) <;> rfl
  | cons f top ih =>
    obtain ⟨hf, htop⟩ := List.forall_mem_cons.1 htop
    by_cases hloop : (f.kind == .loop) = true
    · obtain ⟨top', locals', hlength, htop', heq⟩ := ih htop
      refine ⟨f :: top', locals', congrArg (· + 1) hlength, List.forall_mem_cons.2 ⟨hf, htop'⟩, ?_⟩
      intro page
      rw [List.cons_append, State.setOutside, if_pos hloop, heq page]
      rfl
    · refine ⟨f.set key v :: top, locals, rfl, List.forall_mem_cons.2 ⟨hset f key v hf, htop⟩, ?_⟩
      intro page
      rw [List.cons_append, State.setOutside, if_neg hloop]
      rfl

/-- Binding a name changes one frame of those that have been pushed, or the locals of the template
on the ground; on which ground does not matter. -/
theorem assign_standing (htop : ∀ f ∈ top, P f) (key : String) (everywhere : Bool) (v : Json) :
    ∃ top' locals', top'.length = top.length ∧ (∀ f ∈ top', P f) ∧ ∀ page,
      (standing page name top locals).assign key everywhere v =
        standing page name top' locals' := by
  cases everywhere with
  | true =>
    obtain ⟨top', locals', hlength, htop', heq⟩ :=
      setOutside_append_ground hset name locals htop key v
    exact ⟨top', locals', hlength, htop', fun page => congrArg (State.mk · []) (heq page)⟩
  | false =>
    cases top with
    | nil =>
      refine ⟨[], (Frame.set ⟨.origin, name, locals, none⟩ key v).locals, rfl,
        List.forall_mem_nil _, ?_⟩
      rintro (_ | page) <;> rfl
    | cons f top =>
      obtain ⟨hf, htop⟩ := List.forall_mem_cons.1 htop
      exact ⟨f.set key v :: top, locals, rfl, List.forall_mem_cons.2 ⟨hset f key v hf, htop⟩,
        fun page => rfl⟩

end

theorem flow_standing (page : Option String) (name : String) (top : List Frame)
    (locals : List (String × Json)) :
    (standing page name top locals).flow = (standing none name top locals).flow := by
  cases top with
  | nil => cases page <;> rfl
  | cons f top => rfl

/-! ### The correspondence -/

/-- Frames that have been pushed, of templates in `Home`. No round has been left. -/
def Quiet (Home : String → Prop) (top : List Frame) : Prop :=
  ∀ f ∈ top, f.flow = .next ∧ Home f.template

/-- The round of the innermost frame may have been left, no other one has. -/
def Leaving (Home : String → Prop) : List Frame → Prop
  | [] => True
  | f :: top => Home f.template ∧ Quiet Home top

/-- Both states have the same frames on their grounds. -/
def Standing (page page' : Option String) (name : String) (Top : List Frame → Prop) (k : Nat)
    (s s' : State) : Prop :=
  ∃ top locals, top.length = k ∧ Top top ∧ s = standing page name top locals ∧
    s' = standing page' name top locals

/-- The template is rendered on two grounds. -/
def Bond.standing (page page' : Option String) (name : String) (Home : String → Prop) : Bond :=
  ⟨Standing page page' name (Quiet Home), Standing page page' name (Leaving Home)⟩

variable {Home : String → Prop} {k : Nat} {s s' : State}

theorem Quiet.leaving (h : Quiet Home top) : Leaving Home top := by
  cases top with
  | nil => trivial
  | cons f top =>
    obtain ⟨hf, htop⟩ := List.forall_mem_cons.1 h
    exact ⟨hf.2, htop⟩

theorem Leaving.quiet (h : Leaving Home top) (hflow : ∀ f, top.head? = some f → f.flow = .next) :
    Quiet Home top := by
  cases top with
  | nil => exact List.forall_mem_nil _
  | cons f top => exact List.forall_mem_cons.2 ⟨⟨hflow f rfl, h.1⟩, h.2⟩

theorem Quiet.set (f : Frame) (key : String) (v : Json) (h : f.flow = .next ∧ Home f.template) :
    (f.set key v).flow = .next ∧ Home (f.set key v).template :=
  h

theorem flow_of_quiet (h : Quiet Home top) : (standing page name top locals).flow = .next := by
  rw [flow_standing]
  cases top with
  | nil => rfl
  | cons f top => exact (h f List.mem_cons_self).1

theorem onRound?_ground (page : Option String) (name : String) (locals : List (String × Json))
    (g : Frame → Round → Frame) : (standing page name [] locals).onRound? g = none := by
  cases page <;> rfl

/-- A round that is there is one of the frames that have been pushed, so both states have it or none
has. -/
theorem follows_onRound {Top Top' : List Frame → Prop} (what : String) (g : Frame → Round → Frame)
    (hround : ∀ f top r, Top (f :: top) → f.round = some r → Top' (g f r :: top))
    (hnone : ∀ top, Top top → (∀ f, top.head? = some f → f.round = none) → Quiet Home top) :
    Follows (.standing page page' name Home) (Standing page page' name Top)
      (Standing page page' name Top') (Run.onRound what g) (Run.onRound what g) := by
  rintro k _ _ r t ⟨top, locals, rfl, htop, rfl, rfl⟩ ht
  cases top with
  | nil =>
    unfold Run.onRound at ht ⊢
    rw [onRound?_ground] at ht ⊢
    cases ht
    exact ⟨0, _, Nat.le_refl 0, rfl, [], locals, rfl, hnone [] htop (by rintro _ ⟨⟩), rfl, rfl⟩
  | cons f top =>
    have hframes (page : Option String) : (standing page name (f :: top) locals).onRound? g =
        f.round.map fun round => standing page name (g f round :: top) locals := rfl
    unfold Run.onRound at ht ⊢
    rw [hframes] at ht ⊢
    cases hf : f.round with
    | none =>
      rw [hf] at ht
      cases ht
      refine ⟨_, _, Nat.le_refl _, rfl, f :: top, locals, rfl, hnone _ htop ?_, rfl, rfl⟩
      rintro _ ⟨⟩
      exact hf
    | some round =>
      rw [hf] at ht
      cases ht
      exact ⟨_, standing page' name (g f round :: top) locals, Nat.le_refl _, rfl,
        g f round :: top, locals, rfl, hround f top round htop hf, rfl, rfl⟩

theorem flow_of_round_eq_none {f : Frame} (h : f.round = none) : f.flow = .next := by
  rw [Frame.flow, h]

theorem flow_following (r : Round) : r.following.flow = .next := by
  unfold Round.following
  split <;> rfl

theorem sound_standing (page page' : Option String) (name : String) (Home : String → Prop) :
    (Bond.standing page page' name Home).Sound where
  loosen := by
    rintro k _ _ ⟨top, locals, hk, htop, rfl, rfl⟩
    exact ⟨top, locals, hk, htop.leaving, rfl, rfl⟩
  settle := by
    rintro k _ _ ⟨top, locals, hk, htop, rfl, rfl⟩ hflow
    refine ⟨top, locals, hk, htop.quiet fun f hf => ?_, rfl, rfl⟩
    obtain ⟨top, rfl⟩ : ∃ r, top = f :: r := List.head?_eq_some_iff.1 hf
    exact hflow
  flow := by
    rintro k _ _ ⟨top, locals, -, -, rfl, rfl⟩
    rw [flow_standing page', flow_standing page]
  assign := by
    rintro k _ _ ⟨top, locals, rfl, htop, rfl, rfl⟩ key everywhere v
    obtain ⟨top', locals', hlength, htop', heq⟩ := assign_standing Quiet.set htop key everywhere v
    exact ⟨top', locals', hlength, htop', heq page, heq page'⟩
  pop := by
    rintro k _ _ ⟨top, locals, hk, htop, rfl, rfl⟩
    obtain ⟨f, top, rfl⟩ := List.exists_cons_of_length_eq_add_one hk
    exact ⟨top, locals, Nat.succ.inj hk, htop.2, rfl, rfl⟩
  leave what flow := by
    refine follows_onRound what _ (fun f top r htop _ => ?_) fun top htop _ => htop
    obtain ⟨hf, htop⟩ := List.forall_mem_cons.1 htop
    exact ⟨hf.2, htop⟩
  round := by
    refine follows_onRound "increment" _ (fun f top r htop _ => ?_) fun top htop hnone =>
      htop.quiet fun f hf => flow_of_round_eq_none (hnone f hf)
    exact List.forall_mem_cons.2 ⟨⟨flow_following r, htop.1⟩, htop.2⟩

end LivePages.Template
