import LivePages.Proofs.Template.Following

/-! Renderings of one text that are alike follow each other. What two jobs must have in common for
that is said once; from it every function of the evaluation follows its counterpart, by induction on
the depth. -/

namespace LivePages.Template

variable {B : Bond} {P : Bool → Node → Prop} {j j' : Job} {n n' : Nat}

/-- With depth `n`, all functions of the evaluation for `j` are followed by those for `j'` with
depth `n'`, as far as the nodes are in `P`. -/
structure Level (B : Bond) (P : Bool → Node → Prop) (j j' : Job) (n n' : Nat) : Prop where
  evalTerm : ∀ escape t,
    Follows B B.firm B.firm (evalTerm j n escape t) (evalTerm j' n' escape t)
  eval : ∀ escape e, Follows B B.firm B.firm (eval j n escape e) (eval j' n' escape e)
  finish : ∀ escape e v unsafeText, Follows B B.firm B.firm (finish j n escape e v unsafeText)
    (finish j' n' escape e v unsafeText)
  evalDefault : ∀ escape e,
    Follows B B.firm B.firm (evalDefault j n escape e) (evalDefault j' n' escape e)
  evalPart : ∀ t, Follows B B.firm B.firm (evalPart j n t) (evalPart j' n' t)
  evalArgs : ∀ args, Follows B B.firm B.firm (evalArgs j n args) (evalArgs j' n' args)
  callFunction : ∀ f, Follows B B.firm B.firm (callFunction j n f) (callFunction j' n' f)
  applyFilter : ∀ f v, Follows B B.firm B.firm (applyFilter j n f v) (applyFilter j' n' f v)
  evalTest : ∀ p negated name args, Follows B B.firm B.firm (evalTest j n p negated name args)
    (evalTest j' n' p negated name args)
  evalCondition : ∀ escape e,
    Follows B B.firm B.firm (evalCondition j n escape e) (evalCondition j' n' escape e)
  evalComparisonOf : ∀ escape negated op a b, Follows B B.firm B.firm
    (evalComparisonOf j n escape negated op a b) (evalComparisonOf j' n' escape negated op a b)
  evalEquality : ∀ escape negated op a b, Follows B B.firm B.firm
    (evalEquality j n escape negated op a b) (evalEquality j' n' escape negated op a b)
  evalComparison : ∀ escape op a b, Follows B B.firm B.firm (evalComparison j n escape op a b)
    (evalComparison j' n' escape op a b)
  evalLogic : ∀ escape op a b,
    Follows B B.firm B.firm (evalLogic j n escape op a b) (evalLogic j' n' escape op a b)
  evalTruth : ∀ escape t,
    Follows B B.firm B.firm (evalTruth j n escape t) (evalTruth j' n' escape t)
  evalSide : ∀ escape e, Follows B B.firm B.firm (evalSide j n escape e) (evalSide j' n' escape e)
  evalNumber : ∀ escape t,
    Follows B B.firm B.firm (evalNumber j n escape t) (evalNumber j' n' escape t)
  bindParams : ∀ f params,
    Follows B B.firm B.firm (bindParams j n f params) (bindParams j' n' f params)
  callDefinition : ∀ escape l f,
    Follows B B.firm B.firm (callDefinition j n escape l f) (callDefinition j' n' escape l f)
  render : ∀ escape inLoop x, P inLoop x →
    Follows B B.firm (B.after inLoop) (render j n escape x) (render j' n' escape x)
  renderBranches : ∀ escape inLoop branches otherwise,
    (∀ b ∈ branches, ∀ x ∈ b.body, P inLoop x) →
    (∀ m body, otherwise = some (m, body) → ∀ x ∈ body, P inLoop x) →
    Follows B B.firm (B.after inLoop) (renderBranches j n escape branches otherwise)
      (renderBranches j' n' escape branches otherwise)
  renderAbove : ∀ escape, Follows B B.firm B.firm (renderAbove j n escape)
    (renderAbove j' n' escape)

/-- What holds of two jobs whose renderings follow each other: frames are of templates in `Home`,
templates asked for by name in `Known`; blocks are left to each case. -/
structure Alike (B : Bond) (P : Bool → Node → Prop) (Home : String → Prop) (Known : Source → Prop)
    (j j' : Job) : Prop where
  bond : B.Sound
  library : j'.engine.library = j.engine.library
  value : ∀ k s s', B.firm k s s' → ∀ p, j'.value s' p = j.value s p
  template : ∀ k s s', B.firm k s s' → s'.template = s.template ∧ Home s.template
  speaker : ∀ k s s', B.firm k s s' → j'.speaker s' = j.speaker s ∧ Home (j.speaker s)
  push : ∀ k s s', B.firm k s s' → ∀ f : Frame, f.flow = .next → Home f.template →
    B.firm (k + 1) (s.push f) (s'.push f)
  choose : ∀ inLoop branches otherwise m, P inLoop (.choose branches otherwise m) →
    (∀ b ∈ branches, ∀ x ∈ b.body, P inLoop x) ∧
      ∀ m body, otherwise = some (m, body) → ∀ x ∈ body, P inLoop x
  loop : ∀ inLoop m key value e body otherwise m',
    P inLoop (.loop m key value e body otherwise m') → (∀ x ∈ body, P true x) ∧
      ∀ other, otherwise = some other → ∀ x ∈ other, P inLoop x
  filtered : ∀ inLoop m f body m', P inLoop (.filtered m f body m') → ∀ x ∈ body, P false x
  left : ∀ inLoop m, P inLoop (.stop m) ∨ P inLoop (.skip m) →
    ∀ k s s', B.loose k s s' → B.after inLoop k s s'
  find? : ∀ name, Home name → j'.engine.find? name = j.engine.find? name
  known : ∀ name t, Home name → j.engine.find? name = some t → Known t
  home : ∀ t, Known t → Home t.name
  nodes : ∀ t, Known t → ∀ x ∈ t.nodes, P false x
  definitions : ∀ t, Known t → ∀ d ∈ t.definitions, ∀ x ∈ d.body, P false x
  imports : ∀ t, Known t → ∀ i ∈ t.imports, Home i.1
  ancestors : ∀ t, Known t → j'.engine.ancestors t = j.engine.ancestors t ∧
    ∀ l, j.engine.ancestors t = .ok l → ∀ u ∈ l, Known u
  embed : ∀ inLoop m names optional, P inLoop (.embed m names optional) →
    names.findSome? j'.engine.find? = names.findSome? j.engine.find? ∧
      ∀ t, names.findSome? j.engine.find? = some t → Known t
  block : ∀ n n', Level B P j j' n n' → ∀ escape inLoop m name body m',
    P inLoop (.block m name body m') → Follows B B.firm (B.after inLoop)
      (render j (n + 1) escape (.block m name body m'))
      (render j' (n' + 1) escape (.block m name body m'))
  above : ∀ n n', Level B P j j' n n' → ∀ escape,
    Follows B B.firm B.firm (renderAbove j (n + 1) escape) (renderAbove j' (n' + 1) escape)

/-- Without depth there is no result that would have to be followed. -/
theorem level_zero (B : Bond) (P : Bool → Node → Prop) (j j' : Job) (n' : Nat) :
    Level B P j j' 0 n' := by
  constructor <;> intros <;> exact .tooDeep

/-! ### Expressions -/

variable {Home : String → Prop} {Known : Source → Prop}

theorem Alike.asks_value (A : Alike B P Home Known j j') (p : String) :
    Follows B B.firm B.firm (Run.asks (j.value · p)) (Run.asks (j'.value · p)) :=
  .asks fun k s s' h => A.value k s s' h p

theorem follows_evalTerm (A : Alike B P Home Known j j') (H : Level B P j j' n n') (escape : Bool)
    (t : Term) :
    Follows B B.firm B.firm (evalTerm j (n + 1) escape t) (evalTerm j' (n' + 1) escape t) := by
  cases t with
  | str s => exact .pure _
  | int i => exact .pure _
  | float x => exact .pure _
  | bool b => exact .pure _
  | path p => exact .bind (A.asks_value p) fun r => .bind (.ofExcept r) fun v => .pure _
  | list items => exact .bind (.mapM (H.eval escape) items) fun vs => .pure _
  | member a b negated =>
    refine .bind (H.eval escape a) fun x => .bind (H.eval escape b) fun c => ?_
    exact .bind (.ofExcept _) fun found => .pure _
  | joined parts => exact .bind (.mapM H.evalPart parts) fun texts => .pure _
  | call f => exact H.callFunction f
  | macroCall l f => exact .bind (H.callDefinition escape l f) fun s => .pure _
  | test p negated name args => exact .bind (H.evalTest p negated name args) fun b => .pure _
  | compare op a b => exact .bind (H.evalComparison escape op a b) fun b => .pure _
  | logic op a b => exact .bind (H.evalLogic escape op a b) fun b => .pure _
  | arith op a b =>
    refine .bind (.within _ (H.evalNumber escape _)) fun result => ?_
    cases result with
    | some x => exact .pure _
    | none => exact .pure _

theorem follows_eval (A : Alike B P Home Known j j') (H : Level B P j j' n n') (escape : Bool)
    (e : Expr) :
    Follows B B.firm B.firm (eval j (n + 1) escape e) (eval j' (n' + 1) escape e) := by
  have filled (p : String) : Follows B B.firm B.firm
      (do finish j n escape e (← evalDefault j n escape e) (p != dumpPath))
      (do finish j' n' escape e (← evalDefault j' n' escape e) (p != dumpPath)) :=
    .bind (H.evalDefault escape e) fun v => H.finish escape e v _
  have other {t : Term} : Follows B B.firm B.firm
      (evalTerm j n escape t >>= fun r => finish j n escape e r.1 r.2)
      (evalTerm j' n' escape t >>= fun r => finish j' n' escape e r.1 r.2) :=
    .bind (H.evalTerm escape t) fun r => H.finish escape e r.1 r.2
  unfold eval
  cases e.term with
  | path p =>
    refine .bind (A.asks_value p) fun r => ?_
    cases r with
    | ok v => exact .ite (filled p) (H.finish escape e v _)
    | error f => exact .ite (filled p) (.ite (.pure _) (.fail f))
  | compare op a b =>
    exact .bind (H.evalComparisonOf escape _ op a b) fun b => H.finish escape e _ _
  | logic op a b => exact .bind (H.evalLogic escape op a b) fun b => H.finish escape e _ _
  | _ => exact other

theorem follows_finish (H : Level B P j j' n n') (escape : Bool) (e : Expr) (v : Json)
    (unsafeText : Bool) :
    Follows B B.firm B.firm (finish j (n + 1) escape e v unsafeText)
      (finish j' (n' + 1) escape e v unsafeText) := by
  refine .bind (.foldlM (fun r f => H.applyFilter f r.1) _ (v, unsafeText)) fun r => ?_
  exact .ite (.pure _) (.pure _)

theorem follows_evalDefault (H : Level B P j j' n n') (escape : Bool) (e : Expr) :
    Follows B B.firm B.firm (evalDefault j (n + 1) escape e)
      (evalDefault j' (n' + 1) escape e) := by
  unfold evalDefault
  split
  · exact H.eval escape _
  · exact .fail _

theorem follows_evalPart (A : Alike B P Home Known j j') (H : Level B P j j' n n') (t : Term) :
    Follows B B.firm B.firm (evalPart j (n + 1) t) (evalPart j' (n' + 1) t) := by
  cases t with
  | str s => exact .pure _
  | int i => exact .pure _
  | float x => exact .pure _
  | path p =>
    refine .bind (A.asks_value p) fun r => .bind (.ofExcept r) fun v => ?_
    split
    · exact .pure _
    · exact .fail _
  | call f =>
    refine .bind (H.callFunction f) fun r => ?_
    dsimp only
    split
    · exact .pure _
    · exact .fail _
  | _ => exact .fail _

theorem follows_evalArgs (H : Level B P j j' n n') (args : List (String × Expr)) :
    Follows B B.firm B.firm (evalArgs j (n + 1) args) (evalArgs j' (n' + 1) args) := by
  refine .mapM (fun a => ?_) args
  exact .bind (H.eval false a.2) fun v => .pure (a.1, v)

theorem follows_callFunction (A : Alike B P Home Known j j') (H : Level B P j j' n n') (f : Call) :
    Follows B B.firm B.firm (callFunction j (n + 1) f) (callFunction j' (n' + 1) f) := by
  unfold callFunction
  rw [A.library]
  split
  · exact .fail _
  · exact .within _ (.bind (H.evalArgs f.args) fun args => .bind (.ofExcept _) fun v => .pure _)

theorem follows_applyFilter (A : Alike B P Home Known j j') (H : Level B P j j' n n') (f : Call)
    (v : Json) :
    Follows B B.firm B.firm (applyFilter j (n + 1) f v) (applyFilter j' (n' + 1) f v) := by
  unfold applyFilter
  rw [A.library]
  split
  · exact .fail _
  · exact .within _ (.bind (H.evalArgs f.args) fun args => .bind (.ofExcept _) fun v => .pure _)

theorem follows_evalTest (A : Alike B P Home Known j j') (H : Level B P j j' n n') (p : String)
    (negated : Bool) (name : String) (args : List Expr) :
    Follows B B.firm B.firm (evalTest j (n + 1) p negated name args)
      (evalTest j' (n' + 1) p negated name args) := by
  unfold evalTest
  rw [A.library]
  split
  · exact .fail _
  · refine .within _ (.bind (.mapM (H.eval false) args) fun vs => ?_)
    exact .bind (A.asks_value p) fun v => .bind (.ofExcept _) fun b => .pure _

theorem follows_evalCondition (H : Level B P j j' n n') (escape : Bool) (e : Expr) :
    Follows B B.firm B.firm (evalCondition j (n + 1) escape e)
      (evalCondition j' (n' + 1) escape e) := by
  have other {t : Term} : Follows B B.firm B.firm
      (do let b ← evalTruth j n escape t; pure (b != e.negated))
      (do let b ← evalTruth j' n' escape t; pure (b != e.negated)) :=
    .bind (H.evalTruth escape t) fun b => .pure _
  unfold evalCondition
  cases e.term with
  | path p =>
    refine .bind (.attempt (H.eval escape e)) fun r => ?_
    split
    · exact .pure _
    · exact .pure _
  | compare op a b => exact H.evalComparisonOf escape _ op a b
  | joined parts => exact .bind (H.eval escape _) fun v => .pure _
  | _ => exact other

theorem follows_evalComparisonOf (H : Level B P j j' n n') (escape negated : Bool) (op : Comparison)
    (a b : Expr) :
    Follows B B.firm B.firm (evalComparisonOf j (n + 1) escape negated op a b)
      (evalComparisonOf j' (n' + 1) escape negated op a b) := by
  cases op with
  | eq => exact H.evalEquality escape negated .eq a b
  | ne => exact H.evalEquality escape negated .ne a b
  | _ => exact .bind (H.evalComparison escape _ a b) fun r => .pure _

theorem follows_evalEquality (H : Level B P j j' n n') (escape negated : Bool) (op : Comparison)
    (a b : Expr) :
    Follows B B.firm B.firm (evalEquality j (n + 1) escape negated op a b)
      (evalEquality j' (n' + 1) escape negated op a b) := by
  refine .bind (H.eval escape a) fun x => .bind (H.eval escape b) fun y => ?_
  exact .ite (.pure _) (.pure _)

theorem follows_evalComparison (H : Level B P j j' n n') (escape : Bool) (op : Comparison)
    (a b : Expr) :
    Follows B B.firm B.firm (evalComparison j (n + 1) escape op a b)
      (evalComparison j' (n' + 1) escape op a b) := by
  cases op with
  | eq => exact H.evalEquality escape false .eq a b
  | ne => exact H.evalEquality escape false .ne a b
  | _ =>
    refine .bind (H.evalSide escape a) fun x => .bind (H.evalSide escape b) fun y => ?_
    split
    · exact .pure _
    · exact .fail _

theorem follows_evalLogic (H : Level B P j j' n n') (escape : Bool) (op : Connective) (a b : Expr) :
    Follows B B.firm B.firm (evalLogic j (n + 1) escape op a b)
      (evalLogic j' (n' + 1) escape op a b) := by
  refine .bind (H.evalCondition escape a) fun x => ?_
  cases op with
  | both => exact .ite (H.evalCondition escape b) (.pure _)
  | either => exact .ite (.pure _) (H.evalCondition escape b)

theorem follows_evalTruth (H : Level B P j j' n n') (escape : Bool) (t : Term) :
    Follows B B.firm B.firm (evalTruth j (n + 1) escape t) (evalTruth j' (n' + 1) escape t) := by
  have other : Follows B B.firm B.firm
      (evalTerm j n escape t >>= fun r => pure (isTrue r.1))
      (evalTerm j' n' escape t >>= fun r => pure (isTrue r.1)) :=
    .bind (H.evalTerm escape t) fun r => .pure _
  cases t with
  | logic op a b => exact H.evalLogic escape op a b
  | bool b => exact .pure _
  | str s => exact .pure _
  | call f =>
    refine .bind (H.callFunction f) fun r => ?_
    split
    · exact .pure _
    · exact .fail _
  | macroCall l f => exact .bind (H.callDefinition escape l f) fun s => .pure _
  | int i => exact .pure _
  | float x => exact .pure _
  | arith op a b =>
    refine .bind (H.evalNumber escape _) fun r => ?_
    split
    · exact .pure _
    · exact .pure _
  | _ => exact other

theorem follows_evalSide (H : Level B P j j' n n') (escape : Bool) (e : Expr) :
    Follows B B.firm B.firm (evalSide j (n + 1) escape e) (evalSide j' (n' + 1) escape e) := by
  unfold evalSide
  split
  · exact H.evalNumber escape _
  · refine .bind (H.eval escape e) fun v => ?_
    split
    · exact .pure _
    · exact .fail _

theorem follows_evalNumber (A : Alike B P Home Known j j') (H : Level B P j j' n n') (escape : Bool)
    (t : Term) :
    Follows B B.firm B.firm (evalNumber j (n + 1) escape t) (evalNumber j' (n' + 1) escape t) := by
  cases t with
  | int i => exact .pure _
  | float x => exact .pure _
  | path p =>
    refine .bind (A.asks_value p) fun r => .bind (.ofExcept r) fun v => ?_
    split
    · exact .pure _
    · exact .fail _
  | arith op a b =>
    refine .bind (H.evalSide escape a) fun x => .bind (H.evalSide escape b) fun y => ?_
    split
    · exact .ofExcept _
    · exact .pure _
  | call f =>
    refine .bind (H.callFunction f) fun r => ?_
    dsimp only
    split
    · exact .pure _
    · exact .fail _
  | _ => exact .fail _

theorem follows_bindParams (H : Level B P j j' n n') (f : Call)
    (params : List (String × Option Expr)) :
    Follows B B.firm B.firm (bindParams j (n + 1) f params) (bindParams j' (n' + 1) f params) := by
  refine .mapM (fun p => ?_) params
  obtain ⟨name, default⟩ := p
  dsimp only
  split
  · exact .bind (H.eval false _) fun v => .pure _
  · exact .fail _

/-! ### Templates that are asked for -/

theorem foldlM_of_step {α β : Type} {f f' : β → α → Option β} {l : List α} {b c : β}
    (hf : ∀ a ∈ l, ∀ b c, f b a = some c → f' b a = some c) (h : l.foldlM f b = some c) :
    l.foldlM f' b = some c := by
  induction l generalizing b with
  | nil => exact h
  | cons a l ih =>
    obtain ⟨ha, hl⟩ := List.forall_mem_cons.1 hf
    rw [List.foldlM_cons] at h ⊢
    obtain ⟨d, hd, hrest⟩ := Option.bind_eq_some_iff.1 h
    exact Option.bind_eq_some_iff.2 ⟨d, ha b d hd, ih hl hrest⟩

theorem foldlM_invariant {α β : Type} {f : β → α → Option β} {I : β → Prop} {l : List α} {b c : β}
    (hf : ∀ a ∈ l, ∀ b c, I b → f b a = some c → I c) (hb : I b) (h : l.foldlM f b = some c) :
    I c := by
  induction l generalizing b with
  | nil =>
    cases h
    exact hb
  | cons a l ih =>
    obtain ⟨ha, hl⟩ := List.forall_mem_cons.1 hf
    rw [List.foldlM_cons] at h
    obtain ⟨d, hd, hrest⟩ := Option.bind_eq_some_iff.1 h
    exact ih hl (ha b d hb hd) hrest

/-- Templates that are asked for have the same shelves in both engines. -/
theorem Alike.shelves (A : Alike B P Home Known j j') {n n' : Nat} (hn : n ≤ n') {t : Source}
    (ht : Known t) {l : Shelves} (h : j.engine.shelves n t = some l) :
    j'.engine.shelves n' t = some l := by
  induction n generalizing n' t l with
  | zero => cases h
  | succ n ih =>
    obtain ⟨n', rfl⟩ : ∃ m, n' = m + 1 := ⟨n' - 1, by omega⟩
    have hn := Nat.le_of_succ_le_succ hn
    obtain ⟨hancestors, habove⟩ := A.ancestors t ht
    unfold Engine.shelves at h ⊢
    obtain ⟨imported, himported, h⟩ := Option.bind_eq_some_iff.1 h
    refine Option.bind_eq_some_iff.2 ⟨imported, ?_, ?_⟩
    · refine foldlM_of_step (fun i hi s r hr => ?_) himported
      have hfind := A.find? i.1 (A.imports t ht i hi)
      dsimp only at hr ⊢
      rw [hfind]
      cases hu : j.engine.find? i.1 with
      | none => rwa [hu] at hr
      | some u =>
        rw [hu] at hr
        obtain ⟨more, hmore, rfl⟩ := Option.map_eq_some_iff.1 hr
        exact Option.map_eq_some_iff.2
          ⟨more, ih hn (A.known i.1 u (A.imports t ht i hi) hu) hmore, rfl⟩
    · rw [hancestors]
      cases hl : j.engine.ancestors t with
      | error f => rwa [hl] at h
      | ok above =>
        rw [hl] at h
        refine foldlM_of_step (fun u hu s r hr => ?_) h
        obtain ⟨more, hmore, rfl⟩ := Option.map_eq_some_iff.1 hr
        exact Option.map_eq_some_iff.2 ⟨more, ih hn (habove above hl u hu) hmore, rfl⟩

/-- Every shelf holds the definitions of a template that is in `Known`. -/
def AreFrom (Known : Source → Prop) (l : Shelves) : Prop :=
  ∀ x ∈ l, ∃ u, Known u ∧ x.2.template = u.name ∧ x.2.definitions = u.definitions

theorem AreFrom.set {l : Shelves} {name : String} {shelf : Shelf} (hl : AreFrom Known l)
    (hshelf : ∃ u, Known u ∧ shelf.template = u.name ∧ shelf.definitions = u.definitions) :
    AreFrom Known (Shelves.set l name shelf) := by
  intro x hx
  rcases List.mem_cons.1 hx with rfl | hx
  · exact hshelf
  · exact hl x (List.mem_filter.1 hx).1

theorem AreFrom.fill {l more : Shelves} (hl : AreFrom Known l) (hmore : AreFrom Known more) :
    AreFrom Known (Shelves.fill l more) := by
  induction more generalizing l with
  | nil => exact hl
  | cons x more ih =>
    obtain ⟨hx, hrest⟩ := List.forall_mem_cons.1 hmore
    refine ih (l := if Shelves.has l x.1 then l else Shelves.set l x.1 x.2) ?_ hrest
    split
    · exact hl
    · exact hl.set hx

theorem Alike.areFrom (A : Alike B P Home Known j j') {n : Nat} {t : Source} (ht : Known t)
    {l : Shelves} (h : j.engine.shelves n t = some l) : AreFrom Known l := by
  induction n generalizing t l with
  | zero => cases h
  | succ n ih =>
    unfold Engine.shelves at h
    obtain ⟨imported, himported, h⟩ := Option.bind_eq_some_iff.1 h
    have hown : AreFrom Known (ownShelves t) := by
      unfold ownShelves
      split
      · exact List.forall_mem_nil _
      · exact List.forall_mem_singleton.2 ⟨t, ht, rfl, rfl⟩
    have himported : AreFrom Known imported := by
      refine foldlM_invariant (fun i hi s r hs hr => ?_) hown himported
      dsimp only at hr
      cases hu : j.engine.find? i.1 with
      | none =>
        rw [hu] at hr
        cases hr
        exact hs
      | some u =>
        rw [hu] at hr
        obtain ⟨more, hmore, rfl⟩ := Option.map_eq_some_iff.1 hr
        have hu' := A.known i.1 u (A.imports t ht i hi) hu
        have hname : u.name = i.1 := by simpa using List.find?_some hu
        exact (hs.set ⟨u, hu', hname.symm, rfl⟩).fill (ih hu' hmore)
    refine foldlM_invariant (fun u hu s r hs hr => ?_) himported h
    obtain ⟨more, hmore, rfl⟩ := Option.map_eq_some_iff.1 hr
    refine hs.fill (ih ?_ hmore)
    cases hl : j.engine.ancestors t with
    | error f =>
      rw [hl] at hu
      cases hu
    | ok above =>
      rw [hl] at hu
      exact (A.ancestors t ht).2 above hl u hu

theorem Alike.definition (A : Alike B P Home Known j j') {n n' : Nat} (hn : n ≤ n')
    {template library name : String} (htemplate : Home template)
    {r : Except Fault (String × Definition)}
    (h : j.engine.definition n template library name = some r) :
    j'.engine.definition n' template library name = some r ∧
      ∀ home d, r = .ok (home, d) → Home home ∧ ∀ x ∈ d.body, P false x := by
  obtain ⟨l, hl, rfl⟩ := Option.map_eq_some_iff.1 h
  have hboth : j'.engine.shelvesOf n' template = some l ∧ AreFrom Known l := by
    unfold Engine.shelvesOf at hl ⊢
    rw [A.find? template htemplate]
    cases ht : j.engine.find? template with
    | none =>
      rw [ht] at hl
      cases hl
      exact ⟨rfl, List.forall_mem_nil _⟩
    | some t =>
      rw [ht] at hl
      have ht := A.known template t htemplate ht
      exact ⟨A.shelves hn ht hl, A.areFrom ht hl⟩
  refine ⟨Option.map_eq_some_iff.2 ⟨l, hboth.1, rfl⟩, fun home d hd => ?_⟩
  unfold definitionIn at hd
  split at hd
  · cases hd
  · rename_i shelf hshelf
    split at hd
    · cases hd
    · rename_i d' hd'
      cases hd
      obtain ⟨x, hx, rfl⟩ := Option.map_eq_some_iff.1 hshelf
      obtain ⟨u, hu, hname, hdefinitions⟩ := hboth.2 x (List.mem_of_find?_eq_some hx)
      rw [hname]
      rw [hdefinitions] at hd'
      exact ⟨A.home u hu, A.definitions u hu _ (List.mem_of_find?_eq_some hd')⟩

/-! ### Nodes -/

theorem Level.renderAll (H : Level B P j j' n n') (hB : B.Sound) (escape : Bool) {inLoop : Bool}
    {l : List Node} (hl : ∀ x ∈ l, P inLoop x) :
    Follows B B.firm (B.after inLoop) (renderAll (Template.render j n escape) l)
      (renderAll (Template.render j' n' escape) l) :=
  hB.renderAll fun x hx => H.render escape inLoop x (hl x hx)

theorem follows_callDefinition (A : Alike B P Home Known j j') (H : Level B P j j' n n')
    (hn : n ≤ n') (escape : Bool) (l : String) (f : Call) :
    Follows B B.firm B.firm (callDefinition j (n + 1) escape l f)
      (callDefinition j' (n' + 1) escape l f) := by
  refine .bind_asks (fun k s s' h => (A.speaker k s s' h).1) fun speaker => ?_
  refine .of_states (p := Home speaker) ?_ fun hspeaker => .strengthen ?_ fun _ _ _ h => h.1
  · rintro k s s' ⟨hfirm, rfl⟩
    exact (A.speaker k s s' hfirm).2
  refine .bind_within? (fun r hr => (A.definition hn hspeaker hr).1) fun r hr => ?_
  refine .bind_ofExcept fun d hd => ?_
  obtain ⟨hhome, hbody⟩ := (A.definition hn hspeaker hr).2 d.1 d.2 hd
  refine .bind (H.bindParams f d.2.params) fun locals => ?_
  refine .inFrame (fun k s s' h => A.push k s s' h _ rfl hhome) A.bond.pop ?_
  exact (H.renderAll A.bond escape hbody).weaken A.bond.loosen

theorem flow_of_first? {key : Option String} {value : String} {items : List (String × Json)}
    {round : Round} (h : Round.first? key value items = some round) : round.flow = .next := by
  cases items with
  | nil => cases h
  | cons x items =>
    cases h
    rfl

theorem follows_loop (A : Alike B P Home Known j j') {x x' : Run String} {round : Round}
    (hround : round.flow = .next) (hx : Follows B B.firm B.loose x x') (rounds : Nat) :
    Follows B B.firm B.firm
      (Run.asks State.template >>= fun template =>
        Run.inFrame ⟨.loop, template, [], some round⟩ (renderRounds x rounds))
      (Run.asks State.template >>= fun template =>
        Run.inFrame ⟨.loop, template, [], some round⟩ (renderRounds x' rounds)) := by
  refine .bind_asks (fun k s s' h => (A.template k s s' h).1) fun template => ?_
  refine .inFrame (fun k s s' h => ?_) A.bond.pop (A.bond.renderRounds hx rounds)
  obtain ⟨hfirm, rfl⟩ := h
  exact A.push k s s' hfirm _ hround (A.template k s s' hfirm).2

theorem follows_embed (A : Alike B P Home Known j j') (H : Level B P j j' n n') (hn : n ≤ n')
    (escape : Bool) {t : Source} (ht : Known t) :
    Follows B B.firm B.firm
      (do
        let _ ← Run.within? (j.engine.shelves n t)
        Run.inFrame ⟨.embedded, t.name, [], none⟩ (renderAll (render j n escape) t.nodes))
      (do
        let _ ← Run.within? (j'.engine.shelves n' t)
        Run.inFrame ⟨.embedded, t.name, [], none⟩ (renderAll (render j' n' escape) t.nodes)) := by
  refine .bind_within? (fun l hl => A.shelves hn ht hl) fun _ _ => ?_
  refine .inFrame (fun k s s' h => A.push k s s' h _ rfl (A.home t ht)) A.bond.pop ?_
  exact (H.renderAll A.bond escape (A.nodes t ht)).weaken A.bond.loosen

theorem follows_render (A : Alike B P Home Known j j') (H : Level B P j j' n n') (hn : n ≤ n')
    (escape inLoop : Bool) (x : Node) (hx : P inLoop x) :
    Follows B B.firm (B.after inLoop) (render j (n + 1) escape x)
      (render j' (n' + 1) escape x) := by
  have settled {y y' : Run String} (h : Follows B B.firm B.firm y y') :
      Follows B B.firm (B.after inLoop) y y' := h.weaken A.bond.of_firm
  cases x with
  | text s => exact settled (.pure _)
  | raw m s m' => exact settled (.pure _)
  | comment m => exact settled (.pure _)
  | imports m file library => exact settled (.pure _)
  | define m name params body m' => exact settled (.pure _)
  | output m e => exact settled (.bind (H.eval escape e) fun v => .pure _)
  | assign m name everywhere e =>
    refine settled
      (.bind (H.eval false e) fun v => .bind (.modify fun k s s' h => ?_) fun _ => .pure _)
    exact A.bond.assign k s s' h name everywhere v
  | filtered m f body m' =>
    refine settled (.bind (H.renderAll A.bond escape (A.filtered _ _ _ _ _ hx)) fun s => ?_)
    exact .ite (.pure _) (.bind (H.applyFilter f (.str s)) fun r => .pure _)
  | choose branches otherwise m =>
    obtain ⟨hbranches, hotherwise⟩ := A.choose _ _ _ _ hx
    exact H.renderBranches escape inLoop branches otherwise hbranches hotherwise
  | loop m key value e body otherwise m' =>
    obtain ⟨hbody, hotherwise⟩ := A.loop _ _ _ _ _ _ _ _ hx
    refine .bind (.ofExcept _) fun name => .bind (H.eval false e) fun v => ?_
    refine .bind (.ofExcept _) fun items => ?_
    split
    · rename_i round _ hround
      exact settled (follows_loop A (flow_of_first? hround) (H.renderAll A.bond escape hbody) _)
    · exact H.renderAll A.bond escape (hotherwise _ rfl)
    · exact settled (.pure _)
  | stop m =>
    exact (Follows.bind (A.bond.leave _ _) fun _ => .pure "").weaken (A.left inLoop m (.inl hx))
  | skip m =>
    exact (Follows.bind (A.bond.leave _ _) fun _ => .pure "").weaken (A.left inLoop m (.inr hx))
  | block m name body m' => exact A.block n n' H escape inLoop m name body m' hx
  | super => exact settled (H.renderAbove escape)
  | embed m names optional =>
    obtain ⟨hfind, hknown⟩ := A.embed _ _ _ _ hx
    refine settled ?_
    unfold render
    dsimp only
    rw [hfind]
    split
    · rename_i t ht
      exact follows_embed A H hn escape (hknown t ht)
    · exact .ite (.pure _) (.fail _)
  | parent m name => exact .fail _

theorem follows_renderBranches (A : Alike B P Home Known j j') (H : Level B P j j' n n')
    (escape inLoop : Bool) (branches : List Branch) (otherwise : Option (Margin × List Node))
    (hbranches : ∀ b ∈ branches, ∀ x ∈ b.body, P inLoop x)
    (hotherwise : ∀ m body, otherwise = some (m, body) → ∀ x ∈ body, P inLoop x) :
    Follows B B.firm (B.after inLoop) (renderBranches j (n + 1) escape branches otherwise)
      (renderBranches j' (n' + 1) escape branches otherwise) := by
  cases branches with
  | cons b branches =>
    obtain ⟨hb, hbranches⟩ := List.forall_mem_cons.1 hbranches
    refine .bind (H.evalCondition escape b.condition) fun c => .ite ?_ ?_
    · exact H.renderAll A.bond escape hb
    · exact H.renderBranches escape inLoop branches otherwise hbranches hotherwise
  | nil =>
    cases otherwise with
    | some other => exact H.renderAll A.bond escape (hotherwise other.1 other.2 rfl)
    | none => exact (Follows.pure "").weaken A.bond.of_firm

theorem level_succ (A : Alike B P Home Known j j') (H : Level B P j j' n n') (hn : n ≤ n') :
    Level B P j j' (n + 1) (n' + 1) where
  evalTerm := follows_evalTerm A H
  eval := follows_eval A H
  finish := follows_finish H
  evalDefault := follows_evalDefault H
  evalPart := follows_evalPart A H
  evalArgs := follows_evalArgs H
  callFunction := follows_callFunction A H
  applyFilter := follows_applyFilter A H
  evalTest := follows_evalTest A H
  evalCondition := follows_evalCondition H
  evalComparisonOf := follows_evalComparisonOf H
  evalEquality := follows_evalEquality H
  evalComparison := follows_evalComparison H
  evalLogic := follows_evalLogic H
  evalTruth := follows_evalTruth H
  evalSide := follows_evalSide H
  evalNumber := follows_evalNumber A H
  bindParams := follows_bindParams H
  callDefinition := follows_callDefinition A H hn
  render := follows_render A H hn
  renderBranches := follows_renderBranches A H
  renderAbove := A.above n n' H

/-- All functions of the evaluation for one job are followed by those for a job alike, with at least
as much depth. -/
theorem level_of_alike (A : Alike B P Home Known j j') (hn : n ≤ n') : Level B P j j' n n' := by
  induction n generalizing n' with
  | zero => exact level_zero B P j j' n'
  | succ n ih =>
    obtain ⟨n', rfl⟩ : ∃ m, n' = m + 1 := ⟨n' - 1, by omega⟩
    have hn := Nat.le_of_succ_le_succ hn
    exact level_succ A (ih hn) hn

end LivePages.Template
