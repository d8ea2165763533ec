import LivePages.Template.Engine

/-! What a template is made of, and the templates that it reaches. -/

namespace LivePages.Template

/-! ### Nodes inside nodes -/

mutual

/-- The node and all nodes inside it. -/
def Node.inside : Node → List Node
  | .define o name params body c => .define o name params body c :: nodesInside body
  | .choose branches none c => .choose branches none c :: branchesInside branches
  | .choose branches (some (m, body)) c =>
    .choose branches (some (m, body)) c :: (branchesInside branches ++ nodesInside body)
  | .loop o k v e body none c => .loop o k v e body none c :: nodesInside body
  | .loop o k v e body (some other) c =>
    .loop o k v e body (some other) c :: (nodesInside body ++ nodesInside other)
  | .filtered o f body c => .filtered o f body c :: nodesInside body
  | .block o name body c => .block o name body c :: nodesInside body
  | .text s => [.text s]
  | .comment m => [.comment m]
  | .raw o s c => [.raw o s c]
  | .output m e => [.output m e]
  | .assign m name everywhere e => [.assign m name everywhere e]
  | .parent m name => [.parent m name]
  | .embed m names optional => [.embed m names optional]
  | .imports m file library => [.imports m file library]
  | .super => [.super]
  | .stop m => [.stop m]
  | .skip m => [.skip m]

def Branch.inside : Branch → List Node
  | .mk _ _ body => nodesInside body

def nodesInside : List Node → List Node
  | [] => []
  | x :: r => x.inside ++ nodesInside r

def branchesInside : List Branch → List Node
  | [] => []
  | b :: r => b.inside ++ branchesInside r

end

mutual

/-- Whether every `break` and `continue` stands in the body of a loop, as `inLoop` tells of the
node; filters, definitions and blocks stand for themselves. -/
def Node.isPlaced (inLoop : Bool) : Node → Bool
  | .stop _ => inLoop
  | .skip _ => inLoop
  | .choose branches none _ => branchesPlaced inLoop branches
  | .choose branches (some (_, body)) _ => branchesPlaced inLoop branches && nodesPlaced inLoop body
  | .loop _ _ _ _ body none _ => nodesPlaced true body
  | .loop _ _ _ _ body (some other) _ => nodesPlaced true body && nodesPlaced inLoop other
  | .filtered _ _ body _ => nodesPlaced false body
  | .define _ _ _ body _ => nodesPlaced false body
  | .block _ _ body _ => nodesPlaced false body
  | .text _ => true
  | .comment _ => true
  | .raw _ _ _ => true
  | .output _ _ => true
  | .assign _ _ _ _ => true
  | .parent _ _ => true
  | .embed _ _ _ => true
  | .imports _ _ _ => true
  | .super => true

def Branch.isPlaced (inLoop : Bool) : Branch → Bool
  | .mk _ _ body => nodesPlaced inLoop body

def nodesPlaced (inLoop : Bool) : List Node → Bool
  | [] => true
  | x :: r => x.isPlaced inLoop && nodesPlaced inLoop r

def branchesPlaced (inLoop : Bool) : List Branch → Bool
  | [] => true
  | b :: r => b.isPlaced inLoop && branchesPlaced inLoop r

end

theorem mem_nodesInside {y : Node} {l : List Node} :
    y ∈ nodesInside l ↔ ∃ x ∈ l, y ∈ x.inside := by
  induction l with
  | nil => simp [nodesInside]
  | cons x l ih => simp [nodesInside, ih]

theorem mem_branchesInside {y : Node} {l : List Branch} :
    y ∈ branchesInside l ↔ ∃ b ∈ l, y ∈ nodesInside b.body := by
  induction l with
  | nil => simp [branchesInside]
  | cons b l ih =>
    obtain ⟨m, c, body⟩ := b
    simp [branchesInside, Branch.inside, Branch.body, ih]

theorem nodesPlaced_iff {inLoop : Bool} {l : List Node} :
    nodesPlaced inLoop l = true ↔ ∀ x ∈ l, x.isPlaced inLoop = true := by
  induction l with
  | nil => simp [nodesPlaced]
  | cons x l ih => simp [nodesPlaced, ih]

theorem branchesPlaced_iff {inLoop : Bool} {l : List Branch} :
    branchesPlaced inLoop l = true ↔ ∀ b ∈ l, ∀ x ∈ b.body, x.isPlaced inLoop = true := by
  induction l with
  | nil => simp [branchesPlaced]
  | cons b l ih =>
    obtain ⟨m, c, body⟩ := b
    simp [branchesPlaced, Branch.isPlaced, Branch.body, nodesPlaced_iff, ih]

/-! ### Nodes all of which are of a kind -/

/-- Every `break` and `continue` has a loop around it, and `Q` holds of all nodes inside. -/
def Node.IsOf (Q : Node → Prop) (inLoop : Bool) (x : Node) : Prop :=
  x.isPlaced inLoop = true ∧ ∀ y ∈ x.inside, Q y

variable {Q : Node → Prop} {inLoop : Bool}

theorem isOf_nodes {l : List Node} (hplaced : nodesPlaced inLoop l = true)
    (hinside : ∀ y ∈ nodesInside l, Q y) : ∀ x ∈ l, x.IsOf Q inLoop :=
  fun x hx => ⟨nodesPlaced_iff.1 hplaced x hx,
    fun y hy => hinside y (mem_nodesInside.2 ⟨x, hx, hy⟩)⟩

theorem Node.IsOf.self {x : Node} (h : x.IsOf Q inLoop) : Q x := by
  refine h.2 x ?_
  cases x with
  | choose branches otherwise m => cases otherwise <;> exact List.mem_cons_self
  | loop o key value e body otherwise c => cases otherwise <;> exact List.mem_cons_self
  | _ => exact List.mem_cons_self

theorem Node.IsOf.filtered {o c : Margin} {f : Call} {body : List Node}
    (h : (Node.filtered o f body c).IsOf Q inLoop) : ∀ x ∈ body, x.IsOf Q false :=
  isOf_nodes h.1 fun y hy => h.2 y (List.mem_cons_of_mem _ hy)

theorem Node.IsOf.define {o c : Margin} {name : String} {params : List (String × Option Expr)}
    {body : List Node} (h : (Node.define o name params body c).IsOf Q inLoop) :
    ∀ x ∈ body, x.IsOf Q false :=
  isOf_nodes h.1 fun y hy => h.2 y (List.mem_cons_of_mem _ hy)

theorem isOf_branches {branches : List Branch} (hplaced : branchesPlaced inLoop branches = true)
    (hinside : ∀ y ∈ branchesInside branches, Q y) :
    ∀ b ∈ branches, ∀ x ∈ b.body, x.IsOf Q inLoop :=
  fun b hb x hx => ⟨branchesPlaced_iff.1 hplaced b hb x hx, fun y hy =>
    hinside y (mem_branchesInside.2 ⟨b, hb, mem_nodesInside.2 ⟨x, hx, hy⟩⟩)⟩

theorem Node.IsOf.choose {branches : List Branch} {otherwise : Option (Margin × List Node)}
    {m : Margin} (h : (Node.choose branches otherwise m).IsOf Q inLoop) :
    (∀ b ∈ branches, ∀ x ∈ b.body, x.IsOf Q inLoop) ∧
      ∀ m body, otherwise = some (m, body) → ∀ x ∈ body, x.IsOf Q inLoop := by
  obtain ⟨hplaced, hinside⟩ := h
  cases otherwise with
  | none =>
    refine ⟨isOf_branches hplaced fun y hy => hinside y (List.mem_cons_of_mem _ hy), ?_⟩
    rintro _ _ ⟨⟩
  | some other =>
    obtain ⟨hbranches, hother⟩ := Bool.and_eq_true_iff.1 hplaced
    have hrest : ∀ y ∈ branchesInside branches ++ nodesInside other.2, Q y :=
      fun y hy => hinside y (List.mem_cons_of_mem _ hy)
    obtain ⟨hleft, hright⟩ := List.forall_mem_append.1 hrest
    refine ⟨isOf_branches hbranches hleft, ?_⟩
    rintro _ _ ⟨⟩
    exact isOf_nodes hother hright

theorem Node.IsOf.loop {o c : Margin} {key : Option String} {value : String} {e : Expr}
    {body : List Node} {otherwise : Option (List Node)}
    (h : (Node.loop o key value e body otherwise c).IsOf Q inLoop) :
    (∀ x ∈ body, x.IsOf Q true) ∧
      ∀ other, otherwise = some other → ∀ x ∈ other, x.IsOf Q inLoop := by
  obtain ⟨hplaced, hinside⟩ := h
  cases otherwise with
  | none =>
    refine ⟨isOf_nodes hplaced fun y hy => hinside y (List.mem_cons_of_mem _ hy), ?_⟩
    rintro _ ⟨⟩
  | some other =>
    obtain ⟨hbody, hother⟩ := Bool.and_eq_true_iff.1 hplaced
    have hrest : ∀ y ∈ nodesInside body ++ nodesInside other, Q y :=
      fun y hy => hinside y (List.mem_cons_of_mem _ hy)
    obtain ⟨hleft, hright⟩ := List.forall_mem_append.1 hrest
    refine ⟨isOf_nodes hbody hleft, ?_⟩
    rintro _ ⟨⟩
    exact isOf_nodes hother hright

/-! ### Templates -/

def Node.isBlock : Node → Bool
  | .block _ _ _ _ => true
  | _ => false

/-- It extends nothing and has no blocks. -/
structure Source.IsPlain (t : Source) : Prop where
  parent : t.parent = none
  blocks : ∀ x ∈ nodesInside t.nodes, x.isBlock = false

instance (t : Source) : Decidable t.IsPlain :=
  decidable_of_iff (t.parent = none ∧ ∀ x ∈ nodesInside t.nodes, x.isBlock = false)
    ⟨fun h => ⟨h.1, h.2⟩, fun h => ⟨h.1, h.2⟩⟩

/-- No loop is left but from its body. -/
def Source.IsPlaced (t : Source) : Prop :=
  nodesPlaced false t.nodes = true

instance (t : Source) : Decidable t.IsPlaced :=
  inferInstanceAs (Decidable (_ = _))

def Node.embedded? (e : Engine) : Node → Option Source
  | .embed _ names _ => names.findSome? e.find?
  | _ => none

/-- The templates that a template leads to: those it embeds and those it imports. -/
def Engine.next (e : Engine) (t : Source) : List Source :=
  (nodesInside t.nodes).filterMap (Node.embedded? e) ++ t.imports.filterMap fun i => e.find? i.1

/-- The templates of an engine that rendering the one of a name can come to. -/
inductive Engine.Reaches (e : Engine) (name : String) : Source → Prop
  | start {t : Source} (h : e.find? name = some t) : e.Reaches name t
  | next {t u : Source} (h : e.Reaches name t) (hu : u ∈ e.next t) : e.Reaches name u

namespace Engine

variable {e : Engine} {name : String} {t u : Source}

theorem name_of_find? (h : e.find? name = some t) : t.name = name := by
  simpa using List.find?_some h

theorem Reaches.embed {m : Margin} {names : List String} {optional : Bool} (h : e.Reaches name t)
    (hx : .embed m names optional ∈ nodesInside t.nodes) (hu : names.findSome? e.find? = some u) :
    e.Reaches name u :=
  h.next (List.mem_append_left _ (List.mem_filterMap.2 ⟨_, hx, hu⟩))

theorem Reaches.imports {i : String × String} (h : e.Reaches name t) (hi : i ∈ t.imports)
    (hu : e.find? i.1 = some u) : e.Reaches name u :=
  h.next (List.mem_append_right _ (List.mem_filterMap.2 ⟨i, hi, hu⟩))

theorem exists_find?_of_mem_next (h : u ∈ e.next t) : ∃ m, e.find? m = some u := by
  rcases List.mem_append.1 h with h | h
  · obtain ⟨x, -, hx⟩ := List.mem_filterMap.1 h
    cases x with
    | embed m names optional =>
      obtain ⟨m, -, hm⟩ := List.exists_of_findSome?_eq_some hx
      exact ⟨m, hm⟩
    | _ => cases hx
  · obtain ⟨i, -, hi⟩ := List.mem_filterMap.1 h
    exact ⟨i.1, hi⟩

/-- What is reached is found under its own name. -/
theorem Reaches.find? (h : e.Reaches name t) : e.find? t.name = some t := by
  obtain ⟨m, hm⟩ : ∃ m, e.find? m = some t := by
    cases h with
    | start h => exact ⟨name, h⟩
    | next _ hu => exact exists_find?_of_mem_next hu
  rwa [name_of_find? hm]

/-- The templates of these names are plain and lead only to each other. -/
def IsClosed (e : Engine) (names : List String) : Prop :=
  ∀ t ∈ e.sources, t.name ∈ names → t.IsPlain ∧ ∀ u ∈ e.next t, u.name ∈ names

instance (e : Engine) (names : List String) : Decidable (e.IsClosed names) :=
  inferInstanceAs (Decidable (∀ t ∈ e.sources, _))

/-- Nothing else is reached from one of them. -/
theorem Reaches.of_isClosed {names : List String} (h : e.Reaches name t) (hname : name ∈ names)
    (hclosed : e.IsClosed names) : t.name ∈ names ∧ t.IsPlain := by
  have hmem : t.name ∈ names := by
    induction h with
    | start h => rwa [name_of_find? h]
    | next h hu ih => exact (hclosed _ (List.mem_of_find?_eq_some h.find?) ih).2 _ hu
  exact ⟨hmem, (hclosed t (List.mem_of_find?_eq_some h.find?) hmem).1⟩

end Engine

end LivePages.Template
