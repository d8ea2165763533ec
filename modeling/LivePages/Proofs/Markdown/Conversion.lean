import LivePages.Proofs.Markdown.Refusals

/-! A document is the tree that was read, construct by construct, or else its first node in document
order that is too deep or of an extension says why there is none. -/

namespace LivePages.Markdown

/-! ### What a tree becomes -/

/-- The kind that stands for a construct in a document. A protected character is text, and of raw
markup it is kept only that it stood there. -/
inductive Construct.Becomes : Construct → Kind → Prop
  | document : Becomes .document .document
  | paragraph : Becomes .paragraph .paragraph
  | heading (level : Nat) : Becomes (.heading level) (.heading level)
  | blockQuote : Becomes .blockQuote .blockQuote
  | list (ordered : Bool) (start : Nat) (tight : Bool) :
      Becomes (.list ordered start tight) (.list ordered start tight)
  | item : Becomes .item .item
  | codeBlock (info literal : String) : Becomes (.codeBlock info literal) (.codeBlock info literal)
  | thematicBreak : Becomes .thematicBreak .thematicBreak
  | htmlBlock (literal : String) : Becomes (.htmlBlock literal) .rawHtml
  | htmlInline (literal : String) : Becomes (.htmlInline literal) .rawHtml
  | text (s : String) : Becomes (.text s) (.text s)
  | escaped (s : String) : Becomes (.escaped s) (.text s)
  | code (s : String) : Becomes (.code s) (.code s)
  | softBreak : Becomes .softBreak .softBreak
  | lineBreak : Becomes .lineBreak .lineBreak
  | emph : Becomes .emph .emph
  | strong : Becomes .strong .strong
  | link (url title : String) : Becomes (.link url title) (.link url title)
  | image (url title : String) : Becomes (.image url title) (.image url title)

mutual

/-- The document has the shape of the tree, its kinds stand for the tree's constructs, and it has no
attributes. -/
inductive Tree.Becomes : Tree → Node → Prop
  | mk {c cs kind ns} (here : c.Becomes kind) (below : BecomeAll cs ns) :
      Tree.Becomes (.mk c cs) (.mk kind [] ns)

inductive BecomeAll : List Tree → List Node → Prop
  | nil : BecomeAll [] []
  | cons {t n ts ns} (first : t.Becomes n) (rest : BecomeAll ts ns) :
      BecomeAll (t :: ts) (n :: ns)

end

/-- No node has attributes. -/
def Node.IsBare (n : Node) : Prop :=
  n.Every fun _ attrs => attrs = []

mutual

/-- How many levels of nodes there are below a node. -/
def Node.depth : Node → Nat
  | .mk _ _ cs => depthAll cs

def depthAll : List Node → Nat
  | [] => 0
  | n :: r => max (n.depth + 1) (depthAll r)

end

/-- A node that makes no part of a document: it lies too deep, or it is of an extension. -/
def Offends (node : Nat × Construct) : Prop :=
  64 < node.1 ∨ ∃ name, node.2 = .extension name

theorem kind?_eq_ok_iff {c : Construct} {kind : Kind} : c.kind? = .ok kind ↔ c.Becomes kind := by
  constructor
  · intro h
    cases c <;> cases h <;> constructor
  · intro h
    cases h <;> rfl

theorem kind?_eq_error_iff {c : Construct} {e : Refusal} :
    c.kind? = .error e ↔ ∃ name, c = .extension name ∧ e = .unsupported name := by
  constructor
  · intro h
    cases c <;> cases h
    exact ⟨_, rfl, rfl⟩
  · rintro ⟨name, rfl, rfl⟩
    rfl

theorem levelRefusal?_eq_none_iff {node : Nat × Construct} :
    levelRefusal? node = none ↔ ¬ Offends node := by
  rw [levelRefusal?, Offends, maxDepth, not_or]
  by_cases hdeep : 64 < node.1
  · simp [hdeep]
  · cases hkind : node.2.kind? with
    | error e =>
      obtain ⟨name, hname, -⟩ := kind?_eq_error_iff.1 hkind
      simp [hdeep, hname]
    | ok kind =>
      have hnone : ¬ ∃ name, node.2 = .extension name := by
        rintro ⟨name, hname⟩
        rw [hname] at hkind
        cases hkind
      simp [hdeep, hnone]

theorem levelRefusal?_iff {node : Nat × Construct} {e : Refusal} :
    levelRefusal? node = some e ↔
      64 < node.1 ∧ e = .tooDeep 64 ∨
        node.1 ≤ 64 ∧ ∃ name, node.2 = .extension name ∧ e = .unsupported name := by
  rw [levelRefusal?, maxDepth]
  by_cases hdeep : 64 < node.1
  · simp [hdeep, Nat.not_le.2 hdeep, eq_comm]
  · simp only [hdeep, ↓reduceIte, false_and, false_or, Nat.not_lt.1 hdeep, true_and]
    rw [← kind?_eq_error_iff]
    cases node.2.kind? <;> simp

instance : DecidablePred Offends := fun node =>
  decidable_of_iff (levelRefusal? node ≠ none) <| by
    rw [ne_eq, levelRefusal?_eq_none_iff, Classical.not_not]

/-! ### Converting -/

mutual

theorem becomes_of_convertAt : ∀ {t : Tree} {depth : Nat} {n : Node},
    convertAt depth t = .ok n → t.Becomes n
  | .mk c cs, depth, n, h => by
    rw [convertAt] at h
    split at h
    · cases h
    cases hkind : c.kind? with
    | error e =>
      rw [hkind] at h
      cases h
    | ok kind =>
      rw [hkind] at h
      cases hcs : convertAll (depth + 1) cs with
      | error e =>
        simp only [hcs] at h
        cases h
      | ok ns =>
        simp only [hcs] at h
        cases h
        exact .mk (kind?_eq_ok_iff.1 hkind) (becomeAll_of_convertAll hcs)

theorem becomeAll_of_convertAll : ∀ {ts : List Tree} {depth : Nat} {ns : List Node},
    convertAll depth ts = .ok ns → BecomeAll ts ns
  | [], _, _, h => by
    cases h
    exact .nil
  | t :: r, depth, ns, h => by
    rw [convertAll] at h
    cases ht : convertAt depth t with
    | error e =>
      rw [ht] at h
      cases h
    | ok n =>
      rw [ht] at h
      cases hr : convertAll depth r with
      | error e =>
        simp only [hr] at h
        cases h
      | ok ms =>
        simp only [hr] at h
        cases h
        exact .cons (becomes_of_convertAt ht) (becomeAll_of_convertAll hr)

end

theorem Tree.Becomes.kind {t : Tree} {n : Node} (h : t.Becomes n) : t.construct.Becomes n.kind := by
  cases h with
  | mk here _ => exact here

mutual

theorem Tree.Becomes.isBare : ∀ {t : Tree} {n : Node}, t.Becomes n → n.IsBare
  | .mk _ _, _, .mk _ below => .mk rfl below.isBare

theorem BecomeAll.isBare : ∀ {ts : List Tree} {ns : List Node}, BecomeAll ts ns →
    ∀ n ∈ ns, n.IsBare
  | [], _, .nil => List.forall_mem_nil _
  | _ :: _, _, .cons first rest => List.forall_mem_cons.2 ⟨first.isBare, rest.isBare⟩

end

section Every

variable {R : Construct → Prop} {P : Kind → Markup.Attributes → Prop}

mutual

/-- What holds of all constructs of a tree holds of all kinds of its document, which has no
attributes. -/
theorem Tree.Becomes.every (hP : ∀ c k, c.Becomes k → R c → P k []) :
    ∀ {t : Tree} {n : Node}, t.Becomes n → t.Every R → n.Every P
  | .mk _ _, _, .mk here below, h => by
    obtain ⟨hc, hcs⟩ := h
    exact .mk (hP _ _ here hc) (below.every hP hcs)

theorem BecomeAll.every (hP : ∀ c k, c.Becomes k → R c → P k []) :
    ∀ {ts : List Tree} {ns : List Node}, BecomeAll ts ns → (∀ t ∈ ts, t.Every R) →
      ∀ n ∈ ns, n.Every P
  | [], _, .nil, _ => List.forall_mem_nil _
  | _ :: _, _, .cons first rest, h => by
    obtain ⟨ht, hts⟩ := List.forall_mem_cons.1 h
    exact List.forall_mem_cons.2 ⟨first.every hP ht, rest.every hP hts⟩

end

end Every

section Nested

variable {R : Construct → Construct → Prop} {S : Kind → Kind → Prop}

mutual

/-- Kinds stand where the constructs stand that become them. -/
theorem Tree.Becomes.nested
    (hRS : ∀ c k d l, c.Becomes k → d.Becomes l → R c d → S k l) :
    ∀ {t : Tree} {n : Node}, t.Becomes n → t.Nested R → n.Nested S
  | .mk c cs, _, .mk here below, h => by
    obtain ⟨hholds, hnested⟩ := h
    have hcs := below.nested hRS hnested
    refine .mk (fun m hm => ?_) fun m hm => (hcs m hm).2
    obtain ⟨t, ht, hkind⟩ := (hcs m hm).1
    exact hRS _ _ _ _ here hkind (hholds t ht)

theorem BecomeAll.nested (hRS : ∀ c k d l, c.Becomes k → d.Becomes l → R c d → S k l) :
    ∀ {ts : List Tree} {ns : List Node}, BecomeAll ts ns → (∀ t ∈ ts, t.Nested R) →
      ∀ n ∈ ns, (∃ t ∈ ts, t.construct.Becomes n.kind) ∧ n.Nested S
  | [], _, .nil, _ => List.forall_mem_nil _
  | t :: ts, _, .cons first rest, h => by
    obtain ⟨ht, hts⟩ := List.forall_mem_cons.1 h
    refine List.forall_mem_cons.2 ⟨⟨⟨t, List.mem_cons_self, first.kind⟩, first.nested hRS ht⟩, ?_⟩
    intro n hn
    obtain ⟨⟨u, hu, hkind⟩, hnested⟩ := rest.nested hRS hts n hn
    exact ⟨⟨u, List.mem_cons_of_mem t hu, hkind⟩, hnested⟩

end

/-- What stands below what in a document follows from what reading puts there. -/
theorem nested_of_read {source : String} {n : Node} (h : read source = .ok n)
    (hS : ∀ c k d l, c.Becomes k → d.Becomes l → Construct.MayHold .none c d → S k l) :
    n.Nested S :=
  (becomes_of_convertAt h).nested hS (nested_readTree .none source)

end Nested

mutual

/-- A document is no deeper than the deepest node of its tree. -/
theorem Tree.Becomes.depth_le : ∀ {t : Tree} {n : Node} {level m : Nat}, t.Becomes n →
    (∀ node ∈ t.levels level, node.1 ≤ m) → level + n.depth ≤ m
  | _, _, level, m, .mk here below, h => by
    rw [Tree.levels, List.forall_mem_cons] at h
    rw [Node.depth]
    exact below.depth_le h.1 h.2

theorem BecomeAll.depth_le : ∀ {ts : List Tree} {ns : List Node} {level m : Nat}, BecomeAll ts ns →
    level ≤ m → (∀ node ∈ levelsAll (level + 1) ts, node.1 ≤ m) → level + depthAll ns ≤ m
  | _, _, level, m, .nil, hlevel, _ => hlevel
  | _, _, level, m, .cons first rest, hlevel, h => by
    rw [levelsAll, List.forall_mem_append] at h
    have hfirst := first.depth_le h.1
    have hrest := rest.depth_le hlevel h.2
    rw [depthAll]
    omega

end

/-- A tree becomes a document exactly when no node offends, at most 64 levels deep; otherwise the
first offence in document order decides, depth before kind. -/
theorem first_offence_decides (t : Tree) :
    ((∃ n, Node.ofTree? t = .ok n) ↔ ∀ node ∈ t.levels 0, ¬ Offends node) ∧
    (∀ n, Node.ofTree? t = .ok n → t.Becomes n ∧ n.depth ≤ 64) ∧
    ∀ e, Node.ofTree? t = .error e ↔ ∃ before node after,
      t.levels 0 = before ++ node :: after ∧ (∀ earlier ∈ before, ¬ Offends earlier) ∧
      (64 < node.1 ∧ e = .tooDeep 64 ∨
        node.1 ≤ 64 ∧ ∃ name, node.2 = .extension name ∧ e = .unsupported name) := by
  have hok : (∃ n, Node.ofTree? t = .ok n) ↔ ∀ node ∈ t.levels 0, ¬ Offends node := by
    simp only [← levelRefusal?_eq_none_iff]
    rw [← List.findSome?_eq_none_iff, Option.eq_none_iff_forall_ne_some]
    simp only [ne_eq, ← convertAt_eq_error_iff]
    unfold Node.ofTree?
    cases convertAt 0 t <;> simp
  refine ⟨hok, ?_, ?_⟩
  · intro n hn
    refine ⟨becomes_of_convertAt hn, ?_⟩
    have hshallow : ∀ node ∈ t.levels 0, node.1 ≤ 64 := by
      intro node hnode
      have hnot := hok.1 ⟨n, hn⟩ node hnode
      exact Nat.not_lt.1 fun hdeep => hnot (.inl hdeep)
    have hdepth := (becomes_of_convertAt hn).depth_le hshallow
    omega
  · intro e
    rw [Node.ofTree?, convertAt_eq_error_iff, List.findSome?_eq_some_iff]
    simp only [levelRefusal?_iff, levelRefusal?_eq_none_iff]
    constructor
    · rintro ⟨before, node, after, hlevels, hrefused, hearlier⟩
      exact ⟨before, node, after, hlevels, hearlier, hrefused⟩
    · rintro ⟨before, node, after, hlevels, hearlier, hrefused⟩
      exact ⟨before, node, after, hlevels, hrefused, hearlier⟩

/-- A tree inside quotes, one in another. -/
def quoted : Nat → Tree → Tree
  | 0, t => t
  | k + 1, t => .mk .blockQuote [quoted k t]

/-- Raw markup on the last level allowed; a table one level below and then one on the first level;
and both the other way around. -/
theorem first_offence_decides_tables :
    (∃ n, Node.ofTree? (.mk .document [quoted 63 (.leaf (.htmlBlock "<b>"))]) = .ok n ∧
      n.depth ≤ 64) ∧
    Node.ofTree? (.mk .document [quoted 64 (.leaf (.extension "table")),
      .leaf (.extension "table")]) = .error (.tooDeep 64) ∧
    Node.ofTree? (.mk .document [.leaf (.extension "table"),
      quoted 64 (.leaf (.extension "table"))]) = .error (.unsupported "table") := by
  refine ⟨?_, ?_, ?_⟩
  · obtain ⟨hok, hshape, -⟩ :=
      first_offence_decides (.mk .document [quoted 63 (.leaf (.htmlBlock "<b>"))])
    obtain ⟨n, hn⟩ := hok.2 (by decide)
    exact ⟨n, hn, (hshape n hn).2⟩
  · refine ((first_offence_decides _).2.2 (.tooDeep 64)).2 ?_
    let above : List (Nat × Construct) := (List.range 64).map fun k => (k + 1, .blockQuote)
    exact ⟨(0, .document) :: above, (65, .extension "table"), [(1, .extension "table")], rfl,
      by decide, .inl ⟨by decide, rfl⟩⟩
  · refine ((first_offence_decides _).2.2 (.unsupported "table")).2 ?_
    exact ⟨[(0, .document)], (1, .extension "table"), _, rfl, by decide,
      .inr ⟨by decide, "table", rfl, rfl⟩⟩

end LivePages.Markdown
