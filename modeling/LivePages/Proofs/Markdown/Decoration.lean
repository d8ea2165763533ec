import LivePages.Markdown.Tree
import LivePages.Markdown.Walk

/-! Documents node by node: maps that keep a document's shape, predicates that hold of every node,
and the tour that sets page attributes, which is such a map. -/

namespace LivePages.Markdown

/-! ### Maps over nodes -/

theorem map_modify {α β : Type} {f : α → α} {g : α → β} (h : ∀ a, g (f a) = g a) (l : List α)
    (i : Nat) : (l.modify i f).map g = l.map g := by
  refine List.ext_getElem? fun j => ?_
  rw [List.getElem?_map, List.getElem?_map, List.getElem?_modify]
  cases l[j]? with
  | none => rfl
  | some a => by_cases hij : i = j <;> simp [hij, h]

namespace Node

mutual

/-- Changes each node's kind and attributes and keeps the shape. -/
def map (f : Kind → Markup.Attributes → Kind × Markup.Attributes) : Node → Node
  | .mk kind attrs cs => .mk (f kind attrs).1 (f kind attrs).2 (mapAll f cs)

def mapAll (f : Kind → Markup.Attributes → Kind × Markup.Attributes) : List Node → List Node
  | [] => []
  | n :: r => map f n :: mapAll f r

end

mutual

theorem map_map (f g : Kind → Markup.Attributes → Kind × Markup.Attributes) :
    ∀ n : Node, (n.map f).map g = n.map fun k a => g (f k a).1 (f k a).2
  | .mk kind attrs cs => by rw [map, map, map, mapAll_mapAll f g cs]

theorem mapAll_mapAll (f g : Kind → Markup.Attributes → Kind × Markup.Attributes) :
    ∀ ns : List Node, mapAll g (mapAll f ns) = mapAll (fun k a => g (f k a).1 (f k a).2) ns
  | [] => rfl
  | n :: r => by rw [mapAll, mapAll, mapAll, map_map f g n, mapAll_mapAll f g r]

end

end Node

/-! ### Page attributes -/

mutual

theorem walk_decorator :
    ∀ n : Node, walk decorator () n = ⟨(), n.map fun k a => (k, decorated k a), .continue⟩
  | .mk kind attrs cs => by
    rw [walk, decorator]
    simp only [walkAll_decorator cs]
    rfl

theorem walkAll_decorator :
    ∀ ns : List Node,
      walkAll decorator () ns = ⟨(), Node.mapAll (fun k a => (k, decorated k a)) ns, .continue⟩
  | [] => rfl
  | n :: r => by
    rw [walkAll, walk_decorator n]
    simp only [walkAll_decorator r]
    rfl

end

/-- The tour that sets page attributes changes nothing else, and sets them at every node. -/
theorem Node.decorate_eq_map (n : Node) : n.decorate = n.map fun k a => (k, decorated k a) := by
  rw [Node.decorate, walk_decorator]

/-! ### Every node -/

/-- `P` holds of the kind and the attributes of every node. -/
inductive Node.Every (P : Kind → Markup.Attributes → Prop) : Node → Prop
  | mk {kind attrs cs} (here : P kind attrs) (below : ∀ c ∈ cs, Node.Every P c) :
      Node.Every P (.mk kind attrs cs)

theorem Node.Every.mono {P Q : Kind → Markup.Attributes → Prop} (h : ∀ k a, P k a → Q k a)
    {n : Node} (hn : n.Every P) : n.Every Q := by
  induction hn with
  | mk here _ ih => exact .mk (h _ _ here) ih

/-- `R` holds between the kind of each node and the kinds of its children. -/
inductive Node.Nested (R : Kind → Kind → Prop) : Node → Prop
  | mk {kind attrs cs} (here : ∀ c ∈ cs, R kind c.kind) (below : ∀ c ∈ cs, Node.Nested R c) :
      Node.Nested R (.mk kind attrs cs)

/-- `P` holds of every construct. -/
inductive Tree.Every (P : Construct → Prop) : Tree → Prop
  | mk {c cs} (here : P c) (below : ∀ t ∈ cs, Tree.Every P t) : Tree.Every P (.mk c cs)

theorem Tree.Every.mono {P Q : Construct → Prop} (h : ∀ c, P c → Q c) {t : Tree} (ht : t.Every P) :
    t.Every Q := by
  induction ht with
  | mk here _ ih => exact .mk (h _ here) ih

theorem Tree.Every.of_children {P : Construct → Prop} {t : Tree} (h : P t.construct)
    (hcs : ∀ u ∈ t.children, u.Every P) : t.Every P := by
  obtain ⟨c, cs⟩ := t
  exact .mk h hcs

/-- `R` holds between the construct of each node and the constructs of its children. -/
inductive Tree.Nested (R : Construct → Construct → Prop) : Tree → Prop
  | mk {c cs} (here : ∀ t ∈ cs, R c t.construct) (below : ∀ t ∈ cs, Tree.Nested R t) :
      Tree.Nested R (.mk c cs)

theorem Tree.Nested.of_children {R : Construct → Construct → Prop} {t : Tree}
    (h : ∀ u ∈ t.children, R t.construct u.construct) (hcs : ∀ u ∈ t.children, u.Nested R) :
    t.Nested R := by
  obtain ⟨c, cs⟩ := t
  exact .mk h hcs

section Every

variable {P Q : Kind → Markup.Attributes → Prop}

mutual

theorem Node.Every.map {f : Kind → Markup.Attributes → Kind × Markup.Attributes}
    (hf : ∀ k a, P k a → Q (f k a).1 (f k a).2) : ∀ {n : Node}, n.Every P → (n.map f).Every Q
  | .mk kind attrs cs, h => by
    obtain ⟨here, below⟩ := h
    rw [Node.map]
    exact .mk (hf _ _ here) (mapAll_every hf below)

theorem mapAll_every {f : Kind → Markup.Attributes → Kind × Markup.Attributes}
    (hf : ∀ k a, P k a → Q (f k a).1 (f k a).2) :
    ∀ {ns : List Node}, (∀ n ∈ ns, n.Every P) → ∀ n ∈ Node.mapAll f ns, n.Every Q
  | [], _, n, hn => by simp [Node.mapAll] at hn
  | m :: r, h, n, hn => by
    rw [Node.mapAll, List.mem_cons] at hn
    rcases hn with rfl | hn
    · exact Node.Every.map hf (h m List.mem_cons_self)
    · exact mapAll_every hf (fun k hk => h k (List.mem_cons_of_mem _ hk)) n hn

end

mutual

theorem Node.Every.of_map {f : Kind → Markup.Attributes → Kind × Markup.Attributes}
    (hf : ∀ k a, Q (f k a).1 (f k a).2 → P k a) : ∀ {n : Node}, (n.map f).Every Q → n.Every P
  | .mk kind attrs cs, h => by
    rw [Node.map] at h
    obtain ⟨here, below⟩ := h
    exact .mk (hf _ _ here) (every_of_mapAll hf below)

theorem every_of_mapAll {f : Kind → Markup.Attributes → Kind × Markup.Attributes}
    (hf : ∀ k a, Q (f k a).1 (f k a).2 → P k a) :
    ∀ {ns : List Node}, (∀ n ∈ Node.mapAll f ns, n.Every Q) → ∀ n ∈ ns, n.Every P
  | [], _ => List.forall_mem_nil _
  | m :: r, h => by
    rw [Node.mapAll] at h
    obtain ⟨hm, hr⟩ := List.forall_mem_cons.1 h
    exact List.forall_mem_cons.2 ⟨Node.Every.of_map hf hm, every_of_mapAll hf hr⟩

end

end Every

end LivePages.Markdown
