import LivePages.Proofs.Markdown.Conversion
import LivePages.Proofs.Markdown.PageAttributes

/-! Attributes of nodes. However they are set, one by one or on tours, a node has none twice, and each
has the value that was set last. -/

namespace LivePages.Markdown

open Markup (Attributes)

/-! ### One node -/

namespace Node

/-- Sets attributes by one call after the other. -/
def setAttrs (calls : List (String × String)) (n : Node) : Node :=
  calls.foldl (fun n c => n.setAttr c.1 c.2) n

theorem setAttrs_mk (calls : List (String × String)) (kind : Kind) (a : Attributes)
    (cs : List Node) : setAttrs calls (.mk kind a cs) = .mk kind (Attributes.setAll calls a) cs := by
  induction calls generalizing a with
  | nil => rfl
  | cons c r ih => exact ih (a.set c.1 c.2)

theorem attrs_setAttrs (calls : List (String × String)) (n : Node) :
    (n.setAttrs calls).attrs = Attributes.setAll calls n.attrs := by
  obtain ⟨kind, a, cs⟩ := n
  rw [setAttrs_mk]
  rfl

theorem setAttr_comm_iff (n : Node) {k l : String} (hkl : k ≠ l) (v w : String) :
    (n.setAttr k v).setAttr l w = (n.setAttr l w).setAttr k v ↔
      k ∈ n.attrs.keys ∨ l ∈ n.attrs.keys := by
  obtain ⟨kind, a, cs⟩ := n
  rw [setAttr, setAttr, setAttr, setAttr, mk.injEq, attrs, Attributes.set_comm_iff hkl]
  simp

end Node

/-! ### What tours keep -/

section Tours

variable {σ : Type} {P : Kind → Attributes → Prop}

namespace Visitor

/-- Where `P` holds of a node, it holds still after every call. -/
def Preserves (visit : Visitor σ) (P : Kind → Attributes → Prop) : Prop :=
  ∀ s n e, P n.kind n.attrs → P n.kind (visit s n e).attrs

/-- The visitor does nothing to a node but set attributes. -/
def SetsOnly (visit : Visitor σ) : Prop :=
  ∀ s n e, ∃ calls, (visit s n e).attrs = (Node.setAttrs calls n).attrs

theorem SetsOnly.preserves {visit : Visitor σ} (hv : visit.SetsOnly)
    (hset : ∀ kind (a : Attributes) k v, P kind a → P kind (a.set k v)) : visit.Preserves P := by
  intro s n e h
  obtain ⟨calls, hcalls⟩ := hv s n e
  rw [hcalls, Node.attrs_setAttrs]
  clear hcalls
  generalize n.attrs = a at h
  induction calls generalizing a with
  | nil => exact h
  | cons c r ih => exact ih (a.set c.1 c.2) (hset n.kind a c.1 c.2 h)

end Visitor

variable {visit : Visitor σ}

theorem every_leave (hv : visit.Preserves P) (s : σ) {kind : Kind} {a : Attributes}
    {cs : List Node} (h : P kind a) (hcs : ∀ c ∈ cs, c.Every P) :
    (leave visit s (.mk kind a cs)).result.Every P :=
  .mk (hv s _ .exit h) hcs

mutual

theorem every_walk (hv : visit.Preserves P) :
    ∀ (n : Node) (s : σ), n.Every P → (walk visit s n).result.Every P
  | .mk kind a cs, s, h => by
    obtain ⟨here, below⟩ := h
    have entered := hv s (.mk kind a cs) .enter here
    have toured := every_walkAll hv cs (visit s (.mk kind a cs) .enter).state below
    simp only [walk]
    split
    · exact .mk entered below
    · exact every_leave hv _ entered below
    · split
      · exact .mk entered toured
      · exact every_leave hv _ entered toured

theorem every_walkAll (hv : visit.Preserves P) :
    ∀ (ns : List Node) (s : σ), (∀ n ∈ ns, n.Every P) →
      ∀ n ∈ (walkAll visit s ns).result, n.Every P
  | [], _, _ => List.forall_mem_nil _
  | m :: r, s, h => by
    obtain ⟨hm, hr⟩ := List.forall_mem_cons.1 h
    have first := every_walk hv m s hm
    have rest := every_walkAll hv r (walk visit s m).state hr
    simp only [walkAll]
    split
    · exact List.forall_mem_cons.2 ⟨first, hr⟩
    · exact List.forall_mem_cons.2 ⟨first, rest⟩

end

end Tours

theorem decorator_setsOnly : decorator.SetsOnly
  | _, n, .enter => ⟨pageAttributes n.kind, (Node.attrs_setAttrs _ n).symm⟩
  | _, _, .exit => ⟨[], rfl⟩

/-! ### Documents -/

namespace Node

theorem Every.modifyAt {P : Kind → Attributes → Prop} {f : Node → Node}
    (hf : ∀ m : Node, m.Every P → (f m).Every P) {n : Node} (h : n.Every P) (path : List Nat) :
    (n.modifyAt f path).Every P := by
  induction path generalizing n with
  | nil => exact hf n h
  | cons i path ih =>
    obtain ⟨here, below⟩ := h
    refine .mk here fun c hc => ?_
    obtain ⟨j, hj⟩ := List.mem_iff_getElem?.1 hc
    rw [List.getElem?_modify, Option.map_eq_map, Option.map_eq_some_iff] at hj
    obtain ⟨d, hd, rfl⟩ := hj
    have hevery := below d (List.mem_of_getElem? hd)
    split
    · exact ih hevery
    · exact hevery

/-- What can be made of new nodes, which have no attributes, by setting attributes at nodes and on
tours. -/
inductive IsAttributed : Node → Prop
  | new (kind : Kind) {cs : List Node} (hcs : ∀ c ∈ cs, IsAttributed c) :
      IsAttributed (.mk kind [] cs)
  | set {n : Node} (path : List Nat) (k v : String) (hn : IsAttributed n) :
      IsAttributed (n.modifyAt (setAttr k v) path)
  | toured {n : Node} {σ : Type} {visit : Visitor σ} (hv : visit.SetsOnly) (s : σ)
      (hn : IsAttributed n) : IsAttributed (walk visit s n).result

theorem IsAttributed.nodup_keys {n : Node} (h : n.IsAttributed) :
    n.Every fun _ a => a.keys.Nodup := by
  induction h with
  | new kind _ ih => exact .mk List.nodup_nil ih
  | set path k v _ ih =>
    refine ih.modifyAt (fun m hm => ?_) path
    obtain ⟨here, below⟩ := hm
    exact .mk (Attributes.nodup_keys_set here k v) below
  | toured hv s _ ih =>
    exact every_walk (hv.preserves fun _ _ k v h => Attributes.nodup_keys_set h k v) _ s ih

theorem IsBare.isAttributed {n : Node} (h : n.IsBare) : n.IsAttributed := by
  induction h with
  | mk here _ ih =>
    subst here
    exact .new _ ih

/-- Setting attributes makes the map of the calls in the order of first setting, and no way of
setting them leaves a key twice. -/
theorem attributes_are_map_of_calls :
    (∀ (calls : List (String × String)) (kind : Kind) (cs : List Node),
      ∃ a, setAttrs calls (.mk kind [] cs) = .mk kind a cs ∧
        (∀ b, Attributes.IsMapOf calls b ↔ b = a) ∧
        (∀ k v, (setAttrs calls (.mk kind [] cs)).attr? k = some v ↔
          Attributes.LastSets calls k v) ∧
        ∀ k, (setAttrs calls (.mk kind [] cs)).attr? k = none ↔ k ∉ calls.map (·.1)) ∧
    (∀ (n : Node) (k l v w : String), k ≠ l →
      ((n.setAttr k v).setAttr l w = (n.setAttr l w).setAttr k v ↔
        k ∈ n.attrs.keys ∨ l ∈ n.attrs.keys)) ∧
    (∀ t n, ofTree? t = .ok n → n.IsAttributed) ∧
    decorator.SetsOnly ∧
    ∀ n : Node, n.IsAttributed → n.Every fun _ a => a.keys.Nodup := by
  refine ⟨fun calls kind cs => ?_, fun n k l v w hkl => n.setAttr_comm_iff hkl v w,
    fun t n h => (becomes_of_convertAt h).isBare.isAttributed, decorator_setsOnly,
    fun n => IsAttributed.nodup_keys⟩
  refine ⟨Attributes.setAll calls [], setAttrs_mk calls kind [] cs,
    fun b => Attributes.isMapOf_iff, fun k v => ?_, fun k => ?_⟩
  · rw [attr?, attrs_setAttrs]
    exact ⟨Attributes.lastSets_of_get?, fun h => h.get? []⟩
  · rw [attr?, attrs_setAttrs, Attributes.get?_eq_none_iff]
    exact not_congr ((Attributes.isMapOf_setAll calls).mem_keys k)

/-- Three calls for two keys of a link, and then page attributes for the quote around it. -/
theorem attributes_are_map_of_calls_link :
    let link := setAttrs [("rel", "author"), ("class", "c"), ("rel", "me")] (.mk (.link "/a" "") [] [])
    link.attrs = [("rel", "me"), ("class", "c")] ∧
      link.attr? "rel" = some "me" ∧ link.attr? "title" = none ∧
      (link.setAttr "rel" "x").setAttr "title" "y" = (link.setAttr "title" "y").setAttr "rel" "x" ∧
      (link.setAttr "id" "x").setAttr "title" "y" ≠ (link.setAttr "title" "y").setAttr "id" "x" ∧
      (Node.mk .blockQuote [] [link]).decorate.Every fun _ a => a.keys.Nodup := by
  intro link
  obtain ⟨hcalls, hcomm, hread, hdecorator, hdistinct⟩ := attributes_are_map_of_calls
  obtain ⟨-, -, -, hattr, hnone⟩ := hcalls
    [("rel", "author"), ("class", "c"), ("rel", "me")] (.link "/a" "") []
  have hbare : (Node.mk .blockQuote [] [.mk (.link "/a" "") [] []]).IsAttributed :=
    hread (.mk .blockQuote [.mk (.link "/a" "") []]) _ rfl
  have hquote : (Node.mk .blockQuote [] [link]).IsAttributed :=
    .set [0] "rel" "me" (.set [0] "class" "c" (.set [0] "rel" "author" hbare))
  refine ⟨by decide, (hattr "rel" "me").2 ⟨[("rel", "author"), ("class", "c")], [], rfl, by decide⟩,
    (hnone "title").2 (by decide), (hcomm link "rel" "title" "x" "y" (by decide)).2 (by decide),
    fun h => ?_, hdistinct _ (.toured hdecorator () hquote)⟩
  exact absurd ((hcomm link "id" "title" "x" "y" (by decide)).1 h) (by decide)

end Node

end LivePages.Markdown
