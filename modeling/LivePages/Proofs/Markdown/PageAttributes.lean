import LivePages.Proofs.Markdown.Decoration
import LivePages.Proofs.Markup.Setting

/-! Page attributes, set in a whole document or in parts of it. Setting them is one map over the nodes
that a second time changes nothing, so what parts were done before, and in which order, does not
matter. -/

namespace LivePages.Markdown

open Markup (Attributes)

/-! ### One node -/

theorem nodup_keys_pageAttributes (k : Kind) : (Attributes.keys (pageAttributes k)).Nodup := by
  cases k <;> simp [pageAttributes, Attributes.keys]

theorem decorated_eq_setAll (k : Kind) (a : Attributes) :
    decorated k a = Attributes.setAll (pageAttributes k) a :=
  rfl

theorem decorated_decorated (k : Kind) (a : Attributes) :
    decorated k (decorated k a) = decorated k a := by
  simp only [decorated_eq_setAll, Attributes.setAll_setAll (nodup_keys_pageAttributes k)]

/-! ### Children -/

theorem modify_map {α β : Type} {f : α → β} {g : β → β} (h : ∀ a, g (f a) = f a) (l : List α)
    (i : Nat) : (l.map f).modify i g = l.map f := by
  refine List.ext_getElem? fun j => ?_
  rw [List.getElem?_modify, List.getElem?_map]
  cases l[j]? with
  | none => rfl
  | some a => by_cases hij : i = j <;> simp [hij, h]

namespace Node

theorem mapAll_eq_map (f : Kind → Attributes → Kind × Attributes) (ns : List Node) :
    mapAll f ns = ns.map (map f) := by
  induction ns with
  | nil => rfl
  | cons n r ih => rw [mapAll, ih, List.map_cons]

theorem decorate_mk (k : Kind) (a : Attributes) (cs : List Node) :
    decorate (.mk k a cs) = .mk k (decorated k a) (cs.map decorate) := by
  rw [decorate_eq_map, map, mapAll_eq_map]
  congr 1
  exact List.map_congr_left fun c _ => (decorate_eq_map c).symm

theorem kind_decorate (n : Node) : n.decorate.kind = n.kind := by
  obtain ⟨k, a, cs⟩ := n
  rw [decorate_mk]
  rfl

theorem decorate_decorate (n : Node) : n.decorate.decorate = n.decorate := by
  simp only [decorate_eq_map, map_map, decorated_decorated]

/-! ### Parts -/

theorem decorate_modifyAt (p : List Nat) (n : Node) :
    (n.modifyAt decorate p).decorate = n.decorate := by
  induction p generalizing n with
  | nil => exact decorate_decorate n
  | cons i p ih =>
    obtain ⟨k, a, cs⟩ := n
    rw [modifyAt, decorate_mk, decorate_mk, map_modify ih]

theorem modifyAt_decorate (p : List Nat) (n : Node) : n.decorate.modifyAt decorate p = n.decorate := by
  induction p generalizing n with
  | nil => exact decorate_decorate n
  | cons i p ih =>
    obtain ⟨k, a, cs⟩ := n
    rw [decorate_mk, modifyAt, modify_map ih]

theorem decorate_foldl_modifyAt (ps : List (List Nat)) (n : Node) :
    (ps.foldl (fun m p => m.modifyAt decorate p) n).decorate = n.decorate := by
  induction ps generalizing n with
  | nil => rfl
  | cons p r ih => rw [List.foldl_cons, ih, decorate_modifyAt]

theorem modifyAt_comm (p q : List Nat) (n : Node) :
    (n.modifyAt decorate p).modifyAt decorate q = (n.modifyAt decorate q).modifyAt decorate p := by
  induction p generalizing q n with
  | nil => exact (modifyAt_decorate q n).trans (decorate_modifyAt q n).symm
  | cons i p ih =>
    cases q with
    | nil => exact (decorate_modifyAt (i :: p) n).trans (modifyAt_decorate (i :: p) n).symm
    | cons j q =>
      obtain ⟨k, a, cs⟩ := n
      simp only [modifyAt]
      by_cases hij : i = j
      · subst hij
        rw [List.modify_modify_eq, List.modify_modify_eq]
        congr 2
        exact funext fun c => ih q c
      · rw [List.modify_modify_ne _ _ _ hij]

/-- Page attributes are set by a map over the nodes that changes nothing else, so that repeating and
reordering make no difference. -/
theorem decorate_is_pointwise (n : Node) :
    n.decorate = n.map (fun k a => (k, match k with
        | .link _ _ => (a.set "target" "_blank").set "rel" "noopener noreferrer"
        | .blockQuote => a.set "class" "border-start border-primary border-3 ps-2"
        | _ => a)) ∧
      (∀ a : Attributes, Attributes.IsSet [("target", "_blank"), ("rel", "noopener noreferrer")] a
        ((a.set "target" "_blank").set "rel" "noopener noreferrer")) ∧
      (∀ a : Attributes, Attributes.IsSet [("class", "border-start border-primary border-3 ps-2")] a
        (a.set "class" "border-start border-primary border-3 ps-2")) ∧
      n.decorate.decorate = n.decorate ∧
      (∀ ps : List (List Nat), (ps.foldl (fun m p => m.modifyAt decorate p) n).decorate = n.decorate) ∧
      ∀ p q, (n.modifyAt decorate p).modifyAt decorate q =
        (n.modifyAt decorate q).modifyAt decorate p := by
  refine ⟨?_, fun a => ?_, fun a => ?_, decorate_decorate n, fun ps => decorate_foldl_modifyAt ps n,
    fun p q => modifyAt_comm p q n⟩
  · rw [decorate_eq_map]
    congr 1
    funext k a
    cases k <;> rfl
  · exact Attributes.isSet_setAll (nodup_keys_pageAttributes (.link "" "")) a
  · exact Attributes.isSet_setAll (nodup_keys_pageAttributes .blockQuote) a

end Node

end LivePages.Markdown
