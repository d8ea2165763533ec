import Mathlib.Data.List.Basic
import Mathlib.Data.List.Induction
import Mathlib.Tactic.SplitIfs
import LivePages.Markup.Attributes

/-! Setting attributes, one or several. What was there under other keys keeps its value and its
place, and keys that are new come at the end. -/

namespace LivePages.Markup.Attributes

variable {a : Attributes} {k v : String}

theorem getElem?_set_of_ne {i : Nat} {p : String × String} (h : a[i]? = some p) (hne : p.1 ≠ k) :
    (a.set k v)[i]? = some p := by
  induction a generalizing i with
  | nil => simp at h
  | cons q r ih =>
    obtain ⟨k', v'⟩ := q
    rw [set]
    split
    · rename_i hk
      cases i with
      | zero =>
        rw [List.getElem?_cons_zero, Option.some.injEq] at h
        exact absurd (h ▸ hk) hne
      | succ i => simpa using h
    · cases i with
      | zero => simpa using h
      | succ i =>
        rw [List.getElem?_cons_succ] at h ⊢
        exact ih h

/-- Setting what is there already changes nothing. -/
theorem set_of_get? (h : a.get? k = some v) : a.set k v = a := by
  induction a with
  | nil => cases h
  | cons q r ih =>
    obtain ⟨k', v'⟩ := q
    rw [get?] at h
    rw [set]
    by_cases hk : k' = k
    · rw [if_pos hk] at h ⊢
      rw [Option.some.inj h]
    · rw [if_neg hk] at h ⊢
      rw [ih h]

/-! ### Several attributes -/

/-- Sets the attributes `l` one after the other. -/
def setAll (l a : Attributes) : Attributes :=
  l.foldl (fun a p => a.set p.1 p.2) a

/-- How `b` comes from `a` by setting `l`: these are there, all others where they were, and the new
keys at the end. -/
structure IsSet (l a b : Attributes) : Prop where
  get?_eq : ∀ p ∈ l, b.get? p.1 = some p.2
  kept : ∀ (i : Nat) p, a[i]? = some p → p.1 ∉ l.keys → b[i]? = some p
  keys_eq : b.keys = a.keys ++ l.keys.filter (· ∉ a.keys)

variable {l : Attributes}

theorem keys_cons (p : String × String) (a : Attributes) : keys (p :: a) = p.1 :: keys a :=
  rfl

theorem setAll_cons (p : String × String) (l a : Attributes) :
    setAll (p :: l) a = setAll l (a.set p.1 p.2) :=
  rfl

theorem getElem?_setAll {i : Nat} {p : String × String} (h : a[i]? = some p) (hne : p.1 ∉ l.keys) :
    (setAll l a)[i]? = some p := by
  induction l generalizing a with
  | nil => exact h
  | cons q r ih =>
    rw [keys_cons, List.mem_cons, not_or] at hne
    exact ih (getElem?_set_of_ne h hne.1) hne.2

theorem get?_setAll_of_not_mem {n : String} (hn : n ∉ l.keys) :
    (setAll l a).get? n = a.get? n := by
  induction l generalizing a with
  | nil => rfl
  | cons q r ih =>
    rw [keys_cons, List.mem_cons, not_or] at hn
    exact (ih hn.2).trans (get?_set_of_ne q.2 (Ne.symm hn.1) a)

theorem keys_setAll (hl : l.keys.Nodup) (a : Attributes) :
    (setAll l a).keys = a.keys ++ l.keys.filter (· ∉ a.keys) := by
  induction l generalizing a with
  | nil => exact (List.append_nil _).symm
  | cons q r ih =>
    obtain ⟨hq, hr⟩ : q.1 ∉ keys r ∧ (keys r).Nodup := List.nodup_cons.1 hl
    rw [setAll_cons, ih hr, keys_set, keys_cons, List.filter_cons]
    by_cases hmem : q.1 ∈ a.keys
    · simp [hmem]
    · have hrest : (keys r).filter (· ∉ a.keys ++ [q.1]) = (keys r).filter (· ∉ a.keys) := by
        refine List.filter_congr fun n hn => ?_
        have hother : n ≠ q.1 := fun hnq => hq (hnq ▸ hn)
        simp [hother]
      rw [if_neg hmem, hrest, List.append_assoc, if_pos (by simpa using hmem)]
      rfl

theorem isSet_setAll (hl : l.keys.Nodup) (a : Attributes) : IsSet l a (setAll l a) := by
  refine ⟨?_, fun i p => getElem?_setAll, keys_setAll hl a⟩
  induction l generalizing a with
  | nil => exact List.forall_mem_nil _
  | cons q r ih =>
    obtain ⟨hq, hr⟩ : q.1 ∉ keys r ∧ (keys r).Nodup := List.nodup_cons.1 hl
    refine List.forall_mem_cons.2 ⟨?_, ih hr _⟩
    exact (get?_setAll_of_not_mem hq).trans (get?_set_self q.1 q.2 a)

theorem setAll_eq_self (h : ∀ p ∈ l, a.get? p.1 = some p.2) : setAll l a = a := by
  induction l with
  | nil => rfl
  | cons q r ih =>
    obtain ⟨hq, hr⟩ := List.forall_mem_cons.1 h
    rw [setAll_cons, set_of_get? hq]
    exact ih hr

/-- Setting the same attributes again changes nothing. -/
theorem setAll_setAll (hl : l.keys.Nodup) (a : Attributes) : setAll l (setAll l a) = setAll l a :=
  setAll_eq_self (isSet_setAll hl a).get?_eq

/-! ### Calls one after the other -/

theorem setAll_concat (l : Attributes) (p : String × String) (a : Attributes) :
    setAll (l ++ [p]) a = (setAll l a).set p.1 p.2 :=
  List.foldl_append

theorem keys_append (a b : Attributes) : keys (a ++ b) = keys a ++ keys b :=
  List.map_append

theorem mem_keys_set {n : String} : n ∈ (a.set k v).keys ↔ n ∈ a.keys ∨ n = k := by
  rw [keys_set]
  split_ifs with hk
  · exact ⟨.inl, fun h => h.elim id fun hn => hn ▸ hk⟩
  · rw [List.mem_append, List.mem_singleton]

theorem mem_keys_setAll {n : String} : n ∈ (setAll l a).keys ↔ n ∈ a.keys ∨ n ∈ l.keys := by
  induction l generalizing a with
  | nil => simp [setAll, keys]
  | cons q r ih => rw [setAll_cons, ih, mem_keys_set, keys_cons, List.mem_cons, or_assoc]

theorem nodup_keys_set (h : a.keys.Nodup) (k v : String) : (a.set k v).keys.Nodup := by
  rw [keys_set]
  split_ifs with hk
  · exact h
  · refine List.nodup_append.2 ⟨h, List.pairwise_singleton _ k, fun n hn m hm hnm => hk ?_⟩
    rwa [← List.mem_singleton.1 hm, ← hnm]

theorem nodup_keys_setAll (h : a.keys.Nodup) (l : Attributes) : (setAll l a).keys.Nodup := by
  induction l generalizing a with
  | nil => exact h
  | cons q r ih => exact ih (nodup_keys_set h q.1 q.2)

/-- The keys of a list that was set from nothing come as they were first set. -/
theorem pairwise_keys_setAll (l : Attributes) :
    (setAll l []).keys.Pairwise fun k n => l.keys.idxOf k < l.keys.idxOf n := by
  induction l using List.reverseRecOn with
  | nil => exact List.Pairwise.nil
  | append_singleton r p ih =>
    have hmem : ∀ n ∈ (setAll r []).keys, n ∈ keys r := fun n hn => by
      simpa [keys] using mem_keys_setAll.1 hn
    have hkept : (setAll r []).keys.Pairwise fun k n =>
        (keys (r ++ [p])).idxOf k < (keys (r ++ [p])).idxOf n := by
      refine ih.imp_of_mem fun {k n} hk hn h => ?_
      rwa [keys_append, List.idxOf_append_of_mem (hmem k hk), List.idxOf_append_of_mem (hmem n hn)]
    rw [setAll_concat, keys_set]
    split_ifs with hp
    · exact hkept
    · refine List.pairwise_append.2 ⟨hkept, List.pairwise_singleton _ _, fun k hk n hn => ?_⟩
      obtain rfl := List.mem_singleton.1 hn
      have hnew : p.1 ∉ keys r := fun h => hp (mem_keys_setAll.2 (.inr h))
      rw [keys_append, List.idxOf_append_of_mem (hmem k hk), List.idxOf_append_of_notMem hnew]
      exact Nat.lt_add_right _ (List.idxOf_lt_length_of_mem (hmem k hk))

/-- In the calls `l`, the last one for `k` gives it the value `v`. -/
def LastSets (l : Attributes) (k v : String) : Prop :=
  ∃ before after, l = before ++ (k, v) :: after ∧ k ∉ keys after

theorem LastSets.get? (h : LastSets l k v) (a : Attributes) : (setAll l a).get? k = some v := by
  obtain ⟨before, after, rfl, hk⟩ := h
  rw [setAll, List.foldl_append, List.foldl_cons]
  exact (get?_setAll_of_not_mem hk).trans (get?_set_self k v _)

theorem lastSets_of_get? (h : (setAll l []).get? k = some v) : LastSets l k v := by
  induction l using List.reverseRecOn with
  | nil => cases h
  | append_singleton r p ih =>
    obtain ⟨k', v'⟩ := p
    rw [setAll_concat] at h
    by_cases hk : k' = k
    · subst hk
      rw [get?_set_self, Option.some.injEq] at h
      exact ⟨r, [], h ▸ rfl, List.not_mem_nil⟩
    · rw [get?_set_of_ne v' hk] at h
      obtain ⟨before, after, rfl, hafter⟩ := ih h
      have hlast : k ∉ keys [(k', v')] := fun h => hk (List.mem_singleton.1 h).symm
      refine ⟨before, after ++ [(k', v')], by simp, fun h => ?_⟩
      exact (List.mem_append.1 (keys_append .. ▸ h)).elim hafter hlast

theorem mem_iff_get? (h : a.keys.Nodup) : (k, v) ∈ a ↔ a.get? k = some v := by
  induction a with
  | nil => simp [get?]
  | cons q r ih =>
    obtain ⟨k', v'⟩ := q
    obtain ⟨hq, hr⟩ : k' ∉ keys r ∧ (keys r).Nodup := List.nodup_cons.1 h
    rw [get?, List.mem_cons, Prod.mk.injEq]
    split_ifs with hk
    · have hrest : (k, v) ∉ r := fun hmem => hq (hk ▸ List.mem_map_of_mem hmem)
      simp [hk, hrest, eq_comm]
    · simp [Ne.symm hk, ih hr]

theorem get?_eq_none_iff : a.get? k = none ↔ k ∉ a.keys := by
  induction a with
  | nil => simp [get?, keys]
  | cons q r ih =>
    obtain ⟨k', v'⟩ := q
    rw [get?, keys_cons, List.mem_cons, not_or, ← ih]
    split_ifs with hk
    · simp [hk]
    · simp [Ne.symm hk]

/-- The map that the calls `l` make, with the keys in the order in which they were first set. -/
structure IsMapOf (l a : Attributes) : Prop where
  nodup : a.keys.Nodup
  mem_keys : ∀ k, k ∈ a.keys ↔ k ∈ l.keys
  ordered : a.keys.Pairwise fun k n => l.keys.idxOf k < l.keys.idxOf n
  last : ∀ k v, (k, v) ∈ a → LastSets l k v

theorem isMapOf_setAll (l : Attributes) : IsMapOf l (setAll l []) := by
  have hnodup : (setAll l []).keys.Nodup := nodup_keys_setAll (a := []) List.nodup_nil l
  refine ⟨hnodup, fun k => ?_, pairwise_keys_setAll l, fun k v h => ?_⟩
  · simpa [keys] using mem_keys_setAll (l := l) (a := [])
  · exact lastSets_of_get? ((mem_iff_get? hnodup).1 h)

theorem eq_map_keys {b : Attributes} (h : ∀ k v, (k, v) ∈ a → b.get? k = some v) :
    a = a.keys.map fun k => (k, (b.get? k).getD "") := by
  rw [keys, List.map_map]
  refine (List.map_id a).symm.trans (List.map_congr_left fun p hp => ?_)
  simp [h p.1 p.2 hp]

/-- There is one such map. -/
theorem isMapOf_iff : IsMapOf l a ↔ a = setAll l [] := by
  constructor
  · intro h
    have hs := isMapOf_setAll l
    have hkeys : a.keys = (setAll l []).keys := by
      refine List.Perm.eq_of_pairwise (fun k n _ _ hkn hnk => absurd hkn (Nat.lt_asymm hnk)) h.ordered
        hs.ordered ((List.perm_ext_iff_of_nodup h.nodup hs.nodup).2 fun k => ?_)
      rw [h.mem_keys, hs.mem_keys]
    rw [eq_map_keys fun k v hkv => (h.last k v hkv).get? [], hkeys]
    exact (eq_map_keys fun k v hkv => (hs.last k v hkv).get? []).symm
  · rintro rfl
    exact isMapOf_setAll l

/-! ### Order of calls -/

theorem set_of_not_mem (h : k ∉ a.keys) (v : String) : a.set k v = a ++ [(k, v)] := by
  induction a with
  | nil => rfl
  | cons q r ih =>
    obtain ⟨k', v'⟩ := q
    rw [keys_cons, List.mem_cons, not_or] at h
    rw [set, if_neg (Ne.symm h.1), ih h.2, List.cons_append]

/-- Two settings come to the same in either order when one of the keys is there already. Otherwise the
keys are in the order of setting. -/
theorem set_comm_iff {n : String} (hkn : k ≠ n) (v w : String) :
    (a.set k v).set n w = (a.set n w).set k v ↔ k ∈ a.keys ∨ n ∈ a.keys := by
  constructor
  · intro h
    by_contra hmem
    obtain ⟨hk, hn⟩ := not_or.1 hmem
    have hk' : k ∉ (a.set n w).keys := by simp [mem_keys_set, hk, hkn]
    have hn' : n ∉ (a.set k v).keys := by simp [mem_keys_set, hn, hkn.symm]
    rw [set_of_not_mem hn', set_of_not_mem hk', set_of_not_mem hk, set_of_not_mem hn,
      List.append_assoc, List.append_assoc, List.append_cancel_left_eq] at h
    exact hkn (congrArg Prod.fst (List.cons.inj h).1)
  · intro h
    induction a with
    | nil => simp [keys] at h
    | cons q r ih =>
      obtain ⟨k', v'⟩ := q
      by_cases hk : k' = k
      · subst hk
        simp [set, hkn]
      · by_cases hn : k' = n
        · subst hn
          simp [set, hk]
        · have hr : k ∈ keys r ∨ n ∈ keys r := by
            simpa [keys_cons, Ne.symm hk, Ne.symm hn] using h
          simp [set, hk, hn, ih hr]

end LivePages.Markup.Attributes
