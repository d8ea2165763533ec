/-!
Attribute lists: pairs in the order in which their keys were first set. Setting a key again
replaces its value in place, so no key ever comes twice.
-/

namespace LivePages.Markup

abbrev Attributes := List (String × String)

namespace Attributes

def set (k v : String) : Attributes → Attributes
  | [] => [(k, v)]
  | (k', v') :: r => if k' = k then (k', v) :: r else (k', v') :: set k v r

def get? (k : String) : Attributes → Option String
  | [] => none
  | (k', v') :: r => if k' = k then some v' else get? k r

def keys (a : Attributes) : List String :=
  a.map (·.1)

@[simp] theorem get?_set_self (k v : String) (a : Attributes) : (a.set k v).get? k = some v := by
  induction a with
  | nil => simp [set, get?]
  | cons p r ih =>
    obtain ⟨k', v'⟩ := p
    by_cases h : k' = k <;> simp [set, get?, h, ih]

theorem get?_set_of_ne {k l : String} (v : String) (h : k ≠ l) (a : Attributes) :
    (a.set k v).get? l = a.get? l := by
  induction a with
  | nil => simp [set, get?, h]
  | cons p r ih =>
    obtain ⟨k', v'⟩ := p
    by_cases hk : k' = k
    · subst hk; simp [set, get?, h]
    · simp [set, get?, hk, ih]

theorem keys_set (k v : String) (a : Attributes) :
    (a.set k v).keys = if k ∈ a.keys then a.keys else a.keys ++ [k] := by
  induction a with
  | nil => simp [set, keys]
  | cons p r ih =>
    obtain ⟨k', v'⟩ := p
    by_cases hk : k' = k
    · simp [set, keys, hk]
    · have hk' : ¬ k = k' := fun e => hk e.symm
      simp only [keys] at ih
      by_cases hm : k ∈ r.map (·.1) <;> simp_all [set, keys]

end LivePages.Markup.Attributes
