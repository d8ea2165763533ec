import Mathlib.Data.List.Induction
import LivePages.Json.Record
import LivePages.Proofs.Edition.Ordered

/-! Records that are written field by field and read again. An object of named fields gives each
name what was last written under it, whatever the order of writing. -/

namespace LivePages.Json

theorem Fields.insert_eq (k : String) (v : Json) (fs : Fields) :
    fs.insert k v = insertNamed Prod.fst (k, v) fs := by
  induction fs with
  | nil => rfl
  | cons f r ih => rw [Fields.insert, insertNamed, ih]

theorem Fields.get?_insert (k : String) (v : Json) (fs : Fields) (n : String) :
    (fs.insert k v).get? n = if k = n then some v else fs.get? n := by
  rw [Fields.get?, Fields.insert_eq, find?_insertNamed, apply_ite (Option.map _)]
  rfl

theorem Fields.ofList_concat (l : List (String × Json)) (f : String × Json) :
    Fields.ofList (l ++ [f]) = (Fields.ofList l).insert f.1 f.2 :=
  List.foldl_concat ..

/-- The last field of a name counts. -/
theorem Fields.get?_ofList (l : List (String × Json)) (n : String) :
    (Fields.ofList l).get? n = (l.reverse.find? (·.1 = n)).map (·.2) := by
  induction l using List.reverseRecOn with
  | nil => rfl
  | append_singleton l f ih =>
    rw [Fields.ofList_concat, Fields.get?_insert, List.reverse_concat, List.find?_cons]
    by_cases hf : f.1 = n
    · simp [hf]
    · simpa [hf] using ih

/-- The fields of a record that was written as an object. -/
theorem record?_ofFields (names : List String) (l : List (String × Json)) :
    (ofFields l).record? names =
      some (names.map fun n => (l.reverse.find? (·.1 = n)).map (·.2)) := by
  simp only [ofFields, record?, Fields.get?_ofList]

/-- A list of what can be read back can be read back. -/
theorem list?_map {α : Type} {read? : Json → Option α} {write : α → Json}
    (h : ∀ a, read? (write a) = some a) (l : List α) : list? read? (.arr (l.map write)) = some l := by
  rw [list?]
  induction l with
  | nil => rfl
  | cons a r ih => rw [List.map_cons, List.mapM_cons, h a, ih]; rfl

/-! ### Records in a value -/

/-- Where the fields of a record stand: under their names in an object, in the order of the names in
a list, which may end early. -/
inductive IsRecord (names : List String) : Json → (String → Option Json) → Prop
  | object (fields : Fields) : IsRecord names (.obj fields) fields.get?
  | list (items : List Json) (h : items.length ≤ names.length) :
      IsRecord names (.arr items) fun n => items[names.idxOf n]?

variable {names : List String} {v : Json} {field : String → Option Json}

theorem IsRecord.record? (h : IsRecord names v field) (hnames : names.Nodup) :
    v.record? names = some (names.map field) := by
  cases h with
  | object fields => rfl
  | list items hlength =>
    rw [Json.record?, if_pos hlength, Option.some.injEq]
    refine List.ext_getElem (by simp) fun i _ hi => ?_
    have hi : i < names.length := by simpa using hi
    have hindex : names.idxOf names[i] = i := hnames.idxOf_getElem i hi
    simp [hindex]

theorem exists_isRecord {values : List (Option Json)} (h : v.record? names = some values) :
    ∃ field, IsRecord names v field := by
  cases v with
  | obj fields => exact ⟨_, .object fields⟩
  | arr items =>
    rw [record?] at h
    split at h
    · exact ⟨_, .list items (by assumption)⟩
    · cases h
  | null => cases h
  | bool b => cases h
  | int i => cases h
  | float x => cases h
  | str s => cases h

/-- A part of a record that is a record of one field, of which `R` says `a`; a missing part or field
stands for the default. -/
inductive InRecord {α : Type} (name : String) (R : Json → α → Prop) (default : α) :
    Option Json → α → Prop
  | missing : InRecord name R default none default
  | without {v : Json} {field : String → Option Json} (hv : IsRecord [name] v field)
      (hfield : field name = none) : InRecord name R default (some v) default
  | found {v w : Json} {field : String → Option Json} {a : α} (hv : IsRecord [name] v field)
      (hfield : field name = some w) (hw : R w a) : InRecord name R default (some v) a

theorem orDefault_inRecord_iff {α : Type} {name : String} {read? : Json → Option α}
    {R : Json → α → Prop} {default a : α} {x : Option Json}
    (hread : ∀ w b, read? w = some b ↔ R w b) :
    orDefault (fun v => match v.record? [name] with
        | some [y] => orDefault read? default y
        | _ => none) default x = some a ↔ InRecord name R default x a := by
  constructor
  · intro h
    cases x with
    | none => cases h; exact .missing
    | some v =>
      rw [orDefault] at h
      cases hrecord : v.record? [name] with
      | none => rw [hrecord] at h; cases h
      | some values =>
        obtain ⟨field, hv⟩ := exists_isRecord hrecord
        rw [hv.record? (List.nodup_singleton name)] at h
        cases hfield : field name with
        | none =>
          simp only [List.map_cons, List.map_nil, hfield] at h
          cases h
          exact .without hv hfield
        | some w =>
          simp only [List.map_cons, List.map_nil, hfield] at h
          exact .found hv hfield ((hread w a).1 h)
  · rintro (_ | ⟨hv, hfield⟩ | ⟨hv, hfield, hw⟩)
    · rfl
    · rw [orDefault, hv.record? (List.nodup_singleton name)]
      simp only [List.map_cons, List.map_nil, hfield]
      rfl
    · rw [orDefault, hv.record? (List.nodup_singleton name)]
      simp only [List.map_cons, List.map_nil, hfield]
      exact (hread _ a).2 hw

/-- A list is read when all its items are. -/
theorem list?_eq_some_iff {α : Type} {read? : Json → Option α} {l : List α} :
    list? read? v = some l ↔
      ∃ items, v = .arr items ∧ List.Forall₂ (fun w a => read? w = some a) items l := by
  cases v with
  | arr items =>
    simp only [list?, arr.injEq, exists_eq_left']
    induction items generalizing l with
    | nil => cases l <;> simp
    | cons w r ih =>
      rw [List.mapM_cons]
      cases hw : read? w with
      | none => cases l <;> simp [hw]
      | some a =>
        cases l with
        | nil => simp [Option.bind_eq_some_iff]
        | cons b t =>
          rw [List.forall₂_cons, hw, Option.some.injEq, ← ih]
          simp [Option.bind_eq_some_iff, and_comm]
  | null => simp [list?]
  | bool b => simp [list?]
  | int i => simp [list?]
  | float x => simp [list?]
  | str s => simp [list?]
  | obj fields => simp [list?]

end LivePages.Json
