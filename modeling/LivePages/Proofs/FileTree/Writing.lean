import Mathlib.Tactic.SplitIfs
import LivePages.FileTree.World
import LivePages.Proofs.Edition.Ordered
import LivePages.Proofs.Result

/-! Writing a file. The path leads to what was written, and everything else stands as it did: no other
file and no folder is created, changed or removed. -/

namespace LivePages

namespace FileTree

/-- The octets of a file, none for a folder. -/
def octets? : FileTree → Option (List UInt8)
  | .file bs => some bs
  | .folder _ => none

/-- What stands at a place: nothing, a folder, or a file with its octets. -/
def standing (t : FileTree) (place : List String) : Option (Option (List UInt8)) :=
  (t.get? place).map octets?

theorem exists_folder_iff {t : FileTree} {place : List String} :
    (∃ es, t.get? place = some (.folder es)) ↔ t.standing place = some none := by
  rw [standing]
  cases t.get? place with
  | none => simp
  | some u => cases u <;> simp [octets?]

theorem isSome_standing (t : FileTree) (place : List String) :
    (t.standing place).isSome = (t.get? place).isSome :=
  Option.isSome_map

theorem insertEntry_eq (name : String) (t : FileTree) (es : List (String × FileTree)) :
    insertEntry name t es = insertNamed Prod.fst (name, t) es := by
  induction es with
  | nil => rfl
  | cons e r ih => rw [insertEntry, insertNamed, ih]

theorem entry?_folder (name : String) (es : List (String × FileTree)) :
    FileTree.entry? name (.folder es) = (es.find? (·.1 = name)).map (·.2) :=
  rfl

theorem entry?_insertEntry (name : String) (t : FileTree) (es : List (String × FileTree))
    (n : String) :
    FileTree.entry? n (.folder (insertEntry name t es)) =
      if name = n then some t else FileTree.entry? n (.folder es) := by
  rw [entry?_folder, entry?_folder, insertEntry_eq, find?_insertNamed, apply_ite (Option.map _)]
  rfl

theorem get?_set_self (t : FileTree) : ∀ (place : List String) (top : FileTree),
    (set t place top).get? place = some t
  | [], _ => rfl
  | n :: ns, .folder es => by
    rw [set, get?, entry?_insertEntry, if_pos rfl]
    exact get?_set_self t ns _
  | n :: ns, .file bs => by
    rw [set, get?, entry?_folder, List.find?_cons]
    simpa using get?_set_self t ns (.folder [])

theorem get?_of_not_folder {t : FileTree} (h : ∀ es, t ≠ .folder es) (n : String)
    (ns : List String) : t.get? (n :: ns) = none := by
  cases t with
  | file bs => rfl
  | folder es => exact absurd rfl (h es)

/-- What stands elsewhere when a file is put into a folder, where there is no folder of its name. -/
theorem standing_set {bs : List UInt8} {name : String} {folder place : List String} {top : FileTree}
    {es : List (String × FileTree)} (hfolder : top.get? folder = some (.folder es))
    (hslot : ∀ es', top.get? (folder ++ [name]) ≠ some (.folder es'))
    (hplace : place ≠ folder ++ [name]) :
    (set (.file bs) (folder ++ [name]) top).standing place = top.standing place := by
  induction folder generalizing top place with
  | nil =>
    cases hfolder
    cases place with
    | nil => rfl
    | cons n ns =>
      rw [standing, standing, List.nil_append, set, get?, get?, entry?_insertEntry]
      by_cases hn : name = n
      · subst hn
        -- Below the new file there is nothing, and there was nothing below what it replaces.
        cases ns with
        | nil => exact absurd rfl hplace
        | cons m ms =>
          rw [if_pos rfl, Option.bind_some, set, get?_of_not_folder (by simp)]
          cases hentry : FileTree.entry? name (.folder es) with
          | none => rfl
          | some u =>
            have hu : ∀ es', u ≠ .folder es' := by
              rintro es' rfl
              exact hslot es' (by rw [List.nil_append, get?, hentry]; rfl)
            rw [Option.bind_some, get?_of_not_folder hu]
      · rw [if_neg hn]
  | cons m ms ih =>
    cases top with
    | file octets => cases hfolder
    | folder es₀ =>
      rw [get?] at hfolder
      obtain ⟨u, hentry, hu⟩ := Option.bind_eq_some_iff.1 hfolder
      cases place with
      | nil => rfl
      | cons n ns =>
        rw [standing, standing, List.cons_append, set, get?, get?, entry?_insertEntry]
        by_cases hn : m = n
        · subst hn
          have hinner : ((es₀.find? (·.1 = m)).map (·.2)).getD (.folder []) = u := by
            rw [← entry?_folder, hentry, Option.getD_some]
          rw [if_pos rfl, hentry, hinner]
          refine ih hu (fun es' h => hslot es' ?_) (fun h => hplace (by rw [h, List.cons_append]))
          rw [List.cons_append, get?, hentry, Option.bind_some, h]
        · rw [if_neg hn]

end FileTree

/-! ### Ways through a tree -/

namespace World

variable {t t' : FileTree} {place goal : List String}

theorem walk_append {a b : List String} :
    walk t place (a ++ b) = (walk t place a).bind fun p => walk t p b := by
  induction a generalizing place with
  | nil => rfl
  | cons s r ih =>
    rw [List.cons_append, walk, walk]
    split
    · split_ifs
      · exact ih
      · exact ih
      · rfl
      · rfl
      · exact ih
    · rfl

theorem walk_append_eq_ok_iff {a b : List String} : walk t place (a ++ b) = .ok goal ↔
    ∃ way, walk t place a = .ok way ∧ walk t way b = .ok goal := by
  rw [walk_append]
  exact bind_eq_ok_iff

theorem place_eq_ok_iff {w : World} {path : String} : w.place path = .ok goal ↔
    checkPath path = .ok () ∧ walk w.top (w.start path) (Path.steps path) = .ok goal := by
  rw [World.place, bind_eq_ok_iff]
  exact ⟨fun ⟨_, hcheck, hwalk⟩ => ⟨hcheck, hwalk⟩, fun ⟨hcheck, hwalk⟩ => ⟨(), hcheck, hwalk⟩⟩

/-- What stands in one tree stands in the other, folders as folders. -/
structure Extends (t t' : FileTree) : Prop where
  folder : ∀ place es, t.get? place = some (.folder es) → ∃ es', t'.get? place = some (.folder es')
  isSome : ∀ place, (t.get? place).isSome → (t'.get? place).isSome

/-- A way through a tree leads to the same place in one that has more. -/
theorem walk_of_extends (h : Extends t t') {l : List String} (hwalk : walk t place l = .ok goal) :
    walk t' place l = .ok goal := by
  induction l generalizing place with
  | nil => exact hwalk
  | cons s r ih =>
    rw [walk] at hwalk ⊢
    split at hwalk
    · rename_i es hes
      obtain ⟨es', hes'⟩ := h.folder place es hes
      rw [hes']
      dsimp only
      split_ifs at hwalk with hdot hup hlong hmissing
      · rw [if_pos hdot]
        exact ih hwalk
      · rw [if_neg hdot, if_pos hup]
        exact ih hwalk
      · have hthere : ¬ (t'.get? (place ++ [s])).isNone := by
          have := h.isSome (place ++ [s]) (by simpa [Option.isSome_iff_ne_none] using hmissing)
          simpa [Option.isSome_iff_ne_none] using this
        rw [if_neg hdot, if_neg hup, if_neg hlong, if_neg hthere]
        exact ih hwalk
    · cases hwalk

/-- After a last step `.` the way stands in a folder. -/
theorem walk_append_dot {l : List String} (h : walk t place (l ++ ["."]) = .ok goal) :
    walk t place l = .ok goal ∧ ∃ es, t.get? goal = some (.folder es) := by
  obtain ⟨way, hl, h⟩ := walk_append_eq_ok_iff.1 h
  rw [walk] at h
  split at h
  · rename_i es hes
    rw [if_pos rfl, walk] at h
    cases h
    exact ⟨hl, es, hes⟩
  · cases h

/-- Steps by name lead down. -/
theorem walk_of_names {l : List String} (hnames : ∀ n ∈ l, n ≠ "." ∧ n ≠ "..")
    (h : walk t place l = .ok goal) : goal = place ++ l := by
  induction l generalizing place with
  | nil =>
    cases h
    exact (List.append_nil _).symm
  | cons n r ih =>
    obtain ⟨⟨hdot, hup⟩, hr⟩ := List.forall_mem_cons.1 hnames
    rw [walk, if_neg hdot, if_neg hup] at h
    split at h
    · split_ifs at h
      rw [ih hr h, List.append_assoc, List.singleton_append]
    · cases h

/-- One more step, by name, from a folder. -/
theorem walk_singleton {s : String} {es : List (String × FileTree)}
    (hfolder : t.get? place = some (.folder es)) (hdot : s ≠ ".") (hup : s ≠ "..")
    (hlong : ¬ nameLimit < Path.octetCount s) (hthere : (t.get? (place ++ [s])).isSome) :
    walk t place [s] = .ok (place ++ [s]) := by
  rw [walk, hfolder]
  dsimp only
  rw [if_neg hdot, if_neg hup, if_neg hlong, if_neg, walk]
  rw [Option.isNone_iff_eq_none]
  exact Option.isSome_iff_ne_none.1 hthere

/-! ### Writing -/

/-- The path leads to a file with these octets, and what else stood in the tree, and nothing else,
stands there still. -/
structure Wrote (w w' : World) (path : String) (octets : List UInt8) : Prop where
  find : w'.find path = .ok (.file octets)
  elsewhere : ∃ place, w'.place path = .ok place ∧
    ∀ other, other ≠ place → w'.top.standing other = w.top.standing other
  here : w'.here = w.here

variable {w w' : World} {path name : String} {folder : List String} {octets : List UInt8}

theorem slot_eq_ok (h : w.slot path = .ok (folder, name)) :
    checkPath path = .ok () ∧ (Path.names path).dropLast ++ [name] = Path.names path ∧
      walk w.top (w.start path) ((Path.names path).dropLast ++ ["."]) = .ok folder ∧
      name ≠ "." ∧ name ≠ ".." ∧ ¬ nameLimit < Path.octetCount name := by
  obtain ⟨u, hcheck, h⟩ := bind_eq_ok_iff.1 h
  split at h
  · cases h
  rename_i last hlast
  obtain ⟨found, hwalk, h⟩ := bind_eq_ok_iff.1 h
  split_ifs at h with hdots hlong
  cases h
  simp only [Bool.or_eq_true, decide_eq_true_eq, not_or] at hdots
  exact ⟨hcheck, List.dropLast_append_getLast? _ hlast, hwalk, hdots.1, hdots.2, hlong⟩

/-- The path leads into a folder that is there, by a name that no folder has. -/
def CanWrite (w : World) (path : String) : Prop :=
  ∃ folder name, w.slot path = .ok (folder, name) ∧ Path.endsOpen path = false ∧
    ∀ es, w.top.get? (folder ++ [name]) ≠ some (.folder es)

theorem write_eq_ok_iff : w.write path octets = .ok w' ↔ ∃ folder name,
    w.slot path = .ok (folder, name) ∧ Path.endsOpen path = false ∧
      (∀ es, w.top.get? (folder ++ [name]) ≠ some (.folder es)) ∧
      w' = w.put (folder ++ [name]) (.file octets) := by
  have hfolder : ∀ t : Option FileTree,
      t.any FileTree.isFolder = false ↔ ∀ es, t ≠ some (.folder es) := by
    intro t
    cases t with
    | none => simp
    | some u => cases u <;> simp [FileTree.isFolder]
  rw [write, bind_eq_ok_iff]
  constructor
  · rintro ⟨⟨folder, name⟩, hslot, h⟩
    dsimp only at h
    split_ifs at h with hopen
    cases h
    simp only [Bool.or_eq_true, not_or, Bool.not_eq_true, hfolder] at hopen
    exact ⟨folder, name, hslot, hopen.1, hopen.2, rfl⟩
  · rintro ⟨folder, name, hslot, hopen, hnone, rfl⟩
    refine ⟨(folder, name), hslot, ?_⟩
    dsimp only
    rw [hopen, (hfolder _).2 hnone]
    rfl

/-- Whether a file can be written does not depend on what is written. -/
theorem exists_write_iff : (∃ w', w.write path octets = .ok w') ↔ w.CanWrite path := by
  simp only [write_eq_ok_iff, CanWrite]
  constructor
  · rintro ⟨_, folder, name, hslot, hopen, hnone, -⟩
    exact ⟨folder, name, hslot, hopen, hnone⟩
  · rintro ⟨folder, name, hslot, hopen, hnone⟩
    exact ⟨_, folder, name, hslot, hopen, hnone, rfl⟩

/-- A tree with a new file, or another file in the place of one, has all that it had. -/
theorem extends_set {es : List (String × FileTree)} (hfolder : t.get? folder = some (.folder es))
    (hslot : ∀ es', t.get? (folder ++ [name]) ≠ some (.folder es')) (octets : List UInt8) :
    Extends t (FileTree.set (.file octets) (folder ++ [name]) t) := by
  refine ⟨fun place es' hes' => ?_, fun place hplace => ?_⟩
  · have hother : place ≠ folder ++ [name] := fun h => hslot es' (h ▸ hes')
    rw [FileTree.exists_folder_iff, FileTree.standing_set hfolder hslot hother]
    exact FileTree.exists_folder_iff.1 ⟨es', hes'⟩
  · by_cases hother : place = folder ++ [name]
    · rw [hother, FileTree.get?_set_self]
      rfl
    · rw [← FileTree.isSome_standing, FileTree.standing_set hfolder hslot hother,
        FileTree.isSome_standing]
      exact hplace

theorem wrote_of_write (h : w.write path octets = .ok w') : w.Wrote w' path octets := by
  obtain ⟨folder, name, hslot, hopen, hnofolder, hput⟩ := write_eq_ok_iff.1 h
  obtain ⟨hcheck, hnames, hwalk, hdot, hup, hlong⟩ := slot_eq_ok hslot
  obtain ⟨hway, es, hfolder⟩ := walk_append_dot hwalk
  have htop : w'.top = FileTree.set (.file octets) (folder ++ [name]) w.top := by rw [hput]; rfl
  have hextends : Extends w.top w'.top := htop ▸ extends_set hfolder hnofolder octets
  have hnew : w'.top.get? (folder ++ [name]) = some (.file octets) :=
    htop ▸ FileTree.get?_set_self _ _ _
  have hstart : w'.start path = w.start path := by rw [hput]; rfl
  have hplace : w'.place path = .ok (folder ++ [name]) := by
    obtain ⟨es', hfolder'⟩ := hextends.folder folder es hfolder
    refine place_eq_ok_iff.2 ⟨hcheck, ?_⟩
    rw [hstart, Path.steps, hopen, if_neg Bool.false_ne_true, ← hnames]
    exact walk_append_eq_ok_iff.2 ⟨folder, walk_of_extends hextends hway,
      walk_singleton hfolder' hdot hup hlong (hnew ▸ rfl)⟩
  refine ⟨?_, ⟨_, hplace, fun other hother => ?_⟩, by rw [hput]; rfl⟩
  · exact bind_eq_ok_iff.2 ⟨_, hplace, by rw [hnew]; rfl⟩
  · rw [htop]
    exact FileTree.standing_set hfolder hnofolder hother

end World

end LivePages
