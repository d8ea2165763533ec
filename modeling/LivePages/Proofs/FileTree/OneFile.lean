import LivePages.Proofs.FileTree.Path
import LivePages.Proofs.FileTree.Writing

/-! Trees that differ in the octets of one file. Paths lead to the same places in both, folders list
the same entries, and all other files have the same texts. Writing to a file that is there makes
such a tree. -/

namespace LivePages

namespace FileTree

variable {t t' : FileTree} {place : List String}

def listing (es : List (String × FileTree)) : List Listed :=
  es.map fun e => ⟨some e.1, !e.2.isFolder⟩

/-- What a tree shows of itself: the octets of a file, the listing of a folder. -/
def shown : FileTree → List UInt8 ⊕ List Listed
  | .file octets => .inl octets
  | .folder es => .inr (listing es)

theorem isRight_shown (t : FileTree) : t.shown.isRight = t.isFolder := by
  cases t <;> rfl

theorem cases_of_map_shown {found found' : Option FileTree}
    (h : found'.map shown = found.map shown) :
    (found = none ∧ found' = none) ∨
      (∃ octets, found = some (.file octets) ∧ found' = some (.file octets)) ∨
        ∃ es es', found = some (.folder es) ∧ found' = some (.folder es') ∧
          listing es' = listing es := by
  rcases found with _ | ⟨octets | es⟩ <;> rcases found' with _ | ⟨octets' | es'⟩ <;>
    simp_all [shown]

/-- The same places are there, and the same of them are folders. -/
def SameKinds (t t' : FileTree) : Prop :=
  ∀ place, (t'.get? place).map isFolder = (t.get? place).map isFolder

theorem SameKinds.isNone (h : SameKinds t t') (place : List String) :
    (t'.get? place).isNone = (t.get? place).isNone := by
  simpa using congrArg Option.isNone (h place)

theorem exists_folder_iff_isFolder :
    (∃ es, t.get? place = some (.folder es)) ↔ (t.get? place).map isFolder = some true := by
  cases t.get? place with
  | none => simp
  | some u => cases u <;> simp [isFolder]

/-- The trees show the same, but for a file at the place that may have other octets. -/
structure SameExcept (t t' : FileTree) (place : List String) : Prop where
  file : ∃ octets, t.get? place = some (.file octets)
  file' : ∃ octets, t'.get? place = some (.file octets)
  elsewhere : ∀ other, other ≠ place → (t'.get? other).map shown = (t.get? other).map shown

theorem SameExcept.sameKinds (h : t.SameExcept t' place) : SameKinds t t' := by
  intro other
  by_cases hother : other = place
  · obtain ⟨octets, hfile⟩ := h.file
    obtain ⟨octets', hfile'⟩ := h.file'
    rw [hother, hfile, hfile']
    rfl
  · have hshown := congrArg (Option.map Sum.isRight) (h.elsewhere other hother)
    simpa only [Option.map_map, Function.comp_def, isRight_shown] using hshown

/-! ### Replacing a file -/

/-- In every folder of the tree the names are in order, each once. -/
def InOrder (t : FileTree) : Prop :=
  t.EachFolder (IsOrdered Prod.fst)

/-- Replacing an entry by one of its kind leaves the listing of the folder. -/
theorem listing_insertEntry {es : List (String × FileTree)} {n : String} {u u' : FileTree}
    (hes : IsOrdered Prod.fst es) (hu : FileTree.entry? n (.folder es) = some u)
    (hkind : u'.isFolder = u.isFolder) : listing (insertEntry n u' es) = listing es := by
  induction es with
  | nil => cases hu
  | cons e r ih =>
    obtain ⟨hfirst, hr⟩ := List.pairwise_cons.1 hes
    rw [insertEntry]
    by_cases hn : n = e.1
    · subst hn
      obtain rfl : e.2 = u := by simpa [entry?_folder] using hu
      rw [if_pos rfl, listing, listing, List.map_cons, List.map_cons, hkind]
    · have hu : FileTree.entry? n (.folder r) = some u := by
        simpa [entry?_folder, Ne.symm hn] using hu
      obtain ⟨x, hx, -⟩ := Option.map_eq_some_iff.1 hu
      obtain rfl : x.1 = n := by simpa using List.find?_some hx
      have hlt : e.1 < x.1 := hfirst x (List.mem_of_find?_eq_some hx)
      rw [if_neg hn, if_neg hlt.asymm, listing, listing, List.map_cons, List.map_cons]
      exact congrArg (List.cons _) (ih hr hu)

/-- A file of an ordered tree with other octets is all that differs. -/
theorem sameExcept_set {old : List UInt8} (ht : t.InOrder) (hfile : t.get? place = some (.file old))
    (octets : List UInt8) : t.SameExcept (set (.file octets) place t) place := by
  induction place generalizing t with
  | nil =>
    cases hfile
    refine ⟨⟨old, rfl⟩, ⟨octets, rfl⟩, fun other hother => ?_⟩
    cases other with
    | nil => exact absurd rfl hother
    | cons n ns => rfl
  | cons n ns ih =>
    cases t with
    | file bs => cases hfile
    | folder es =>
      obtain ⟨u, hentry, hu⟩ := Option.bind_eq_some_iff.1 hfile
      have hinner : ((es.find? (·.1 = n)).map (·.2)).getD (.folder []) = u := by
        rw [← entry?_folder, hentry, Option.getD_some]
      have hbelow : u.InOrder := fun below es' h =>
        ht (n :: below) es' (by rw [get?, hentry, Option.bind_some, h])
      have hsame := ih hbelow hu
      refine ⟨⟨old, hfile⟩, ⟨octets, get?_set_self _ _ _⟩, fun other hother => ?_⟩
      rw [set, hinner]
      cases other with
      | nil =>
        have hkind : (set (.file octets) ns u).isFolder = u.isFolder :=
          Option.some.inj (hsame.sameKinds [])
        exact congrArg (some ∘ Sum.inr) (listing_insertEntry (ht [] es rfl) hentry hkind)
      | cons m ms =>
        rw [get?, get?, entry?_insertEntry]
        by_cases hn : n = m
        · subst hn
          rw [if_pos rfl, hentry, Option.bind_some, Option.bind_some]
          exact hsame.elsewhere ms fun h => hother (by rw [h])
        · rw [if_neg hn]

end FileTree

/-! ### Worlds -/

namespace World

variable {w w' : World} {place : List String} {path : String}

theorem walk_congr {t t' : FileTree} (h : t.SameKinds t') (place l : List String) :
    walk t' place l = walk t place l := by
  induction l generalizing place with
  | nil => rfl
  | cons s r ih =>
    have hfolder : (∃ es, t'.get? place = some (.folder es)) ↔
        ∃ es, t.get? place = some (.folder es) := by
      rw [FileTree.exists_folder_iff_isFolder, FileTree.exists_folder_iff_isFolder, h]
    rw [walk, walk]
    split
    · rename_i es' hes'
      obtain ⟨es, hes⟩ := hfolder.1 ⟨es', hes'⟩
      rw [hes]
      dsimp only
      rw [h.isNone, ih, ih, ih]
    · rename_i hnone'
      split
      · rename_i es hes
        obtain ⟨es', hes'⟩ := hfolder.2 ⟨es, hes⟩
        exact absurd hes' (hnone' es')
      · rfl

/-- The worlds show the same, but for a file at the place that may have other octets. -/
structure SameExcept (w w' : World) (place : List String) : Prop where
  here : w'.here = w.here
  top : w.top.SameExcept w'.top place

namespace SameExcept

theorem place_eq (h : w.SameExcept w' place) (path : String) : w'.place path = w.place path := by
  rw [World.place, World.place, start, start, h.here]
  simp only [walk_congr h.top.sameKinds]

/-- Only paths that lead to the file can read another text. -/
theorem text_eq (h : w.SameExcept w' place) (hpath : w.place path ≠ .ok place) :
    w'.text path = w.text path := by
  rw [text, text, find, find, h.place_eq]
  cases hplace : w.place path with
  | error f => rfl
  | ok spot =>
    have hspot : spot ≠ place := fun h => hpath (hplace.trans (congrArg Except.ok h))
    dsimp only [bind, Except.bind]
    obtain ⟨hnone, hnone'⟩ | ⟨octets, hfile, hfile'⟩ | ⟨es, es', hfolder, hfolder', -⟩ :=
      FileTree.cases_of_map_shown (h.top.elsewhere spot hspot)
    · rw [hnone, hnone']
    · rw [hfile, hfile']
    · rw [hfolder, hfolder']
      rfl

theorem entries_eq (h : w.SameExcept w' place) (path : String) :
    w'.entries path = w.entries path := by
  rw [entries, entries, find, find, h.place_eq]
  cases w.place path with
  | error f => rfl
  | ok spot =>
    dsimp only [bind, Except.bind]
    by_cases hspot : spot = place
    · obtain ⟨octets, hfile⟩ := h.top.file
      obtain ⟨octets', hfile'⟩ := h.top.file'
      rw [hspot, hfile, hfile']
      rfl
    · obtain ⟨hnone, hnone'⟩ | ⟨octets, hfile, hfile'⟩ | ⟨es, es', hfolder, hfolder', hlisting⟩ :=
        FileTree.cases_of_map_shown (h.top.elsewhere spot hspot)
      · rw [hnone, hnone']
      · rw [hfile, hfile']
      · rw [hfolder, hfolder']
        exact congrArg Except.ok hlisting

end SameExcept

theorem place_eq_of_slot {folder spot : List String} {name : String}
    (hslot : w.slot path = .ok (folder, name)) (hopen : Path.endsOpen path = false)
    (h : w.place path = .ok spot) : spot = folder ++ [name] := by
  obtain ⟨-, hnames, hwalk, hdot, hup, -⟩ := slot_eq_ok hslot
  have hsteps := (place_eq_ok_iff.1 h).2
  rw [Path.steps, hopen, if_neg Bool.false_ne_true, ← hnames, walk_append,
    (walk_append_dot hwalk).1] at hsteps
  exact walk_of_names (List.forall_mem_singleton.2 ⟨hdot, hup⟩) hsteps

/-- Writing to a file that is there changes its octets alone. -/
theorem sameExcept_of_write {old octets : List UInt8} (hw : w.top.InOrder)
    (hplace : w.place path = .ok place) (hfile : w.top.get? place = some (.file old))
    (hwrite : w.write path octets = .ok w') : w.SameExcept w' place := by
  obtain ⟨folder, name, hslot, hopen, -, rfl⟩ := write_eq_ok_iff.1 hwrite
  obtain rfl := place_eq_of_slot hslot hopen hplace
  exact ⟨rfl, FileTree.sameExcept_set hw hfile octets⟩

end World

end LivePages
