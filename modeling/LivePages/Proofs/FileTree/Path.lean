import Mathlib.Data.String.Basic
import LivePages.FileTree.World
import LivePages.Proofs.Result
import LivePages.Proofs.Text.Split

/-! Paths below a folder, read as the names between their slashes. A file name adds one name to the
folder's, whatever the folder's path looks like; the names in the folders of a tree are file
names. -/

namespace LivePages

namespace Path

/-- A name that something can have in its folder. -/
structure IsFileName (n : String) : Prop where
  ne_empty : n ≠ ""
  no_slash : '/' ∉ n.toList
  ne_here : n ≠ "."
  ne_above : n ≠ ".."

instance (n : String) : Decidable (IsFileName n) :=
  decidable_of_iff (n ≠ "" ∧ '/' ∉ n.toList ∧ n ≠ "." ∧ n ≠ "..")
    ⟨fun h => ⟨h.1, h.2.1, h.2.2.1, h.2.2.2⟩,
      fun h => ⟨h.ne_empty, h.no_slash, h.ne_here, h.ne_above⟩⟩

theorem names_append_slash (a b : String) : names (a ++ "/" ++ b) = names a ++ names b := by
  have hchars : (a ++ "/" ++ b).toList = a.toList ++ '/' :: b.toList := by simp
  rw [names, hchars, Text.splitOn_append_cons, List.filter_append, List.map_append]
  rfl

theorem names_of_no_slash {n : String} (hn : n ≠ "") (hslash : '/' ∉ n.toList) : names n = [n] := by
  have hempty : n.toList.isEmpty = false := by simpa using hn
  rw [names, Text.splitOn_of_not_mem hslash]
  simp [hempty]

theorem IsFileName.names_eq {n : String} (h : IsFileName n) : names n = [n] :=
  names_of_no_slash h.ne_empty h.no_slash

theorem endsOpen_iff {p : String} : endsOpen p = true ↔ ∃ q, p = q ++ "/" := by
  rw [endsOpen, decide_eq_true_eq, List.getLast?_eq_some_iff]
  constructor
  · rintro ⟨l, hl⟩
    exact ⟨String.ofList l, String.toList_inj.1 (by simp [hl])⟩
  · rintro ⟨q, rfl⟩
    exact ⟨q.toList, by simp⟩

/-- What is joined to a path adds its names to the path's. -/
theorem names_join {base p : String} (hp : isAbsolute p = false) :
    names (join base p) = names base ++ names p := by
  rw [join, hp, if_neg Bool.false_ne_true]
  by_cases hempty : base.isEmpty
  · obtain rfl : base = "" := by simpa using hempty
    rfl
  by_cases hopen : endsOpen base
  · obtain ⟨q, rfl⟩ := endsOpen_iff.1 hopen
    have hq : names (q ++ "/") = names q := by
      have hends := names_append_slash q ""
      rwa [String.append_empty, show names "" = [] from rfl, List.append_nil] at hends
    rw [if_pos (by simp [hopen]), names_append_slash, hq]
  · rw [if_neg (by simp [hempty, hopen]), names_append_slash]

theorem isAbsolute_join {base p : String} (hp : isAbsolute p = false) :
    isAbsolute (join base p) = isAbsolute base := by
  have happend : ∀ {a : String}, a ≠ "" → ∀ b, isAbsolute (a ++ b) = isAbsolute a := fun ha b => by
    rw [isAbsolute, String.toList_append, List.head?_append_of_ne_nil _ (by simpa using ha)]
    rfl
  rw [join, hp, if_neg Bool.false_ne_true]
  by_cases hempty : base = ""
  · subst hempty
    exact hp
  split
  · exact happend hempty p
  · rw [String.append_assoc]
    exact happend hempty _

theorem exists_join_eq (base p : String) : ∃ a, join base p = a ++ p := by
  rw [join]
  split
  · exact ⟨"", (String.empty_append).symm⟩
  split
  · exact ⟨base, rfl⟩
  · exact ⟨base ++ "/", rfl⟩

/-- A path that ends in a name leads to the last of its names. -/
theorem steps_append {n : String} (a : String) (hn : n ≠ "") (hslash : '/' ∉ n.toList) :
    steps (a ++ n) = names (a ++ n) := by
  have hopen : endsOpen (a ++ n) = false := by
    rw [endsOpen, String.toList_append, decide_eq_false_iff_not,
      List.getLast?_append_of_ne_nil _ (by simpa using hn)]
    exact fun h => hslash (List.mem_of_getLast? h)
  rw [steps, hopen, if_neg Bool.false_ne_true]

end Path

/-! ### Listings -/

/-- The names that a listing shows are file names. -/
def Question.ShowsFileNames : (q : Question) → q.Answer → Prop
  | .entries _, .ok listed => ∀ l ∈ listed, ∀ n, l.name = some n → Path.IsFileName n
  | _, _ => True

/-- Whatever stands in a folder of the tree has a file name. -/
def FileTree.HasFileNames (t : FileTree) : Prop :=
  ∀ place es, t.get? place = some (.folder es) → ∀ x ∈ es, Path.IsFileName x.1

section EachFolder

variable {P : List (String × FileTree) → Prop}

/-- What holds of the entries of each folder in a tree. -/
def FileTree.EachFolder (P : List (String × FileTree) → Prop) (t : FileTree) : Prop :=
  ∀ place es, t.get? place = some (.folder es) → P es

theorem FileTree.eachFolder_file (octets : List UInt8) : (FileTree.file octets).EachFolder P := by
  intro place es h
  cases place with
  | nil => cases h
  | cons n ns => cases h

theorem FileTree.eachFolder_folder {entries : List (String × FileTree)} (h : P entries)
    (hbelow : ∀ x ∈ entries, x.2.EachFolder P) : (FileTree.folder entries).EachFolder P := by
  intro place es hplace
  cases place with
  | nil =>
    cases hplace
    exact h
  | cons n ns =>
    obtain ⟨t, hentry, ht⟩ := Option.bind_eq_some_iff.1 hplace
    obtain ⟨x, hx, rfl⟩ := Option.map_eq_some_iff.1 hentry
    exact hbelow x (List.mem_of_find?_eq_some hx) ns es ht

end EachFolder

theorem FileTree.hasFileNames_file (octets : List UInt8) : (FileTree.file octets).HasFileNames :=
  eachFolder_file octets

theorem FileTree.hasFileNames_folder {entries : List (String × FileTree)}
    (h : ∀ x ∈ entries, Path.IsFileName x.1 ∧ x.2.HasFileNames) :
    (FileTree.folder entries).HasFileNames :=
  eachFolder_folder (fun x hx => (h x hx).1) fun x hx => (h x hx).2

theorem World.exists_of_find {w : World} {p : String} {t : FileTree} (h : w.find p = .ok t) :
    ∃ place, w.top.get? place = some t := by
  obtain ⟨place, -, h⟩ := bind_eq_ok_iff.1 h
  split at h
  · rename_i u hu
    cases h
    exact ⟨place, hu⟩
  · cases h

/-- The disk of such a tree lists file names. -/
theorem World.showsFileNames {w : World} (h : w.top.HasFileNames) (q : Question) :
    q.ShowsFileNames (w.disk q) := by
  cases q with
  | entries p =>
    change (Question.entries p).ShowsFileNames (w.entries p)
    cases hfind : w.find p with
    | error f =>
      rw [World.entries, hfind]
      trivial
    | ok t =>
      rw [World.entries, hfind]
      cases t with
      | file octets => trivial
      | folder es =>
        obtain ⟨place, hplace⟩ := World.exists_of_find hfind
        rintro l hl n hn
        obtain ⟨x, hx, rfl⟩ := List.mem_map.1 hl
        cases hn
        exact h place es hplace x hx
  | _ => trivial

end LivePages
