import Mathlib.Data.List.Induction
import LivePages.Proofs.Config.Violations
import LivePages.Proofs.Edition.Contents

/-! The entries of an edition, whatever the disk answers while it is built. When no two of them share
a name, each stands for its own template and none replaces another. -/

namespace LivePages

open Config (Sources Component engineName)
open Template (Library)

/-- What is published: the layout under a name of its own, the pages and the components, each with the
template that it stands for. -/
def Config.Sources.entries (s : Sources) : List (String × String) :=
  ("base", s.layoutName) :: s.pages.map (fun n => (n, engineName "pages" n)) ++
    s.components.map fun c => (c.name, engineName "components" c.name)

theorem Config.Sources.map_fst_entries (s : Sources) :
    s.entries.map Prod.fst = "base" :: s.pages ++ s.components.map (·.name) := by
  simp [entries, Function.comp_def]

theorem Config.Sources.length_entries (s : Sources) :
    s.entries.length = 1 + s.pages.length + s.components.length := by
  simp only [entries, List.length_append, List.length_cons, List.length_map]
  omega

namespace Edition

def entry (p : Page) : String × String :=
  (p.name, p.entry)

/-- All entries of the sources are there and nothing else, and each page is found under its name. -/
structure IsFull (s : Sources) (e : Edition) : Prop where
  size : e.size = 1 + s.pages.length + s.components.length
  entries : (e.pages.map entry).Perm s.entries
  found : ∀ p ∈ e.pages, e.get? p.name = some p

variable {s : Sources} {number : Nat} {pages : List Page}

/-! ### Pages of different names -/

theorem ofPages_concat (p : Page) :
    ofPages number (pages ++ [p]) = (ofPages number pages).put p := by
  simp [ofPages]

theorem perm_ofPages (h : (pages.map Page.name).Nodup) :
    (ofPages number pages).pages.Perm pages := by
  induction pages using List.reverseRecOn with
  | nil => exact .refl _
  | append_singleton pages p ih =>
    rw [List.map_append, List.map_cons, List.map_nil, List.nodup_append_comm,
      List.singleton_append, List.nodup_cons] at h
    have hperm := ih h.2
    have hfresh : p.name ∉ (ofPages number pages).pages.map Page.name := fun hmem =>
      h.1 ((hperm.map Page.name).mem_iff.1 hmem)
    rw [ofPages_concat, put, putPage_eq]
    exact ((perm_insertNamed hfresh).trans (hperm.cons p)).trans
      (List.perm_append_singleton p pages).symm

theorem isFull_ofPages (hs : s.IsSound) (hpages : pages.map entry = s.entries) :
    IsFull s (ofPages number pages) := by
  have hnames : pages.map Page.name = "base" :: s.pages ++ s.components.map (·.name) := by
    rw [← s.map_fst_entries, ← hpages, List.map_map]
    rfl
  have hnodup : (pages.map Page.name).Nodup := hnames ▸ hs.distinct
  have hperm : (ofPages number pages).pages.Perm pages := perm_ofPages hnodup
  refine ⟨?_, hpages ▸ hperm.map entry, fun p hp => ?_⟩
  · rw [size, hperm.length_eq, ← s.length_entries, ← hpages, List.length_map]
  · have hdistinct := (hperm.map Page.name).nodup_iff.2 hnodup
    exact find?_of_unique hp fun q hq => List.inj_on_of_nodup_map hdistinct hq hp

/-! ### Whatever the disk answers -/

variable {library : Library}

theorem gives_page (base : Template.Engine) (n : String) :
    Gives (page s base n) fun p => entry p = (n, engineName "pages" n) :=
  (gives_true _).bind fun _ _ => (gives_true _).bind fun _ _ => gives_pure rfl

theorem gives_component (components : List (String × String)) (c : Component) :
    Gives (component s library components c) fun p =>
      entry p = (c.name, engineName "components" c.name) :=
  (gives_true _).bind fun _ _ => (gives_true _).bind fun _ _ => gives_pure rfl

theorem gives_found : Gives (found s library) fun pages => pages.map entry = s.entries := by
  refine (gives_true _).bind fun components _ => (gives_true _).bind fun base _ => ?_
  refine (gives_mapM (gives_page base)).bind fun pages hpages => ?_
  refine (gives_mapM (gives_component components)).bind fun alone halone => gives_pure ?_
  rw [List.map_append, List.map_cons, hpages, halone]
  rfl

/-- An edition that is built from sources that pass the check is full. -/
theorem gives_full (hs : s.IsSound) (number : Nat) :
    Gives (build s library number) (IsFull s) := by
  rw [build_eq, map_eq_pure_bind]
  exact gives_found.bind fun pages hpages => gives_pure (isFull_ofPages hs hpages)

end Edition

end LivePages
