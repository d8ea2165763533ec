import LivePages.Proofs.Edition.Confinement
import LivePages.Proofs.FileTree.OneFile

/-! What an edit of one file reaches. A page of an edition depends on the texts of its own templates
alone, so it stays unless one of them is read from that file. The template of a page is in no other
entry. Its file can be, under a name that leads there, but not under a name that has been checked. -/

namespace LivePages

open Config (Sources engineName)

/-- One of the page's templates is read from the place. -/
def Page.ReadsFrom (p : Page) (s : Sources) (w : World) (place : List String) : Prop :=
  ∃ m ∈ p.templates, w.place (s.path m) = .ok place

namespace Edition

open Template (Library)

variable {s : Sources} {library : Library} {d d' : Disk} {listed : List Listed} {number number' : Nat}
  {ed ed' : Edition} {n : String} {p : Page}

/-! ### Templates of an entry -/

/-- Every template of an entry stands in one of the three folders, and only a page's own one among
the pages. -/
theorem folder_of_templates {m : String} (h : (entryOf s listed n).templates m) :
    (∃ name, m = engineName Config.layoutFolder name) ∨
      (∃ name, m = engineName Config.componentsFolder name) ∨
        m = engineName Config.pagesFolder n ∧ m = (entryOf s listed n).own := by
  have hbase : InBase s listed m → (∃ name, m = engineName Config.layoutFolder name) ∨
      ∃ name, m = engineName Config.componentsFolder name := by
    rintro (hlayout | ⟨l, -, stem, -, -, -, hstem⟩)
    · exact .inl ⟨_, hlayout⟩
    · exact .inr ⟨stem, hstem⟩
  unfold entryOf at h ⊢
  split at h
  · rcases h with h | ⟨r, -, h⟩
    · exact .inr (.inl ⟨_, h⟩)
    · exact .inr (.inl ⟨_, h⟩)
  split at h
  · rename_i hn
    rcases h with h | h
    · exact (hbase h).imp_right .inl
    · rw [if_pos hn]
      exact .inr (.inr ⟨h, h⟩)
  · exact (hbase h).imp_right .inl

theorem head?_engineName {folder : String} {c : Char} (h : folder.toList.head? = some c)
    (name : String) : (engineName folder name).toList.head? = some c := by
  simp only [engineName, String.toList_append, List.head?_append, h, Option.some_or]

/-- The own template of a page is in no entry that it does not belong to. -/
theorem not_templates {page : String}
    (hpage : (entryOf s listed n).own ≠ engineName Config.pagesFolder page) :
    ¬ (entryOf s listed n).templates (engineName Config.pagesFolder page) := by
  intro h
  have hp : (engineName Config.pagesFolder page).toList.head? = some 'p' := head?_engineName rfl page
  rcases folder_of_templates h with ⟨name, hname⟩ | ⟨name, hname⟩ | ⟨-, hown⟩
  · have hl : (engineName Config.layoutFolder name).toList.head? = some 'l' :=
      head?_engineName rfl name
    rw [← hname, hp] at hl
    cases hl
  · have hc : (engineName Config.componentsFolder name).toList.head? = some 'c' :=
      head?_engineName rfl name
    rw [← hname, hp] at hc
    cases hc
  · exact hpage hown.symm

/-! ### Files of checked names -/

/-- Templates of sources that pass the check are files in the folders, when listings show file
names. -/
theorem isFileIn_of_templates (hcheck : s.check = .ok ())
    (hlisted : ∀ l ∈ listed, ∀ name, l.name = some name → Path.IsFileName name) {m : String}
    (h : (entryOf s listed n).templates m) :
    ∃ folder file, m = folder ++ "/" ++ file ∧ s.IsFileIn folder file (s.path m) := by
  have hused : ∀ folder ∈ ["layout", "pages", "components"], ∀ name, s.Uses name →
      m = engineName folder name →
      ∃ folder file, m = folder ++ "/" ++ file ∧ s.IsFileIn folder file (s.path m) := by
    rintro folder hfolder name hname rfl
    have hslash := Config.no_slash_of_isName (Sources.isName_of_check hcheck hname)
    exact ⟨folder, _, engineName_eq folder name, isFileIn_engineName hfolder hslash⟩
  have hbase : InBase s listed m →
      ∃ folder file, m = folder ++ "/" ++ file ∧ s.IsFileIn folder file (s.path m) := by
    rintro (hlayout | ⟨l, hl, stem, -, hstem, -, rfl⟩)
    · exact hused _ (by decide) _ (.inl rfl) hlayout
    · rw [engineName_eq]
      exact ⟨_, _, rfl, isFileIn (by decide) (hlisted l hl _ hstem)⟩
  unfold entryOf at h
  split at h
  · rename_i c hc
    have hmem : c ∈ s.components := List.mem_reverse.1 (List.mem_of_find?_eq_some hc)
    rcases h with h | ⟨r, hr, h⟩
    · exact hused _ (by decide) _ (.inr (.inr ⟨c, hmem, .inl rfl⟩)) h
    · exact hused _ (by decide) _ (.inr (.inr ⟨c, hmem, .inr hr⟩)) h
  split at h
  · rename_i hn
    rcases h with h | h
    · exact hbase h
    · exact hused _ (by decide) _ (.inr (.inl hn)) h
  · exact hbase h

section Places

variable {w : World} {folder folder' file file' path path' : String} {place : List String}

theorem place_of_isFileIn (h : s.IsFileIn folder file path) (hplace : w.place path = .ok place) :
    ∃ above, World.walk w.top (w.start s.root) (Path.names s.root) = .ok above ∧
      place = above ++ [folder, file] := by
  have hstart : w.start path = w.start s.root := by
    have hrelative : Path.isAbsolute (folder ++ "/" ++ file) = false := by
      rw [String.append_assoc]
      exact isAbsolute_of_mem_folders h.inFolder _
    rw [World.start, World.start, h.path_eq, Sources.path, Path.isAbsolute_join hrelative]
  have hnames : ∀ n ∈ [folder, file], n ≠ "." ∧ n ≠ ".." := by
    have hfolder : folder ≠ "." ∧ folder ≠ ".." := by
      constructor <;> rintro rfl <;> exact absurd h.inFolder (by decide)
    exact List.forall_mem_cons.2
      ⟨hfolder, List.forall_mem_singleton.2 ⟨h.isFileName.ne_here, h.isFileName.ne_above⟩⟩
  have hwalk := (World.place_eq_ok_iff.1 hplace).2
  rw [hstart, h.steps_eq, h.names_eq] at hwalk
  obtain ⟨above, habove, hbelow⟩ := World.walk_append_eq_ok_iff.1 hwalk
  exact ⟨above, habove, World.walk_of_names hnames hbelow⟩

/-- Files in the folders are told apart by where they stand. -/
theorem eq_of_place_eq (h : s.IsFileIn folder file path) (h' : s.IsFileIn folder' file' path')
    (hplace : w.place path = .ok place) (hplace' : w.place path' = .ok place) :
    folder = folder' ∧ file = file' := by
  obtain ⟨above, habove, rfl⟩ := place_of_isFileIn h hplace
  obtain ⟨above', habove', heq⟩ := place_of_isFileIn h' hplace'
  obtain rfl := Except.ok.inj (habove.symm.trans habove')
  rw [List.append_cancel_left_eq, List.cons.injEq, List.cons.injEq] at heq
  exact ⟨heq.1, heq.2.1⟩

/-- Checked names lead to the file of a page only in the entries to which its template belongs. -/
theorem not_readsFrom (hcheck : s.check = .ok ())
    (hlisted : ∀ l ∈ listed, ∀ name, l.name = some name → Path.IsFileName name) {page : String}
    (hpage : page ∈ s.pages) (hplace : w.place (s.path (engineName Config.pagesFolder page)) = .ok place)
    (hfits : Fits s library d (entryOf s listed n) p)
    (hentry : p.entry ≠ engineName Config.pagesFolder page) : ¬ p.ReadsFrom s w place := by
  rintro ⟨m, hm, hplace'⟩
  have hslash := Config.no_slash_of_isName (Sources.isName_of_check hcheck (.inr (.inl hpage)))
  have hm := (hfits.engine.names m).1 hm
  obtain ⟨folder, file, rfl, hfile⟩ := isFileIn_of_templates hcheck hlisted hm
  obtain ⟨rfl, rfl⟩ :=
    eq_of_place_eq (isFileIn_engineName (by decide) hslash) hfile hplace hplace'
  rw [← engineName_eq] at hm
  exact not_templates (hfits.entry ▸ hentry) hm

end Places

/-! ### Influence -/

/-- Builds that read the same texts for the templates of an entry give the same entry. -/
theorem get?_of_same_texts
    (hlisted : d (.entries (s.folder Config.componentsFolder)) = .ok listed)
    (hlisted' : d' (.entries (s.folder Config.componentsFolder)) = .ok listed)
    (h : (build s library number).run.run d = .ok ed)
    (h' : (build s library number').run.run d' = .ok ed') (hp : ed.get? n = some p)
    (htexts : ∀ m ∈ p.templates, d' (.text (s.path m)) = d (.text (s.path m))) :
    ed'.get? n = some p := by
  have hn : n ∈ ed'.names := by
    rw [names_of_build hlisted' h', ← names_of_build hlisted h, mem_names_iff, hp]
    rfl
  obtain ⟨p', hp'⟩ := Option.isSome_iff_exists.1 ((mem_names_iff ed' n).1 hn)
  have hfits := fits_of_get? hlisted h hp
  rw [hp', hfits.eq (fits_of_get? hlisted' h' hp') htexts]

/-- An edit of a file leaves the entries that read nothing from it. -/
theorem get?_of_sameExcept {w w' : World} {place : List String} (hw : w.SameExcept w' place)
    (h : (build s library number).run.run w.disk = .ok ed)
    (h' : (build s library number').run.run w'.disk = .ok ed') (hp : ed.get? n = some p)
    (hreads : ¬ p.ReadsFrom s w place) : ed'.get? n = some p := by
  obtain ⟨listed, hlisted⟩ := exists_listing h
  refine get?_of_same_texts hlisted ((hw.entries_eq _).trans hlisted) h h' hp fun m hm => ?_
  exact hw.text_eq fun hplace => hreads ⟨m, hm, hplace⟩

/-- What is in an edition, entry by entry, and that the text of a page reaches another entry only
through a template whose path leads to the page's file. -/
theorem contents_of_build (s : Sources) (library : Library) (d : Disk) (number : Nat) (ed : Edition)
    (h : (build s library number).run.run d = .ok ed) :
    ∃ listed, d (.entries (s.folder "components")) = .ok listed ∧
      ed.names.Nodup ∧
      (∀ n, n ∈ ed.names ↔ n = "base" ∨ n ∈ s.pages ∨ ∃ c ∈ s.components, c.name = n) ∧
      (∀ n ∈ ed.names, ∃ p, ed.get? n = some p ∧ Fits s library d (entryOf s listed n) p) ∧
      (∀ page n p, ed.get? n = some p → p.entry ≠ engineName "pages" page →
        engineName "pages" page ∉ p.templates) ∧
      (∀ d' number' ed' n p, d' (.entries (s.folder "components")) = .ok listed →
        (build s library number').run.run d' = .ok ed' → ed.get? n = some p →
        (∀ m ∈ p.templates, d' (.text (s.path m)) = d (.text (s.path m))) →
        ed'.get? n = some p) ∧
      ∀ w : World, d = w.disk →
        (∀ w' place number' ed' n p, w.SameExcept w' place →
          (build s library number').run.run w'.disk = .ok ed' → ed.get? n = some p →
          ¬ p.ReadsFrom s w place → ed'.get? n = some p) ∧
        (s.check = .ok () → w.top.HasFileNames →
          ∀ page ∈ s.pages, ∀ place, w.place (s.path (engineName "pages" page)) = .ok place →
            ∀ n p, ed.get? n = some p → p.entry ≠ engineName "pages" page →
              ¬ p.ReadsFrom s w place) := by
  obtain ⟨listed, hlisted⟩ := exists_listing h
  refine ⟨listed, hlisted, ?_, names_of_build hlisted h, fun n hn => ?_, fun page n p hp hpage => ?_,
    fun d' number' ed' n p hlisted' h' hp htexts => ?_, ?_⟩
  · have hordered : IsOrdered Page.name ed.pages := by
      obtain ⟨_, -, _, -, _, -, _, -, rfl⟩ := run_build_eq_ok_iff.1 h
      exact isOrdered_ofPages _ _
    exact List.pairwise_map.2 (hordered.imp fun hlt => hlt.ne)
  · obtain ⟨p, hp⟩ := Option.isSome_iff_exists.1 ((mem_names_iff ed n).1 hn)
    exact ⟨p, hp, fits_of_get? hlisted h hp⟩
  · have hfits := fits_of_get? hlisted h hp
    exact fun hm => not_templates (hfits.entry ▸ hpage) ((hfits.engine.names _).1 hm)
  · exact get?_of_same_texts hlisted hlisted' h h' hp htexts
  · rintro w rfl
    refine ⟨fun w' place number' ed' n p hw h' hp hreads => get?_of_sameExcept hw h h' hp hreads, ?_⟩
    intro hcheck hnames page hpage place hplace n p hp hentry
    have hshown : ∀ l ∈ listed, ∀ name, l.name = some name → Path.IsFileName name := by
      have hshows := World.showsFileNames hnames (.entries (s.folder Config.componentsFolder))
      rwa [hlisted] at hshows
    exact not_readsFrom hcheck hshown hpage hplace (fits_of_get? hlisted h hp) hentry

/-- A root with a component, a layout and two pages, one of them with the given text. -/
def homeTree (home : String) : FileTree :=
  .folder [("t", .folder
    [("components", .folder [("old", .file []), ("toast.html", .file [])]),
      ("layout", .folder [("frame.html", .file [])]),
      ("pages", .folder
        [("home.html", .file (Text.Utf8.encode home.toList)), ("news.html", .file [])])])]

def homeWorld (home : String) : World := ⟨homeTree home, []⟩

/-- File names in order, each once. -/
def AreFileNames (names : List String) : Prop :=
  (∀ n ∈ names, Path.IsFileName n) ∧ names.Pairwise (· < ·)

instance (names : List String) : Decidable (AreFileNames names) :=
  inferInstanceAs (Decidable (_ ∧ _))

theorem eachFolder_homeTree (home : String) :
    (homeTree home).EachFolder fun es => AreFileNames (es.map Prod.fst) := by
  refine FileTree.eachFolder_folder (by decide : AreFileNames ["t"])
    (List.forall_mem_singleton.2 ?_)
  refine FileTree.eachFolder_folder (by decide : AreFileNames ["components", "layout", "pages"])
    (List.forall_mem_cons.2 ⟨?_, List.forall_mem_cons.2 ⟨?_, List.forall_mem_singleton.2 ?_⟩⟩)
  · exact FileTree.eachFolder_folder (by decide : AreFileNames ["old", "toast.html"])
      (List.forall_mem_cons.2
        ⟨FileTree.eachFolder_file _, List.forall_mem_singleton.2 (FileTree.eachFolder_file _)⟩)
  · exact FileTree.eachFolder_folder (by decide : AreFileNames ["frame.html"])
      (List.forall_mem_singleton.2 (FileTree.eachFolder_file _))
  · exact FileTree.eachFolder_folder (by decide : AreFileNames ["home.html", "news.html"])
      (List.forall_mem_cons.2
        ⟨FileTree.eachFolder_file _, List.forall_mem_singleton.2 (FileTree.eachFolder_file _)⟩)

theorem hasFileNames_homeTree (home : String) : (homeTree home).HasFileNames :=
  fun place es h x hx => (eachFolder_homeTree home place es h).1 x.1 (List.mem_map_of_mem hx)

theorem inOrder_homeTree (home : String) : (homeTree home).InOrder :=
  fun place es h => List.pairwise_map.1 (eachFolder_homeTree home place es h).2

/-- A write to the page gives the tree with the other text. -/
theorem write_homeWorld (home other : String) :
    (homeWorld home).write "t/pages/home.html" (Text.Utf8.encode other.toList) =
      .ok (homeWorld other) :=
  rfl

theorem sameExcept_homeWorld (home other : String) :
    (homeWorld home).SameExcept (homeWorld other) ["t", "pages", "home.html"] :=
  World.sameExcept_of_write (inOrder_homeTree home) rfl rfl (write_homeWorld home other)

def newsSources : Sources := ⟨"t", "frame", ["home", "news"], [⟨"toast", []⟩]⟩

/-- The base, the other page and the component stay when the page is edited. -/
theorem contents_of_build_home :
    newsSources.check = .ok () ∧ ∃ ed ed',
      (build newsSources ⟨fun _ => none, fun _ => none, fun _ => none⟩ 1).run.run
        (homeWorld "a").disk = .ok ed ∧
      (build newsSources ⟨fun _ => none, fun _ => none, fun _ => none⟩ 2).run.run
        (homeWorld "b").disk = .ok ed' ∧
      (homeWorld "a").disk (.text "t/pages/home.html") = .ok "a" ∧
      (homeWorld "b").disk (.text "t/pages/home.html") = .ok "b" ∧
      ∀ n ∈ ["base", "news", "toast"], ∃ p, ed.get? n = some p ∧ ed'.get? n = some p := by
  obtain ⟨ed, h⟩ := exists_ok_of_isSome (x := (build newsSources
    ⟨fun _ => none, fun _ => none, fun _ => none⟩ 1).run.run (homeWorld "a").disk)
    (by decide +kernel)
  obtain ⟨ed', h'⟩ := exists_ok_of_isSome (x := (build newsSources
    ⟨fun _ => none, fun _ => none, fun _ => none⟩ 2).run.run (homeWorld "b").disk)
    (by decide +kernel)
  have hcheck : newsSources.check = .ok () := rfl
  refine ⟨hcheck, ed, ed', h, h', rfl, rfl, fun n hn => ?_⟩
  obtain ⟨listed, -, -, hnames, hentries, -, -, hworld⟩ := contents_of_build _ _ _ _ ed h
  obtain ⟨hsame, hapart⟩ := hworld _ rfl
  obtain ⟨p, hp, hfits⟩ := hentries n ((hnames n).2 (by revert n; decide))
  have hentry : p.entry ≠ "pages/home.html" := by
    rw [hfits.entry]
    simp only [List.mem_cons, List.not_mem_nil, or_false] at hn
    rcases hn with rfl | rfl | rfl
    · exact (by decide : "layout/frame.html" ≠ "pages/home.html")
    · exact (by decide : "pages/news.html" ≠ "pages/home.html")
    · exact (by decide : "components/toast.html" ≠ "pages/home.html")
  have hreads := hapart hcheck (hasFileNames_homeTree "a") "home" (by decide) _ rfl n p hp hentry
  exact ⟨p, hp, hsame _ _ _ _ _ _ (sameExcept_homeWorld "a" "b") h' hp hreads⟩

/-- A layout that is named by the way to the page. -/
def aliasSources : Sources := ⟨"t", "../pages/home", ["home"], []⟩

theorem base_of_alias (text : String) (number : Nat)
    (h : (((build aliasSources ⟨fun _ => none, fun _ => none, fun _ => none⟩ number).run.run
        (homeWorld text).disk).toOption.bind fun ed => (ed.get? "base").bind fun p =>
          if "pages/home.html" ∈ p.templates then none else (p.render (.obj [])).toOption) =
      some text) :
    ∃ ed p, (build aliasSources ⟨fun _ => none, fun _ => none, fun _ => none⟩ number).run.run
        (homeWorld text).disk = .ok ed ∧ ed.get? "base" = some p ∧
      "pages/home.html" ∉ p.templates ∧ p.render (.obj []) = .ok text := by
  obtain ⟨ed, hed, h⟩ := Option.bind_eq_some_iff.1 h
  obtain ⟨p, hp, h⟩ := Option.bind_eq_some_iff.1 h
  rw [Option.ite_none_left_eq_some] at h
  exact ⟨ed, p, eq_ok_of_toOption hed, hp, h.1, eq_ok_of_toOption h.2⟩

/-- Under the layout's name the text of the page reaches the base, where its template is not. -/
theorem aliased_page_reaches_base :
    ∃ ed ed' p p',
      (build aliasSources ⟨fun _ => none, fun _ => none, fun _ => none⟩ 1).run.run
        (homeWorld "old").disk = .ok ed ∧
      (build aliasSources ⟨fun _ => none, fun _ => none, fun _ => none⟩ 2).run.run
        (homeWorld "new").disk = .ok ed' ∧
      (homeWorld "old").SameExcept (homeWorld "new") ["t", "pages", "home.html"] ∧
      (homeWorld "old").place (aliasSources.path "pages/home.html") =
        .ok ["t", "pages", "home.html"] ∧
      ed.get? "base" = some p ∧ ed'.get? "base" = some p' ∧ "pages/home.html" ∉ p.templates ∧
      p.render (.obj []) = .ok "old" ∧ p'.render (.obj []) = .ok "new" := by
  obtain ⟨ed, p, h, hp, htemplates, hold⟩ := base_of_alias "old" 1 (by decide +kernel)
  obtain ⟨ed', p', h', hp', -, hnew⟩ := base_of_alias "new" 2 (by decide +kernel)
  exact ⟨ed, ed', p, p', h, h', sameExcept_homeWorld "old" "new", rfl, hp, hp', htemplates, hold,
    hnew⟩

end Edition

end LivePages
