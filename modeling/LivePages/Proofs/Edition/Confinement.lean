import LivePages.Proofs.Config.Violations
import LivePages.Proofs.Edition.Contents
import LivePages.Proofs.FileTree.Path

/-! Which files a build opens. Every text that it asks for stands directly in one of the three
folders below the root, under a name that is a file name: the names of the settings have been
checked, and those of components come from a listing. -/

namespace LivePages

open Config (Sources Component engineName)

/-- `path` leads from the root into one of the three folders and there to `file`. -/
structure Config.Sources.IsFileIn (s : Sources) (folder file path : String) : Prop where
  inFolder : folder ∈ ["layout", "pages", "components"]
  isFileName : Path.IsFileName file
  path_eq : path = s.path (folder ++ "/" ++ file)
  names_eq : Path.names path = Path.names s.root ++ [folder, file]
  steps_eq : Path.steps path = Path.names path

/-- The questions that stay inside: for the listing of the components, and for texts in the
folders. -/
def Config.Sources.Confines (s : Sources) (q : Question) : Prop :=
  q = .entries (s.folder "components") ∨
    ∃ folder file path, q = .text path ∧ s.IsFileIn folder file path

namespace Edition

variable {s : Sources} {folder folder' : String}

/-! ### Paths of templates -/

theorem engineName_eq (folder name : String) :
    engineName folder name = folder ++ "/" ++ (name ++ ".html") := by
  rw [engineName, String.append_assoc, String.append_assoc]
  rfl

theorem names_of_mem_folders (h : folder ∈ ["layout", "pages", "components"]) :
    Path.names folder = [folder] := by
  simp only [List.mem_cons, List.not_mem_nil, or_false] at h
  rcases h with rfl | rfl | rfl <;> decide

theorem isAbsolute_of_mem_folders (h : folder ∈ ["layout", "pages", "components"]) (rest : String) :
    Path.isAbsolute (folder ++ rest) = false := by
  simp only [List.mem_cons, List.not_mem_nil, or_false] at h
  rcases h with rfl | rfl | rfl <;> simp [Path.isAbsolute, String.toList_append]

theorem isFileIn (hfolder : folder ∈ ["layout", "pages", "components"]) {file : String}
    (hfile : Path.IsFileName file) :
    s.IsFileIn folder file (s.path (folder ++ "/" ++ file)) := by
  have hrelative : Path.isAbsolute (folder ++ "/" ++ file) = false := by
    rw [String.append_assoc]
    exact isAbsolute_of_mem_folders hfolder _
  refine ⟨hfolder, hfile, rfl, ?_, ?_⟩
  · rw [Sources.path, Path.names_join hrelative, Path.names_append_slash,
      names_of_mem_folders hfolder, hfile.names_eq]
    rfl
  · obtain ⟨above, habove⟩ := Path.exists_join_eq s.root (folder ++ "/" ++ file)
    rw [Sources.path, habove, ← String.append_assoc]
    exact Path.steps_append _ hfile.ne_empty hfile.no_slash

theorem isFileName_append_ending {name : String} (h : '/' ∉ name.toList) :
    Path.IsFileName (name ++ ".html") := by
  have hne : ∀ short : String, short.length < 5 → name ++ ".html" ≠ short := by
    rintro _ hshort rfl
    rw [String.length_append] at hshort
    exact absurd hshort (Nat.not_lt.2 (Nat.le_add_left 5 _))
  refine ⟨hne "" (by decide), ?_, hne "." (by decide), hne ".." (by decide)⟩
  rw [String.toList_append, List.mem_append]
  exact fun hmem => hmem.elim h (by decide)

/-- A template whose name has no slash stands directly in its folder. -/
theorem isFileIn_engineName (hfolder : folder ∈ ["layout", "pages", "components"]) {name : String}
    (hname : '/' ∉ name.toList) :
    s.IsFileIn folder (name ++ ".html") (s.path (engineName folder name)) := by
  rw [engineName_eq]
  exact isFileIn hfolder (isFileName_append_ending hname)

/-- Files of two templates are the same only if folder and name are. -/
theorem eq_of_names_eq {name name' : String} (hname : '/' ∉ name.toList)
    (hname' : '/' ∉ name'.toList) (hfolder : folder ∈ ["layout", "pages", "components"])
    (hfolder' : folder' ∈ ["layout", "pages", "components"])
    (h : Path.names (s.path (engineName folder name)) =
      Path.names (s.path (engineName folder' name'))) : folder = folder' ∧ name = name' := by
  rw [(isFileIn_engineName hfolder hname).names_eq, (isFileIn_engineName hfolder' hname').names_eq,
    List.append_cancel_left_eq, List.cons.injEq, List.cons.injEq, String.append_left_inj] at h
  exact ⟨h.1, h.2.1⟩

/-! ### Questions of a build -/

section Asks

variable {α β : Type} {A : (q : Question) → q.Answer → Prop} {P : Question → Prop}

theorem asks_bind {b : Building α} {f : α → Building β} (hb : b.run.Asks A P)
    (hf : ∀ a, (f a).run.Asks A P) : (b >>= f).run.Asks A P := by
  rw [ExceptT.run_bind]
  refine hb.bind fun r => ?_
  cases r with
  | ok a => exact hf a
  | error f => trivial

theorem asks_mapM {f : α → Building β} {l : List α} (h : ∀ a ∈ l, (f a).run.Asks A P) :
    (l.mapM f).run.Asks A P := by
  induction l with
  | nil => trivial
  | cons a r ih =>
    obtain ⟨ha, hr⟩ := List.forall_mem_cons.1 h
    rw [List.mapM_cons]
    exact asks_bind ha fun b => asks_bind (ih hr) fun bs => trivial

theorem asks_text {entry : String} (h : P (.text (s.path entry))) :
    (text s entry).run.Asks A P := by
  refine ⟨h, fun a _ => ?_⟩
  cases a with
  | ok t => trivial
  | error f => trivial

theorem asks_added (e : Template.Engine) (name : String) (texts : List (String × String)) :
    (added e name texts).run.Asks A P := by
  rw [added]
  cases e.add texts with
  | ok e => trivial
  | error f => trivial

theorem asks_required (components : List (String × String)) (name : String) :
    (required s components name).run.Asks A P := by
  rw [required]
  cases components.find? (·.1 = engineName Config.componentsFolder name) with
  | none => trivial
  | some c => trivial

end Asks

variable {library : Template.Library}

/-- The file of a component has the name that the listing shows. -/
theorem asks_componentTexts :
    (componentTexts s).run.Asks Question.ShowsFileNames s.Confines := by
  refine ⟨.inl rfl, fun answer hanswer => ?_⟩
  cases answer with
  | error f => trivial
  | ok listed =>
    refine asks_mapM fun name hname => asks_bind (asks_text (.inr ?_)) fun _ => trivial
    obtain ⟨l, hl, hcomponent⟩ := List.mem_filterMap.1 hname
    obtain ⟨-, hlname, -⟩ := componentName?_eq_some_iff.1 hcomponent
    refine ⟨"components", name ++ ".html", _, rfl, ?_⟩
    rw [engineName_eq]
    exact isFileIn (by decide) (hanswer l hl _ hlname)

theorem asks_base (hlayout : '/' ∉ s.layout.toList) (components : List (String × String)) :
    (base s library components).run.Asks Question.ShowsFileNames s.Confines := by
  refine asks_bind (asks_text (.inr ?_)) fun layout =>
    asks_bind (asks_added _ _ _) fun e => asks_added _ _ _
  exact ⟨"layout", _, _, rfl, isFileIn_engineName (by decide) hlayout⟩

theorem asks_page {name : String} (hname : '/' ∉ name.toList) (e : Template.Engine) :
    (page s e name).run.Asks Question.ShowsFileNames s.Confines := by
  refine asks_bind (asks_text (.inr ?_)) fun t => asks_bind (asks_added _ _ _) fun e => trivial
  exact ⟨"pages", _, _, rfl, isFileIn_engineName (by decide) hname⟩

/-- Nothing is opened for a component: its text is among those that have been read. -/
theorem asks_component (components : List (String × String)) (c : Component) :
    (component s library components c).run.Asks Question.ShowsFileNames s.Confines :=
  asks_bind (asks_mapM fun _ _ => asks_required _ _) fun _ =>
    asks_bind (asks_added _ _ _) fun _ => trivial

theorem asks_build (h : s.check = .ok ()) (number : Nat) :
    (build s library number).run.Asks Question.ShowsFileNames s.Confines := by
  have hlayout := Config.no_slash_of_isName (Sources.isName_of_check h (.inl rfl))
  have hpages : ∀ n ∈ s.pages, '/' ∉ n.toList := fun n hn =>
    Config.no_slash_of_isName (Sources.isName_of_check h (.inr (.inl hn)))
  refine asks_bind asks_componentTexts fun components => ?_
  refine asks_bind (asks_base hlayout components) fun e => ?_
  refine asks_bind (asks_mapM fun n hn => asks_page (hpages n hn) e) fun pages => ?_
  exact asks_bind (asks_mapM fun c _ => asks_component components c) fun alone => trivial

/-- A build of checked sources opens only files directly in the three folders, besides listing the
components, and its names lead to different files. -/
theorem build_is_confined (s : Sources) (library : Template.Library) (number : Nat)
    (D : Disk → Prop) (hcheck : s.check = .ok ())
    (hD : ∀ d, D d → ∀ q : Question, q.ShowsFileNames (d q)) :
    (∀ q next, (build s library number).run.Reaches D (.ask q next) →
        q = .entries (s.folder "components") ∨
          ∃ folder file path, q = .text path ∧ s.IsFileIn folder file path) ∧
      (∀ n, s.Uses n → Config.isName n = true) ∧
      (∀ folder ∈ ["layout", "pages", "components"], ∀ n, Config.isName n = true →
        s.IsFileIn folder (n ++ ".html") (s.path (engineName folder n))) ∧
      ∀ folder ∈ ["layout", "pages", "components"], ∀ folder' ∈ ["layout", "pages", "components"],
        ∀ n n', Config.isName n = true → Config.isName n' = true →
          engineName folder n = engineName folder' n' ∨
              Path.names (s.path (engineName folder n)) =
                Path.names (s.path (engineName folder' n')) →
            folder = folder' ∧ n = n' := by
  refine ⟨fun q next hreach => ?_, fun n hn => Sources.isName_of_check hcheck hn,
    fun folder hfolder n hn => ?_, fun folder hfolder folder' hfolder' n n' hn hn' h => ?_⟩
  · exact ((asks_build hcheck number).reaches hD hreach).1
  · exact isFileIn_engineName hfolder (Config.no_slash_of_isName hn)
  · refine eq_of_names_eq (s := s) (Config.no_slash_of_isName hn) (Config.no_slash_of_isName hn')
      hfolder hfolder' ?_
    rcases h with h | h
    · rw [h]
    · exact h

/-- A page called by one point, and a component whose file is called likewise. -/
def dotSources : Sources := ⟨"t", "frame", ["."], [⟨"toast", ["..bread"]⟩]⟩

def dotTree : FileTree :=
  .folder [("t", .folder
    [("components", .folder [("..html", .file []), ("toast.html", .file [])]),
      ("layout", .folder [("frame.html", .file [])]),
      ("pages", .folder [("..html", .file [])])])]

theorem hasFileNames_dotTree : dotTree.HasFileNames := by
  refine FileTree.hasFileNames_folder (List.forall_mem_singleton.2 ⟨by decide, ?_⟩)
  refine FileTree.hasFileNames_folder (List.forall_mem_cons.2 ⟨⟨by decide, ?_⟩,
    List.forall_mem_cons.2 ⟨⟨by decide, ?_⟩, List.forall_mem_singleton.2 ⟨by decide, ?_⟩⟩⟩)
  · exact FileTree.hasFileNames_folder (List.forall_mem_cons.2
      ⟨⟨by decide, FileTree.hasFileNames_file _⟩,
        List.forall_mem_singleton.2 ⟨by decide, FileTree.hasFileNames_file _⟩⟩)
  · exact FileTree.hasFileNames_folder
      (List.forall_mem_singleton.2 ⟨by decide, FileTree.hasFileNames_file _⟩)
  · exact FileTree.hasFileNames_folder
      (List.forall_mem_singleton.2 ⟨by decide, FileTree.hasFileNames_file _⟩)

/-- What the build asks, in order. -/
def dotQuestions : List Question :=
  [.entries "t/components", .text "t/components/..html", .text "t/components/toast.html",
    .text "t/layout/frame.html", .text "t/pages/..html"]

/-- Points in names lead nowhere else. -/
theorem build_is_confined_dots :
    dotSources.check = .ok () ∧
      (build dotSources ⟨fun _ => none, fun _ => none, fun _ => none⟩ 1).run.questions
        (World.disk ⟨dotTree, []⟩) = dotQuestions ∧
      ∃ folder file, dotSources.IsFileIn folder file "t/pages/..html" := by
  have hquestions : (build dotSources ⟨fun _ => none, fun _ => none, fun _ => none⟩ 1).run.questions
      (World.disk ⟨dotTree, []⟩) = dotQuestions := by decide +kernel
  have hmem : Question.text "t/pages/..html" ∈ dotQuestions := by decide
  obtain ⟨next, hreach⟩ := Ask.exists_reaches_of_mem_questions (hquestions ▸ hmem)
  have hconfined := build_is_confined dotSources ⟨fun _ => none, fun _ => none, fun _ => none⟩ 1
    (· = World.disk ⟨dotTree, []⟩) rfl fun d hd => hd ▸ World.showsFileNames hasFileNames_dotTree
  refine ⟨rfl, hquestions, ?_⟩
  rcases hconfined.1 _ next hreach with hlisting | ⟨folder, file, path, hpath, hfile⟩
  · cases hlisting
  · cases hpath
    exact ⟨folder, file, hfile⟩

end Edition

end LivePages
