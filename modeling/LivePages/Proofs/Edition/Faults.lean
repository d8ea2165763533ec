import LivePages.Proofs.Config.Checks
import LivePages.Proofs.Edition.Embedded
import LivePages.Proofs.Publisher.Interleaving

/-! What a build that fails says. It goes on stage by stage and stops at the first fault: one of
reading, which names a path, or one of parsing, which names what was added. Whatever faults a disk
has besides, the first one is told, and nothing of the build is published. -/

namespace LivePages.Edition

open Config (Sources Component engineName)
open Template (Engine Library Source)

/-! ### The first fault of a disk -/

/-- The component files that the folder shows, each with its text, in the order of the listing. -/
def ComponentsRead (s : Sources) (d : Disk) (components : List (String × String)) : Prop :=
  ∃ listed, d (.entries (s.folder "components")) = .ok listed ∧
    List.Forall₂ (fun stem (c : String × String) =>
        c.1 = engineName "components" stem ∧ d (.text (s.path c.1)) = .ok c.2)
      (listed.filterMap componentName?) components

/-- The layout's text and then the components were added, which made the base. -/
def BaseMade (s : Sources) (library : Library) (d : Disk) (components : List (String × String))
    (base : Engine) : Prop :=
  ∃ layout e, d (.text (s.path s.layoutName)) = .ok layout ∧
    (Engine.empty library).add [(s.layoutName, layout)] = .ok e ∧ e.add components = .ok base

/-- A page has a text, and a copy of the base takes it. -/
def PageMade (s : Sources) (d : Disk) (base : Engine) (name : String) : Prop :=
  ∃ t e, d (.text (s.path (engineName "pages" name))) = .ok t ∧
    base.add [(engineName "pages" name, t)] = .ok e

/-- The texts of what a component requires, and last its own, as they stand among those read. -/
def Collected (components : List (String × String)) (c : Component)
    (texts : List (String × String)) : Prop :=
  List.Forall₂ (fun name x => components.find? (·.1 = engineName "components" name) = some x)
    (c.requires ++ [c.name]) texts

def ComponentMade (library : Library) (components : List (String × String)) (c : Component) :
    Prop :=
  ∃ texts e, Collected components c texts ∧ (Engine.empty library).add texts = .ok e

/-- The fault of the first stage that fails. Of several broken components `components` tells the
first of the listing, an order that is not promised. -/
inductive FirstFault (s : Sources) (library : Library) (d : Disk) : PageFault → Prop
  | listing {f} (h : d (.entries (s.folder "components")) = .error f) :
      FirstFault s library d (.unreadable (s.folder "components") f)
  | componentText {listed before stem after f}
      (hlisted : d (.entries (s.folder "components")) = .ok listed)
      (hstems : listed.filterMap componentName? = before ++ stem :: after)
      (hbefore : ∀ other ∈ before, ∃ t, d (.text (s.path (engineName "components" other))) = .ok t)
      (h : d (.text (s.path (engineName "components" stem))) = .error f) :
      FirstFault s library d (.unreadable (s.path (engineName "components" stem)) f)
  | layoutText {components f} (hread : ComponentsRead s d components)
      (h : d (.text (s.path s.layoutName)) = .error f) :
      FirstFault s library d (.unreadable (s.path s.layoutName) f)
  | layout {components t f} (hread : ComponentsRead s d components)
      (ht : d (.text (s.path s.layoutName)) = .ok t)
      (h : (Engine.empty library).add [(s.layoutName, t)] = .error f) :
      FirstFault s library d (.unparsable s.layoutName f)
  | components {components t e f} (hread : ComponentsRead s d components)
      (ht : d (.text (s.path s.layoutName)) = .ok t)
      (he : (Engine.empty library).add [(s.layoutName, t)] = .ok e)
      (h : e.add components = .error f) :
      FirstFault s library d (.unparsable "components/*.html" f)
  | pageText {components base before name after f} (hread : ComponentsRead s d components)
      (hbase : BaseMade s library d components base) (hpages : s.pages = before ++ name :: after)
      (hbefore : ∀ other ∈ before, PageMade s d base other)
      (h : d (.text (s.path (engineName "pages" name))) = .error f) :
      FirstFault s library d (.unreadable (s.path (engineName "pages" name)) f)
  | page {components base before name after t f} (hread : ComponentsRead s d components)
      (hbase : BaseMade s library d components base) (hpages : s.pages = before ++ name :: after)
      (hbefore : ∀ other ∈ before, PageMade s d base other)
      (ht : d (.text (s.path (engineName "pages" name))) = .ok t)
      (h : base.add [(engineName "pages" name, t)] = .error f) :
      FirstFault s library d (.unparsable (engineName "pages" name) f)
  | required {components base before c after found name rest}
      (hread : ComponentsRead s d components) (hbase : BaseMade s library d components base)
      (hpages : ∀ name ∈ s.pages, PageMade s d base name)
      (hcomponents : s.components = before ++ c :: after)
      (hbefore : ∀ other ∈ before, ComponentMade library components other)
      (hnames : c.requires ++ [c.name] = found ++ name :: rest)
      (hfound : ∀ other ∈ found, ∃ x ∈ components, x.1 = engineName "components" other)
      (h : ∀ x ∈ components, x.1 ≠ engineName "components" name) :
      FirstFault s library d (.noComponent (s.path (engineName "components" name)))
  | component {components base before c after texts f} (hread : ComponentsRead s d components)
      (hbase : BaseMade s library d components base)
      (hpages : ∀ name ∈ s.pages, PageMade s d base name)
      (hcomponents : s.components = before ++ c :: after)
      (hbefore : ∀ other ∈ before, ComponentMade library components other)
      (htexts : Collected components c texts) (h : (Engine.empty library).add texts = .error f) :
      FirstFault s library d (.unparsable (engineName "components" c.name) f)

/-! ### Programs that fail -/

section Failing

variable {α β : Type} {d : Disk} {f : PageFault}

theorem run_bind_eq_error_iff {b : Building α} {g : α → Building β} :
    (b >>= g).run.run d = .error f ↔
      b.run.run d = .error f ∨ ∃ a, b.run.run d = .ok a ∧ (g a).run.run d = .error f := by
  rw [ExceptT.run_bind, Ask.run_bind]
  cases b.run.run d with
  | error f' => simp
  | ok a => simp

theorem run_pure_ne_error {a : α} : (pure a : Building α).run.run d ≠ .error f := by
  rw [ExceptT.run_pure, Ask.run_pure]
  exact nofun

theorem run_lift_ne_error {p : Ask α} : (liftM p : Building α).run.run d ≠ .error f := by
  rw [ExceptT.run_liftM, Ask.run_map]
  exact nofun

/-- What a list fails of is its first element that fails. -/
theorem run_mapM_eq_error_iff {g : α → Building β} {l : List α} :
    (l.mapM g).run.run d = .error f ↔ ∃ before a after, l = before ++ a :: after ∧
      (∀ x ∈ before, ∃ b, (g x).run.run d = .ok b) ∧ (g a).run.run d = .error f := by
  induction l with
  | nil => simp
  | cons a l ih =>
    rw [List.mapM_cons, run_bind_eq_error_iff, Config.exists_split_cons]
    simp only [run_bind_eq_error_iff, run_pure_ne_error, and_false, exists_false, or_false, ih,
      List.forall_mem_cons]
    simp [and_assoc, and_left_comm]

end Failing

/-! ### The stages -/

variable {s : Sources} {library : Library} {d : Disk} {f : PageFault}
  {components : List (String × String)}

theorem run_text_eq_error_iff {entry : String} :
    (text s entry).run.run d = .error f ↔
      ∃ cause, d (.text (s.path entry)) = .error cause ∧ f = .unreadable (s.path entry) cause := by
  rw [text, ExceptT.run_bind, Ask.run_bind, ExceptT.run_liftM, Ask.run_map, Ask.text, Ask.run]
  dsimp only
  rw [Ask.run]
  cases d (.text (s.path entry)) with
  | error cause => simp [eq_comm]
  | ok t => simp

theorem run_added_eq_error_iff {e : Engine} {name : String} {texts : List (String × String)} :
    (added e name texts).run.run d = .error f ↔
      ∃ cause, e.add texts = .error cause ∧ f = .unparsable name cause := by
  rw [added]
  cases e.add texts with
  | error cause => simp [eq_comm]
  | ok e' => simp

theorem run_required_eq_error_iff {name : String} :
    (required s components name).run.run d = .error f ↔
      (∀ x ∈ components, x.1 ≠ engineName Config.componentsFolder name) ∧
        f = .noComponent (s.path (engineName Config.componentsFolder name)) := by
  have hnone : components.find? (·.1 = engineName Config.componentsFolder name) = none ↔
      ∀ x ∈ components, x.1 ≠ engineName Config.componentsFolder name := by
    simp
  rw [← hnone, required]
  cases components.find? (·.1 = engineName Config.componentsFolder name) with
  | none => simp [eq_comm]
  | some x => simp

theorem run_componentTexts_eq_error_iff :
    (componentTexts s).run.run d = .error f ↔
      (∃ cause, d (.entries (s.folder Config.componentsFolder)) = .error cause ∧
        f = .unreadable (s.folder Config.componentsFolder) cause) ∨
      ∃ listed, d (.entries (s.folder Config.componentsFolder)) = .ok listed ∧
        ∃ before stem after, listed.filterMap componentName? = before ++ stem :: after ∧
          (∀ other ∈ before,
            ∃ t, d (.text (s.path (engineName Config.componentsFolder other))) = .ok t) ∧
          ∃ cause, d (.text (s.path (engineName Config.componentsFolder stem))) = .error cause ∧
            f = .unreadable (s.path (engineName Config.componentsFolder stem)) cause := by
  rw [componentTexts, run_bind_eq_error_iff]
  simp only [run_lift_ne_error, false_or, run_lift_eq_ok_iff, Ask.entries, Ask.run, exists_eq_left']
  cases d (.entries (s.folder Config.componentsFolder)) with
  | error cause => simp [eq_comm]
  | ok listed =>
    have hread : ∀ name, (∃ c, (do pure (engineName Config.componentsFolder name,
          ← text s (engineName Config.componentsFolder name)) : Building _).run.run d = .ok c) ↔
        ∃ t, d (.text (s.path (engineName Config.componentsFolder name))) = .ok t := by
      intro name
      simp only [run_bind_eq_ok_iff, run_text_eq_ok_iff, run_pure_eq_ok_iff]
      constructor
      · rintro ⟨c, t, ht, -⟩
        exact ⟨t, ht⟩
      · rintro ⟨t, ht⟩
        exact ⟨_, t, ht, rfl⟩
    simp only [run_mapM_eq_error_iff, hread, run_bind_eq_error_iff, run_text_eq_error_iff,
      run_pure_ne_error, and_false, exists_false, or_false, reduceCtorEq, false_and, false_or,
      Except.ok.injEq, exists_eq_left']

theorem run_base_eq_error_iff :
    (base s library components).run.run d = .error f ↔
      (∃ cause, d (.text (s.path s.layoutName)) = .error cause ∧
        f = .unreadable (s.path s.layoutName) cause) ∨
      ∃ t, d (.text (s.path s.layoutName)) = .ok t ∧
        ((∃ cause, (Engine.empty library).add [(s.layoutName, t)] = .error cause ∧
            f = .unparsable s.layoutName cause) ∨
          ∃ e, (Engine.empty library).add [(s.layoutName, t)] = .ok e ∧
            ∃ cause, e.add components = .error cause ∧ f = .unparsable allComponents cause) := by
  simp only [base, run_bind_eq_error_iff, run_text_eq_error_iff, run_text_eq_ok_iff,
    run_added_eq_error_iff, run_added_eq_ok_iff]

theorem run_page_eq_error_iff {base : Engine} {name : String} :
    (page s base name).run.run d = .error f ↔
      (∃ cause, d (.text (s.path (engineName Config.pagesFolder name))) = .error cause ∧
        f = .unreadable (s.path (engineName Config.pagesFolder name)) cause) ∨
      ∃ t, d (.text (s.path (engineName Config.pagesFolder name))) = .ok t ∧
        ∃ cause, base.add [(engineName Config.pagesFolder name, t)] = .error cause ∧
          f = .unparsable (engineName Config.pagesFolder name) cause := by
  simp only [page, run_bind_eq_error_iff, run_text_eq_error_iff, run_text_eq_ok_iff,
    run_added_eq_error_iff, run_pure_ne_error, and_false, exists_false, or_false]

theorem run_component_eq_error_iff {c : Component} :
    (component s library components c).run.run d = .error f ↔
      (∃ found name rest, c.requires ++ [c.name] = found ++ name :: rest ∧
        (∀ other ∈ found, ∃ x,
          components.find? (·.1 = engineName Config.componentsFolder other) = some x) ∧
        (∀ x ∈ components, x.1 ≠ engineName Config.componentsFolder name) ∧
          f = .noComponent (s.path (engineName Config.componentsFolder name))) ∨
      ∃ texts, Collected components c texts ∧
        ∃ cause, (Engine.empty library).add texts = .error cause ∧
          f = .unparsable (engineName Config.componentsFolder c.name) cause := by
  simp only [component, run_bind_eq_error_iff, run_mapM_eq_error_iff, run_mapM_eq_ok_iff,
    run_required_eq_ok_iff, run_required_eq_error_iff, run_added_eq_error_iff, run_pure_ne_error,
    and_false, exists_false, or_false]
  rfl

/-! ### The build -/

theorem componentsRead_iff :
    (componentTexts s).run.run d = .ok components ↔ ComponentsRead s d components :=
  run_componentTexts_eq_ok_iff

theorem baseMade_iff {e : Engine} :
    (base s library components).run.run d = .ok e ↔ BaseMade s library d components e := by
  simp only [run_base_eq_ok_iff, BaseMade, exists_and_left]

theorem pageMade_iff {base : Engine} {name : String} :
    (∃ p, (page s base name).run.run d = .ok p) ↔ PageMade s d base name := by
  simp only [run_page_eq_ok_iff]
  constructor
  · rintro ⟨p, t, ht, e, he, -⟩
    exact ⟨t, e, ht, he⟩
  · rintro ⟨t, e, ht, he⟩
    exact ⟨_, t, ht, e, he, rfl⟩

theorem componentMade_iff {c : Component} :
    (∃ p, (component s library components c).run.run d = .ok p) ↔
      ComponentMade library components c := by
  simp only [run_component_eq_ok_iff]
  constructor
  · rintro ⟨p, texts, htexts, e, he, -⟩
    exact ⟨texts, e, htexts, he⟩
  · rintro ⟨texts, e, htexts, he⟩
    exact ⟨_, texts, htexts, e, he, rfl⟩

theorem exists_find?_iff {name : String} :
    (∃ x, components.find? (·.1 = name) = some x) ↔ ∃ x ∈ components, x.1 = name := by
  rw [← Option.isSome_iff_exists, List.find?_isSome]
  simp

theorem exists_forall₂_iff {α β : Type} {R : α → β → Prop} {l : List α} :
    (∃ bs, List.Forall₂ R l bs) ↔ ∀ a ∈ l, ∃ b, R a b := by
  induction l with
  | nil => simp
  | cons a l ih =>
    simp only [List.forall₂_cons_left_iff, List.forall_mem_cons, ← ih]
    constructor
    · rintro ⟨_, b, bs, hb, hbs, rfl⟩
      exact ⟨⟨b, hb⟩, bs, hbs⟩
    · rintro ⟨⟨b, hb⟩, bs, hbs⟩
      exact ⟨b :: bs, b, bs, hb, hbs, rfl⟩

/-- A build fails with the fault of its first stage that fails, and with no other. -/
theorem run_build_eq_error_iff {number : Nat} :
    (build s library number).run.run d = .error f ↔ FirstFault s library d f := by
  have hmade : ∀ base, (∃ pages, List.Forall₂ (fun n p => (page s base n).run.run d = .ok p)
      s.pages pages) ↔ ∀ n ∈ s.pages, PageMade s d base n := by
    intro base
    simp only [exists_forall₂_iff, pageMade_iff]
  simp only [build, run_bind_eq_error_iff, run_mapM_eq_error_iff, run_mapM_eq_ok_iff,
    run_pure_ne_error, and_false, exists_false, or_false, componentsRead_iff, baseMade_iff,
    pageMade_iff, componentMade_iff, run_componentTexts_eq_error_iff, run_base_eq_error_iff,
    run_page_eq_error_iff, run_component_eq_error_iff, exists_find?_iff]
  constructor
  · rintro ((⟨cause, h, rfl⟩ |
      ⟨listed, hlisted, before, stem, after, hstems, hbefore, cause, h, rfl⟩) |
      ⟨components, hread, hlater⟩)
    · exact .listing h
    · exact .componentText hlisted hstems hbefore h
    rcases hlater with (⟨cause, h, rfl⟩ | ⟨t, ht, ⟨cause, h, rfl⟩ | ⟨e, he, cause, h, rfl⟩⟩) |
      ⟨base, hbase, hlater⟩
    · exact .layoutText hread h
    · exact .layout hread ht h
    · exact .components hread ht he h
    rcases hlater with ⟨before, name, after, hpages, hbefore, ⟨cause, h, rfl⟩ |
      ⟨t, ht, cause, h, rfl⟩⟩ | ⟨pages, hpages, before, c, after, hcomponents, hbefore, hlater⟩
    · exact .pageText hread hbase hpages hbefore h
    · exact .page hread hbase hpages hbefore ht h
    have hpages := (hmade base).1 ⟨pages, hpages⟩
    rcases hlater with ⟨found, name, rest, hnames, hfound, h, rfl⟩ | ⟨texts, htexts, cause, h, rfl⟩
    · exact .required hread hbase hpages hcomponents hbefore hnames hfound h
    · exact .component hread hbase hpages hcomponents hbefore htexts h
  · intro h
    cases h with
    | listing h => exact .inl (.inl ⟨_, h, rfl⟩)
    | componentText hlisted hstems hbefore h =>
      exact .inl (.inr ⟨_, hlisted, _, _, _, hstems, hbefore, _, h, rfl⟩)
    | layoutText hread h => exact .inr ⟨_, hread, .inl (.inl ⟨_, h, rfl⟩)⟩
    | layout hread ht h => exact .inr ⟨_, hread, .inl (.inr ⟨_, ht, .inl ⟨_, h, rfl⟩⟩)⟩
    | components hread ht he h =>
      exact .inr ⟨_, hread, .inl (.inr ⟨_, ht, .inr ⟨_, he, _, h, rfl⟩⟩)⟩
    | pageText hread hbase hpages hbefore h =>
      exact .inr ⟨_, hread, .inr ⟨_, hbase, .inl ⟨_, _, _, hpages, hbefore, .inl ⟨_, h, rfl⟩⟩⟩⟩
    | page hread hbase hpages hbefore ht h =>
      exact .inr ⟨_, hread, .inr ⟨_, hbase, .inl ⟨_, _, _, hpages, hbefore,
        .inr ⟨_, ht, _, h, rfl⟩⟩⟩⟩
    | required hread hbase hpages hcomponents hbefore hnames hfound h =>
      obtain ⟨pages, hpages⟩ := (hmade _).2 hpages
      exact .inr ⟨_, hread, .inr ⟨_, hbase, .inr ⟨pages, hpages, _, _, _, hcomponents, hbefore,
        .inl ⟨_, _, _, hnames, hfound, h, rfl⟩⟩⟩⟩
    | component hread hbase hpages hcomponents hbefore htexts h =>
      obtain ⟨pages, hpages⟩ := (hmade _).2 hpages
      exact .inr ⟨_, hread, .inr ⟨_, hbase, .inr ⟨pages, hpages, _, _, _, hcomponents, hbefore,
        .inr ⟨_, htexts, _, h, rfl⟩⟩⟩⟩

/-! ### What a build does not pass over -/

/-- What an edition is made of: the layout, the component files that are listed, the pages, and the
components with what they require. -/
def IsPart (s : Sources) (listed : List Listed) (m : String) : Prop :=
  InBase s listed m ∨ (∃ name ∈ s.pages, m = engineName "pages" name) ∨
    ∃ c ∈ s.components, InComponent c m

/-- What is part of an edition that has been built has a text, which is a template. -/
theorem exists_read_of_build {listed : List Listed} {number : Nat} {ed : Edition}
    (hlisted : d (.entries (s.folder Config.componentsFolder)) = .ok listed)
    (h : (build s library number).run.run d = .ok ed) {m : String} (hm : IsPart s listed m) :
    ∃ text t, d (.text (s.path m)) = .ok text ∧ Source.read m text = .ok t := by
  obtain ⟨components, hcomponents, engine, hengine, pages, hpages, -⟩ := run_build_eq_ok_iff.1 h
  have hbase := holds_base hlisted hcomponents hengine
  have hread : ∀ {names : String → Prop} {e : Engine}, Holds s library d names e → names m →
      ∃ text t, d (.text (s.path m)) = .ok text ∧ Source.read m text = .ok t := by
    intro names e he hn
    obtain ⟨t, text, htext, hread, -⟩ := he.find? hn
    exact ⟨text, t, htext, hread⟩
  rcases hm with hm | ⟨name, hname, rfl⟩ | ⟨c, hc, hm⟩
  · exact hread hbase hm
  · obtain ⟨p, hp⟩ := exists_forall₂_iff.1 ⟨pages, hpages⟩ name hname
    exact hread (fits_of_page hbase hp).engine (.inr rfl)
  · exact hread hbase (inBase_of_build hlisted h hc hm)

/-- A build fails exactly when a stage does, with the fault of the first; then nothing is published,
and otherwise nothing was passed over. -/
theorem first_fault_is_told (d : Disk) :
    (∀ s library number f,
      (build s library number).run.run d = .error f ↔ FirstFault s library d f) ∧
    (∀ s library number ed, (build s library number).run.run d = .ok ed →
      ∃ listed, d (.entries (s.folder "components")) = .ok listed ∧
        (∀ m, IsPart s listed m →
          ∃ text t, d (.text (s.path m)) = .ok text ∧ Source.read m text = .ok t) ∧
        ∀ c ∈ s.components, ∀ m, InComponent c m → InBase s listed m) ∧
    ∀ (p : Publisher) f, FirstFault p.sources p.library d f →
      p.compile.run d = ({ p with tickets := p.tickets + 1 }, .error f) := by
  refine ⟨fun s library number f => run_build_eq_error_iff, ?_, ?_⟩
  · intro s library number ed h
    obtain ⟨listed, hlisted⟩ := exists_listing h
    refine ⟨listed, hlisted, fun m hm => exists_read_of_build hlisted h hm, ?_⟩
    intro c hc m hm
    exact inBase_of_build hlisted h hc hm
  · intro p f h
    rw [Overlap.Site.run_compile, run_build_eq_error_iff.2 h]
    rfl

/-- A disk with a component whose text is no template, and with nothing else. -/
def brokenDisk : Disk
  | .text path => if path = "t/components/bar.html" then .ok "\x7b% if %\x7d" else .error .missing
  | .entries _ => .ok [⟨some "bar.html", true⟩]
  | .isFolder _ => true
  | .exists _ => true
  | .canonical path => .ok path
  | .here => "/"

/-- The layout, a page and a required component are missing, and the only component is no template:
it is the layout that is told. -/
theorem first_fault_is_told_layout :
    (build ⟨"t", "base", ["home"], [⟨"bar", ["gone"]⟩]⟩
        ⟨fun _ => none, fun _ => none, fun _ => none⟩ 1).run.run brokenDisk =
      .error (.unreadable "t/layout/base.html" .missing) ∧
      (Publisher.new ⟨"t", "base", ["home"], [⟨"bar", ["gone"]⟩]⟩
          ⟨fun _ => none, fun _ => none, fun _ => none⟩).compile.run brokenDisk =
        (⟨⟨"t", "base", ["home"], [⟨"bar", ["gone"]⟩]⟩,
          ⟨fun _ => none, fun _ => none, fun _ => none⟩, 1, Edition.empty⟩,
          .error (.unreadable "t/layout/base.html" .missing)) ∧
      ∃ ed, (build ⟨"t", "frame", ["home", "toast"], [⟨"toast", []⟩]⟩
          ⟨fun _ => none, fun _ => none, fun _ => none⟩ 1).run.run (homeDisk "a") = .ok ed ∧
        ∃ text t, homeDisk "a" (.text "t/pages/home.html") = .ok text ∧
          Source.read "pages/home.html" text = .ok t := by
  have hread : ComponentsRead ⟨"t", "base", ["home"], [⟨"bar", ["gone"]⟩]⟩ brokenDisk
      [("components/bar.html", "\x7b% if %\x7d")] := ⟨_, rfl, .cons ⟨rfl, rfl⟩ .nil⟩
  have hfault : FirstFault ⟨"t", "base", ["home"], [⟨"bar", ["gone"]⟩]⟩
      ⟨fun _ => none, fun _ => none, fun _ => none⟩ brokenDisk
      (.unreadable "t/layout/base.html" .missing) := .layoutText hread rfl
  obtain ⟨ed, hed⟩ := exists_ok_of_isSome (x := (build ⟨"t", "frame", ["home", "toast"],
    [⟨"toast", []⟩]⟩ ⟨fun _ => none, fun _ => none, fun _ => none⟩ 1).run.run (homeDisk "a"))
    (by decide +kernel)
  refine ⟨((first_fault_is_told brokenDisk).1 _ _ 1 _).2 hfault,
    (first_fault_is_told brokenDisk).2.2 (Publisher.new _ _) _ hfault, ed, hed, ?_⟩
  obtain ⟨listed, -, hparts, -⟩ := (first_fault_is_told (homeDisk "a")).2.1 _ _ _ ed hed
  exact hparts "pages/home.html" (.inr (.inl ⟨"home", by decide, rfl⟩))

end LivePages.Edition
