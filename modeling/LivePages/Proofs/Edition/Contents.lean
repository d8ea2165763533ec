import LivePages.Proofs.Edition.Building
import LivePages.Proofs.Edition.Number
import LivePages.Proofs.Edition.Ordered

/-! What is in an edition that has been built: a page for each name, and in each page's engine the
templates that belong to it, each as it stands in its own file. -/

namespace LivePages.Edition

open Config (Sources Component engineName)
open Template (Engine Library Source)

variable {s : Sources} {library : Library} {d d' : Disk}

/-! ### Engines -/

/-- The engine holds the library and, as they stand in their files, the templates of some names. -/
structure Holds (s : Sources) (library : Library) (d : Disk) (names : String → Prop)
    (e : Engine) : Prop where
  library : e.library = library
  ordered : IsOrdered Source.name e.sources
  names : ∀ m, m ∈ e.names ↔ names m
  read : ∀ t ∈ e.sources, ∃ text, d (.text (s.path t.name)) = .ok text ∧
    Source.read t.name text = .ok t

variable {names names' : String → Prop} {e e' : Engine}

theorem Holds.congr (h : Holds s library d names e) (hn : ∀ m, names m ↔ names' m) :
    Holds s library d names' e :=
  ⟨h.library, h.ordered, fun m => (h.names m).trans (hn m), h.read⟩

theorem Holds.empty : Holds s library d (fun _ => False) (Engine.empty library) :=
  ⟨rfl, isOrdered_nil, fun _ => List.mem_nil_iff _, List.forall_mem_nil _⟩

theorem name_of_read {name text : String} {t : Source} (h : Source.read name text = .ok t) :
    t.name = name := by
  unfold Source.read at h
  split at h
  · cases h
  dsimp only at h
  split at h
  · cases h
  · cases h
    rfl

theorem Holds.putSource (h : Holds s library d names e) {t : Source} {text : String}
    (htext : d (.text (s.path t.name)) = .ok text) (hread : Source.read t.name text = .ok t) :
    Holds s library d (fun m => names m ∨ m = t.name) ⟨e.library, Template.putSource t e.sources⟩ := by
  refine ⟨h.library, ?_, fun m => ?_, fun u hu => ?_⟩
  · rw [Template.putSource_eq]
    exact h.ordered.insertNamed t
  · rw [Engine.names, Template.putSource_eq, mem_map_insertNamed, or_comm]
    exact or_congr_left (h.names m)
  · rw [Template.putSource_eq] at hu
    rcases mem_insertNamed hu with rfl | hu
    · exact ⟨text, htext, hread⟩
    · exact h.read u hu

theorem add_eq_ok_iff {texts : List (String × String)} :
    e.add texts = .ok e' ↔ e.put texts = .ok e' ∧ e'.check = .ok () := by
  rw [Engine.add, bind_eq_ok_iff]
  constructor
  · rintro ⟨e₁, hput, h⟩
    obtain ⟨u, hcheck, h⟩ := bind_eq_ok_iff.1 h
    cases h
    exact ⟨hput, hcheck⟩
  · rintro ⟨hput, hcheck⟩
    exact ⟨e', hput, bind_eq_ok_iff.2 ⟨(), hcheck, rfl⟩⟩

theorem Holds.put {texts : List (String × String)} (h : Holds s library d names e)
    (htexts : ∀ x ∈ texts, d (.text (s.path x.1)) = .ok x.2) (hput : e.put texts = .ok e') :
    Holds s library d (fun m => names m ∨ m ∈ texts.map Prod.fst) e' := by
  induction texts generalizing e names with
  | nil =>
    cases hput
    exact h.congr fun m => by simp
  | cons x r ih =>
    obtain ⟨name, text⟩ := x
    obtain ⟨hx, hr⟩ := List.forall_mem_cons.1 htexts
    unfold Engine.put at hput
    cases hread : Source.read name text with
    | error f =>
      rw [hread] at hput
      cases hput
    | ok t =>
      rw [hread] at hput
      obtain rfl := name_of_read hread
      refine (ih (h.putSource hx hread) hr hput).congr fun m => ?_
      rw [List.map_cons, List.mem_cons, or_assoc]

/-- Adding texts adds the templates of their names, and nothing else. -/
theorem Holds.add {texts : List (String × String)} (h : Holds s library d names e)
    (htexts : ∀ x ∈ texts, d (.text (s.path x.1)) = .ok x.2) (hadd : e.add texts = .ok e') :
    Holds s library d (fun m => names m ∨ m ∈ texts.map Prod.fst) e' :=
  h.put htexts (add_eq_ok_iff.1 hadd).1

theorem Holds.mem_sources (h : Holds s library d names e) (h' : Holds s library d' names e')
    (hd : ∀ m, names m → d' (.text (s.path m)) = d (.text (s.path m))) {t : Source}
    (ht : t ∈ e.sources) : t ∈ e'.sources := by
  have hname : names t.name := (h.names _).1 (List.mem_map_of_mem ht)
  obtain ⟨text, htext, hread⟩ := h.read t ht
  obtain ⟨t', ht', hname'⟩ := List.mem_map.1 ((h'.names t.name).2 hname)
  obtain ⟨text', htext', hread'⟩ := h'.read t' ht'
  rw [hname', hd _ hname, htext, Except.ok.injEq] at htext'
  rw [hname', ← htext', hread, Except.ok.injEq] at hread'
  exact hread' ▸ ht'

/-- The names of its templates and the texts in their files determine an engine. -/
theorem Holds.eq (h : Holds s library d names e) (h' : Holds s library d' names e')
    (hd : ∀ m, names m → d' (.text (s.path m)) = d (.text (s.path m))) : e' = e := by
  have hsources : e'.sources = e.sources :=
    h'.ordered.eq_of_mem_iff h.ordered fun t =>
      ⟨h'.mem_sources h fun m hm => (hd m hm).symm, h.mem_sources h' hd⟩
  have hlibrary : e'.library = e.library := h'.library.trans h.library.symm
  cases e
  cases e'
  cases hsources
  cases hlibrary
  rfl

/-! ### Entries -/

/-- What an edition holds under a name: the name itself, the template that is rendered, and all
templates of its engine. -/
structure Entry where
  name : String
  own : String
  templates : String → Prop

/-- The layout, and the component files that a listing shows. -/
def InBase (s : Sources) (listed : List Listed) (m : String) : Prop :=
  m = s.layoutName ∨ ∃ l ∈ listed, ∃ stem, l.isFile = true ∧ l.name = some (stem ++ ".html") ∧
    stem ≠ "" ∧ m = engineName Config.componentsFolder stem

/-- A component and what it requires. -/
def InComponent (c : Component) (m : String) : Prop :=
  m = engineName Config.componentsFolder c.name ∨
    ∃ r ∈ c.requires, m = engineName Config.componentsFolder r

def baseEntry (s : Sources) (listed : List Listed) : Entry :=
  ⟨"base", s.layoutName, InBase s listed⟩

/-- A page stands on the base. -/
def pageEntry (s : Sources) (listed : List Listed) (n : String) : Entry :=
  ⟨n, engineName Config.pagesFolder n,
    fun m => InBase s listed m ∨ m = engineName Config.pagesFolder n⟩

/-- A component stands alone. -/
def componentEntry (c : Component) : Entry :=
  ⟨c.name, engineName Config.componentsFolder c.name, InComponent c⟩

/-- The entry of the last component of a name, else that of the page of the name, else the base. -/
def entryOf (s : Sources) (listed : List Listed) (n : String) : Entry :=
  match s.components.reverse.find? (·.name = n) with
  | some c => componentEntry c
  | none => if n ∈ s.pages then pageEntry s listed n else baseEntry s listed

/-- The page is an entry, with the texts of its templates as the disk has them. -/
structure Fits (s : Sources) (library : Library) (d : Disk) (x : Entry) (p : Page) : Prop where
  name : p.name = x.name
  entry : p.entry = x.own
  engine : Holds s library d x.templates p.engine

/-- Pages of one entry differ only if the text of one of its templates does. -/
theorem Fits.eq {x : Entry} {p p' : Page} (h : Fits s library d x p) (h' : Fits s library d' x p')
    (hd : ∀ m ∈ p.templates, d' (.text (s.path m)) = d (.text (s.path m))) : p' = p := by
  have hname := h'.name.trans h.name.symm
  have hentry := h'.entry.trans h.entry.symm
  have hengine := h.engine.eq h'.engine fun m hm => hd m ((h.engine.names m).2 hm)
  cases p
  cases p'
  cases hname
  cases hentry
  cases hengine
  rfl

/-! ### The stages of a build -/

theorem map_fst_of_forall₂ {names : List String} {texts : List (String × String)}
    (h : List.Forall₂ (fun n (x : String × String) => x.1 = engineName Config.componentsFolder n)
      names texts) : texts.map Prod.fst = names.map (engineName Config.componentsFolder) := by
  induction h with
  | nil => rfl
  | cons hx _ ih => rw [List.map_cons, List.map_cons, hx, ih]

theorem Forall₂.forall_mem_right {α β : Type} {R : α → β → Prop} {P : β → Prop} {as : List α}
    {bs : List β} (h : List.Forall₂ R as bs) (hP : ∀ a b, R a b → P b) : ∀ b ∈ bs, P b := by
  induction h with
  | nil => exact List.forall_mem_nil _
  | cons hab _ ih => exact List.forall_mem_cons.2 ⟨hP _ _ hab, ih⟩

theorem text_of_componentTexts {components : List (String × String)}
    (h : (componentTexts s).run.run d = .ok components) :
    ∀ x ∈ components, d (.text (s.path x.1)) = .ok x.2 := by
  obtain ⟨listed, -, hread⟩ := run_componentTexts_eq_ok_iff.1 h
  exact Forall₂.forall_mem_right hread fun _ _ hx => hx.2

theorem holds_base {listed : List Listed} {components : List (String × String)}
    (hlisted : d (.entries (s.folder Config.componentsFolder)) = .ok listed)
    (hcomponents : (componentTexts s).run.run d = .ok components)
    (h : (base s library components).run.run d = .ok e) :
    Holds s library d (InBase s listed) e := by
  obtain ⟨layout, hlayout, e₀, hfirst, hrest⟩ := run_base_eq_ok_iff.1 h
  obtain ⟨listed', hlisted', hread⟩ := run_componentTexts_eq_ok_iff.1 hcomponents
  rw [hlisted, Except.ok.injEq] at hlisted'
  subst hlisted'
  have hnames := map_fst_of_forall₂ (hread.imp fun _ _ hx => hx.1)
  have hlayout' : ∀ x ∈ [(s.layoutName, layout)], d (.text (s.path x.1)) = .ok x.2 :=
    List.forall_mem_singleton.2 hlayout
  refine ((Holds.empty.add hlayout' hfirst).add (text_of_componentTexts hcomponents)
    hrest).congr fun m => ?_
  rw [hnames]
  simp only [List.map_cons, List.map_nil, List.mem_singleton, false_or, List.mem_map,
    List.mem_filterMap, componentName?_eq_some_iff, InBase]
  refine or_congr_right ⟨?_, ?_⟩
  · rintro ⟨stem, ⟨l, hl, hfile, hname, hstem⟩, rfl⟩
    exact ⟨l, hl, stem, hfile, hname, hstem, rfl⟩
  · rintro ⟨l, hl, stem, hfile, hname, hstem, rfl⟩
    exact ⟨stem, ⟨l, hl, hfile, hname, hstem⟩, rfl⟩

theorem fits_of_page {listed : List Listed} {name : String} {p : Page}
    (hbase : Holds s library d (InBase s listed) e)
    (h : (page s e name).run.run d = .ok p) :
    Fits s library d (pageEntry s listed name) p := by
  obtain ⟨t, ht, e', hadd, rfl⟩ := run_page_eq_ok_iff.1 h
  have ht' : ∀ x ∈ [(engineName Config.pagesFolder name, t)], d (.text (s.path x.1)) = .ok x.2 :=
    List.forall_mem_singleton.2 ht
  refine ⟨rfl, rfl, (hbase.add ht' hadd).congr fun m => ?_⟩
  rw [List.map_cons, List.map_nil, List.mem_singleton]
  rfl

theorem fits_of_component {components : List (String × String)} {c : Component} {p : Page}
    (hcomponents : (componentTexts s).run.run d = .ok components)
    (h : (component s library components c).run.run d = .ok p) :
    Fits s library d (componentEntry c) p := by
  obtain ⟨texts, htexts, e', hadd, rfl⟩ := run_component_eq_ok_iff.1 h
  have hread : ∀ x ∈ texts, d (.text (s.path x.1)) = .ok x.2 :=
    Forall₂.forall_mem_right htexts fun _ _ hx =>
      text_of_componentTexts hcomponents _ (List.mem_of_find?_eq_some hx)
  have hnames := map_fst_of_forall₂ (htexts.imp fun _ _ hx => by simpa using List.find?_some hx)
  refine ⟨rfl, rfl, (Holds.empty.add hread hadd).congr fun m => ?_⟩
  rw [hnames]
  simp only [false_or, List.mem_map, List.mem_append, List.mem_singleton, componentEntry,
    InComponent]
  constructor
  · rintro ⟨r, hr | rfl, rfl⟩
    · exact .inr ⟨r, hr, rfl⟩
    · exact .inl rfl
  · rintro (rfl | ⟨r, hr, rfl⟩)
    · exact ⟨_, .inr rfl, rfl⟩
    · exact ⟨r, .inl hr, rfl⟩

/-! ### Editions -/

theorem get?_put (ed : Edition) (p : Page) (n : String) :
    (ed.put p).get? n = if p.name = n then some p else ed.get? n := by
  unfold Edition.get? Edition.put
  rw [putPage_eq]
  exact find?_insertNamed p n ed.pages

/-- The last page of a name is the one that is found. -/
theorem get?_ofPages (number : Nat) (pages : List Page) (n : String) :
    (ofPages number pages).get? n = pages.reverse.find? (·.name = n) := by
  have hfold : ∀ ed : Edition, (pages.foldl put ed).get? n =
      (pages.reverse.find? (·.name = n)).or (ed.get? n) := by
    induction pages with
    | nil => exact fun ed => rfl
    | cons p pages ih =>
      intro ed
      rw [List.foldl_cons, ih, get?_put, List.reverse_cons, List.find?_append, Option.or_assoc]
      congr 1
      by_cases hn : p.name = n <;> simp [hn]
  rw [ofPages, hfold]
  exact Option.or_none

theorem isOrdered_ofPages (number : Nat) (pages : List Page) :
    IsOrdered Page.name (ofPages number pages).pages := by
  have hfold : ∀ ed : Edition, IsOrdered Page.name ed.pages →
      IsOrdered Page.name (pages.foldl put ed).pages := by
    induction pages with
    | nil => exact fun ed h => h
    | cons p pages ih =>
      intro ed h
      refine ih _ ?_
      unfold Edition.put
      rw [putPage_eq]
      exact h.insertNamed p
  exact hfold _ isOrdered_nil

theorem mem_names_iff (ed : Edition) (n : String) : n ∈ ed.names ↔ (ed.get? n).isSome := by
  rw [Edition.names, Edition.get?, List.find?_isSome, List.mem_map]
  simp

/-- What is found among elements is found among what stands for them. -/
theorem Forall₂.find?_rel {α β : Type} {R : α → β → Prop} {p : α → Bool} {q : β → Bool}
    {as : List α} {bs : List β} (h : List.Forall₂ R as bs) (hpq : ∀ a b, R a b → p a = q b) :
    Option.Rel R (as.find? p) (bs.find? q) := by
  induction h with
  | nil => exact .none
  | cons hab _ ih =>
    rw [List.find?_cons, List.find?_cons, ← hpq _ _ hab]
    split
    · exact .some hab
    · exact ih

theorem isSome_iff_of_rel {α β : Type} {R : α → β → Prop} {a : Option α} {b : Option β}
    (h : Option.Rel R a b) : b.isSome ↔ a.isSome := by
  cases h <;> rfl

variable {listed : List Listed} {number : Nat} {ed : Edition} {n : String} {p p' : Page}

theorem exists_listing (h : (build s library number).run.run d = .ok ed) :
    ∃ listed, d (.entries (s.folder Config.componentsFolder)) = .ok listed := by
  obtain ⟨components, hcomponents, -⟩ := run_build_eq_ok_iff.1 h
  obtain ⟨listed, hlisted, -⟩ := run_componentTexts_eq_ok_iff.1 hcomponents
  exact ⟨listed, hlisted⟩

/-- What is found in an edition is found among the components, else among the pages, else it is the
base. -/
theorem get?_of_build (hlisted : d (.entries (s.folder Config.componentsFolder)) = .ok listed)
    (h : (build s library number).run.run d = .ok ed) (n : String) :
    ∃ alone? page? first,
      Option.Rel (fun c => Fits s library d (componentEntry c))
        (s.components.reverse.find? (·.name = n)) alone? ∧
      Option.Rel (fun n => Fits s library d (pageEntry s listed n))
        (s.pages.reverse.find? (· = n)) page? ∧
      Fits s library d (baseEntry s listed) first ∧
      ed.get? n = alone?.or (page?.or (if first.name = n then some first else none)) := by
  obtain ⟨components, hcomponents, engine, hengine, pages, hpages, alone, halone, rfl⟩ :=
    run_build_eq_ok_iff.1 h
  have hbase := holds_base hlisted hcomponents hengine
  refine ⟨alone.reverse.find? (·.name = n), pages.reverse.find? (·.name = n),
    ⟨Config.baseName, s.layoutName, engine⟩, ?_, ?_, ⟨rfl, rfl, hbase⟩, ?_⟩
  · refine Forall₂.find?_rel (List.forall₂_reverse_iff.2 (halone.imp fun _ _ hr => ?_)) ?_
    · exact fits_of_component hcomponents hr
    · rintro c q ⟨hname, -, -⟩
      rw [hname]
      rfl
  · refine Forall₂.find?_rel (List.forall₂_reverse_iff.2 (hpages.imp fun _ _ hr => ?_)) ?_
    · exact fits_of_page hbase hr
    · rintro name q ⟨hname, -, -⟩
      rw [hname]
      rfl
  · rw [get?_ofPages, List.reverse_append, List.find?_append, List.reverse_cons, List.find?_append,
      List.find?_singleton]
    simp only [decide_eq_true_eq]

theorem names_of_build (hlisted : d (.entries (s.folder Config.componentsFolder)) = .ok listed)
    (h : (build s library number).run.run d = .ok ed) (n : String) :
    n ∈ ed.names ↔ n = "base" ∨ n ∈ s.pages ∨ ∃ c ∈ s.components, c.name = n := by
  obtain ⟨alone?, page?, first, halone, hpage, hfirst, hfound⟩ := get?_of_build hlisted h n
  have hcomponent : alone?.isSome ↔ ∃ c ∈ s.components, c.name = n := by
    rw [isSome_iff_of_rel halone, List.find?_isSome]
    simp
  have hpage : page?.isSome ↔ n ∈ s.pages := by
    rw [isSome_iff_of_rel hpage, List.find?_isSome]
    simp
  have hbase : (if first.name = n then some first else none).isSome ↔ n = "base" := by
    rw [Option.isSome_ite, hfirst.name, eq_comm]
    rfl
  rw [mem_names_iff, hfound, Option.isSome_or, Option.isSome_or, Bool.or_eq_true, Bool.or_eq_true,
    hcomponent, hpage, hbase]
  constructor
  · rintro (hc | hp | hb)
    · exact .inr (.inr hc)
    · exact .inr (.inl hp)
    · exact .inl hb
  · rintro (hb | hp | hc)
    · exact .inr (.inr hb)
    · exact .inr (.inl hp)
    · exact .inl hc

theorem fits_of_get? (hlisted : d (.entries (s.folder Config.componentsFolder)) = .ok listed)
    (h : (build s library number).run.run d = .ok ed) (hp : ed.get? n = some p) :
    Fits s library d (entryOf s listed n) p := by
  obtain ⟨alone?, page?, first, halone, hpage, hfirst, hfound⟩ := get?_of_build hlisted h n
  rw [hfound] at hp
  unfold entryOf
  generalize s.components.reverse.find? (·.name = n) = component? at halone
  cases halone with
  | some hcomponent =>
    cases hp
    exact hcomponent
  | none =>
    rw [Option.none_or] at hp
    dsimp only
    cases hname : s.pages.reverse.find? (· = n) with
    | some name =>
      obtain rfl : name = n := by simpa using List.find?_some hname
      rw [hname] at hpage
      obtain ⟨hpage⟩ := hpage
      cases hp
      rw [if_pos (List.mem_reverse.1 (List.mem_of_find?_eq_some hname))]
      exact hpage
    | none =>
      have hn : n ∉ s.pages := fun hn => by
        simpa using List.find?_eq_none.1 hname n (List.mem_reverse.2 hn)
      rw [hname] at hpage
      cases hpage
      rw [if_neg hn]
      rw [Option.none_or, Option.ite_none_right_eq_some, Option.some.injEq] at hp
      exact hp.2 ▸ hfirst

/-- A disk with a layout, a component, a page of the component's name and one whose text is given. -/
def homeDisk (home : String) : Disk
  | .text path =>
    if path = "t/pages/home.html" then .ok home
    else if path ∈ ["t/layout/frame.html", "t/components/toast.html", "t/pages/toast.html"] then
      .ok path
    else .error .missing
  | .entries _ => .ok [⟨some "toast.html", true⟩, ⟨some "old", true⟩, ⟨none, true⟩]
  | .isFolder _ => true
  | .exists _ => true
  | .canonical path => .ok path
  | .here => "/"

end LivePages.Edition
