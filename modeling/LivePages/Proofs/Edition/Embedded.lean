import LivePages.Proofs.Edition.Contents
import LivePages.Proofs.Template.Depth
import LivePages.Proofs.Template.Embedding

/-! A component alone and in a page. Its own engine holds it with what it requires, a page's engine
all components with the layout and the page; what the component reaches stands in both, as its file
has it. -/

namespace LivePages.Edition

open Config (Sources Component engineName)
open Template (Engine Library Source)

variable {s : Sources} {library : Library} {d : Disk} {names : String → Prop} {e : Engine}

/-! ### Templates in an engine -/

/-- A template is found as its file has it. -/
theorem Holds.find? (h : Holds s library d names e) {m : String} (hm : names m) :
    ∃ t text, d (.text (s.path m)) = .ok text ∧ Source.read m text = .ok t ∧
      e.find? m = some t := by
  obtain ⟨u, hu, rfl⟩ := List.mem_map.1 ((h.names m).2 hm)
  have hsome : (e.find? u.name).isSome := List.find?_isSome.2 ⟨u, hu, decide_eq_true rfl⟩
  obtain ⟨t, ht⟩ := Option.isSome_iff_exists.1 hsome
  obtain ⟨text, htext, hread⟩ := h.read t (List.mem_of_find?_eq_some ht)
  rw [Engine.name_of_find? ht] at htext hread
  exact ⟨t, text, htext, hread, ht⟩

theorem Holds.of_find? (h : Holds s library d names e) {m : String} {t : Source}
    (ht : e.find? m = some t) : names m := by
  rw [← Engine.name_of_find? ht]
  exact (h.names _).1 (List.mem_map_of_mem (List.mem_of_find?_eq_some ht))

/-- Two engines agree on the names that both hold. -/
theorem Holds.find?_eq {names' : String → Prop} {e' : Engine} (h : Holds s library d names e)
    (h' : Holds s library d names' e') {m : String} (hm : names m) (hm' : names' m) :
    e'.find? m = e.find? m := by
  obtain ⟨t, text, htext, hread, ht⟩ := h.find? hm
  obtain ⟨t', text', htext', hread', ht'⟩ := h'.find? hm'
  obtain rfl : text = text' := Except.ok.inj (htext.symm.trans htext')
  rw [ht, ht', Except.ok.inj (hread.symm.trans hread')]

theorem ofNodes_of_read {name text : String} {t : Source} (h : Source.read name text = .ok t) :
    t = .ofNodes t.name t.nodes := by
  unfold Source.read at h
  split at h
  · cases h
  dsimp only at h
  split at h
  · cases h
  · cases h
    rfl

theorem Holds.ofNodes (h : Holds s library d names e) {m : String} {t : Source}
    (ht : e.find? m = some t) : t = .ofNodes t.name t.nodes := by
  obtain ⟨text, -, hread⟩ := h.read t (List.mem_of_find?_eq_some ht)
  exact ofNodes_of_read hread

/-! ### What a component requires -/

variable {listed : List Listed} {c : Component}

/-- What is required has been read with all components. -/
theorem inBase_of_inComponent {components : List (String × String)} {p : Page}
    (hlisted : d (.entries (s.folder Config.componentsFolder)) = .ok listed)
    (hcomponents : (componentTexts s).run.run d = .ok components)
    (h : (component s library components c).run.run d = .ok p) {m : String} (hm : InComponent c m) :
    InBase s listed m := by
  obtain ⟨texts, htexts, -⟩ := run_component_eq_ok_iff.1 h
  obtain ⟨listed', hlisted', hread⟩ := run_componentTexts_eq_ok_iff.1 hcomponents
  obtain rfl : listed = listed' := Except.ok.inj (hlisted.symm.trans hlisted')
  obtain ⟨r, hr, rfl⟩ : ∃ r ∈ c.requires ++ [c.name], m = engineName Config.componentsFolder r := by
    rcases hm with rfl | ⟨r, hr, rfl⟩
    · exact ⟨c.name, List.mem_append_right _ (List.mem_singleton_self _), rfl⟩
    · exact ⟨r, List.mem_append_left _ hr, rfl⟩
  obtain ⟨x, hx⟩ := Forall₂.forall_mem_right (P := fun r => ∃ x,
    components.find? (·.1 = engineName Config.componentsFolder r) = some x) htexts.flip
    (fun x r hx => ⟨x, hx⟩) r hr
  have hname : x.1 = engineName Config.componentsFolder r := by simpa using List.find?_some hx
  have hmem := List.mem_map_of_mem (f := Prod.fst) (List.mem_of_find?_eq_some hx)
  rw [map_fst_of_forall₂ (hread.imp fun _ _ hc => hc.1), hname] at hmem
  obtain ⟨stem, hstem, heq⟩ := List.mem_map.1 hmem
  obtain ⟨l, hl, hcomponent⟩ := List.mem_filterMap.1 hstem
  obtain ⟨hfile, hlname, hne⟩ := componentName?_eq_some_iff.1 hcomponent
  exact .inr ⟨l, hl, stem, hfile, hlname, hne, heq.symm⟩

theorem inBase_of_build {number : Nat} {ed : Edition}
    (hlisted : d (.entries (s.folder Config.componentsFolder)) = .ok listed)
    (h : (build s library number).run.run d = .ok ed) (hc : c ∈ s.components) {m : String}
    (hm : InComponent c m) : InBase s listed m := by
  obtain ⟨components, hcomponents, -, -, -, -, alone, halone, -⟩ := run_build_eq_ok_iff.1 h
  obtain ⟨p, hp⟩ := Forall₂.forall_mem_right
    (P := fun c => ∃ p, (component s library components c).run.run d = .ok p) halone.flip
    (fun p c hp => ⟨p, hp⟩) c hc
  exact inBase_of_inComponent hlisted hcomponents hp hm

/-! ### Both renderings -/

/-- Names of files escape what is put into them. -/
theorem escapes_engineName (folder name : String) :
    Template.escapes (engineName folder name) = true := by
  have hsuffix : ".html".toList <:+ (engineName folder name).toList :=
    ⟨(folder ++ "/" ++ name).toList, by simp [engineName, Config.ending]⟩
  rw [Template.escapes, List.any_cons, List.isSuffixOf_iff_suffix.2 hsuffix]
  rfl

theorem not_mem_engineName {name : String} (h : '"' ∉ name.toList) :
    '"' ∉ (engineName Config.componentsFolder name).toList := by
  simpa [engineName, Config.componentsFolder, Config.ending] using h

variable {n : String} {alone page : Page}

/-- About all that the component reaches, the page's engine knows what its own one knows. -/
theorem shared_of_fits (halone : Fits s library d (componentEntry c) alone)
    (hpage : Fits s library d (pageEntry s listed n) page)
    (hbase : ∀ m, InComponent c m → InBase s listed m)
    (hreach : ∀ t, page.engine.Reaches alone.entry t →
      InComponent c t.name ∧ t.IsPlain ∧ t.IsPlaced) :
    Template.Shared (page.engine.Reaches alone.entry) alone.engine page.engine := by
  refine Template.shared_of_reaches (hpage.engine.library.trans halone.engine.library.symm)
    (fun t ht => (hreach t ht).2.1) (fun t ht => (hreach t ht).2.2)
    (fun t ht => hpage.engine.ofNodes ht.find?) (fun m hm => ?_) fun m t ht hm => ?_
  · rw [Option.eq_none_iff_forall_ne_some]
    intro t ht
    obtain ⟨u, -, -, -, hu⟩ := hpage.engine.find? (.inl (hbase m (halone.engine.of_find? ht)))
    rw [hm] at hu
    cases hu
  · obtain rfl := Engine.name_of_find? hm
    have hname := (hreach t ht).1
    rw [← hm]
    exact hpage.engine.find?_eq halone.engine (.inl (hbase _ hname)) hname

theorem outcome_of_fits (halone : Fits s library d (componentEntry c) alone)
    (hpage : Fits s library d (pageEntry s listed n) page)
    (hbase : ∀ m, InComponent c m → InBase s listed m)
    (hreach : ∀ t, page.engine.Reaches alone.entry t →
      InComponent c t.name ∧ t.IsPlain ∧ t.IsPlaced)
    (hname : '"' ∉ c.name.toList)
    (htext : d (.text (s.path (engineName Config.pagesFolder n))) =
      .ok (Template.inclusionText (engineName Config.componentsFolder c.name)))
    (depth : Nat) (fields : Json.Fields) :
    page.engine.outcome (depth + 1) page.entry fields =
      alone.engine.outcome depth alone.entry fields := by
  have hshared := shared_of_fits halone hpage hbase hreach
  obtain ⟨t, -, -, -, ht⟩ := halone.engine.find? (.inl rfl)
  obtain ⟨u, text, htext', hread, hu⟩ := hpage.engine.find? (.inr rfl)
  obtain rfl : Template.inclusionText _ = text := Except.ok.inj (htext.symm.trans htext')
  rw [Template.read_inclusionText _ (not_mem_engineName hname), Except.ok.injEq] at hread
  have htname : t.name = engineName Config.componentsFolder c.name := Engine.name_of_find? ht
  have hboth : page.engine.find? t.name = some t := by
    rw [← ht, ← htname]
    exact halone.engine.find?_eq hpage.engine (.inl htname) (.inl (hbase _ (.inl htname)))
  have hescapes : Template.escapes (engineName Config.pagesFolder n) = Template.escapes t.name := by
    rw [htname, escapes_engineName, escapes_engineName]
  have halone' : alone.entry = t.name := halone.entry.trans htname.symm
  have hpage' : page.entry = engineName Config.pagesFolder n := hpage.entry
  rw [halone', hpage']
  refine hshared.outcome_embedding (.start (halone' ▸ hboth)) ?_ ?_ hescapes depth fields
  · rw [htname]
    exact ht
  · rw [htname, hread]
    exact hu

theorem toOption_render (p : Page) (fields : Json.Fields) :
    (p.render (.obj fields)).toOption =
      (p.engine.outcome Template.depthLimit p.entry fields).getD none := by
  rw [← Engine.toOption_render]
  unfold Page.render
  dsimp only
  cases p.engine.render p.entry (.obj fields) <;> rfl

/-- Where a page comes to an end within the limit, the component in it does with one level less. -/
theorem toOption_render_eq {fields : Json.Fields}
    (h : ∀ depth, page.engine.outcome (depth + 1) page.entry fields =
      alone.engine.outcome depth alone.entry fields)
    (hend : page.engine.outcome Template.depthLimit page.entry fields ≠ none) :
    (page.render (.obj fields)).toOption = (alone.render (.obj fields)).toOption := by
  obtain ⟨r, hr⟩ := Option.ne_none_iff_exists'.1 hend
  have hlimit : Template.depthLimit = 9999 + 1 := rfl
  have hle : 9999 ≤ Template.depthLimit := Nat.le_succ 9999
  have halone : alone.engine.outcome 9999 alone.entry fields = some r := by
    rw [← h, ← hlimit, hr]
  rw [toOption_render, toOption_render, hr, Engine.outcome_of_le hle halone]

/-- A page that only includes a component comes to the same text as the component alone, or both
fail, if it is plain and requires what it reaches. -/
theorem embedded_as_alone (s : Sources) (library : Library) (number : Nat) (d : Disk) (ed : Edition)
    (c : Component) (n : String) (h : (build s library number).run.run d = .ok ed)
    (hc : s.components.reverse.find? (·.name = c.name) = some c)
    (hn : n ∈ s.pages) (hshadow : ∀ c' ∈ s.components, c'.name ≠ n)
    (htext : d (.text (s.path (engineName "pages" n))) =
      .ok (Template.inclusionText (engineName "components" c.name)))
    (hname : '"' ∉ c.name.toList) :
    ∃ alone page, ed.get? c.name = some alone ∧ ed.get? n = some page ∧
      ((∀ t, page.engine.Reaches alone.entry t → InComponent c t.name ∧ t.IsPlain ∧ t.IsPlaced) →
        ∀ fields,
          (∀ depth, page.engine.outcome (depth + 1) page.entry fields =
            alone.engine.outcome depth alone.entry fields) ∧
          (page.engine.outcome Template.depthLimit page.entry fields ≠ none →
            (page.render (.obj fields)).toOption = (alone.render (.obj fields)).toOption)) := by
  obtain ⟨listed, hlisted⟩ := exists_listing h
  have hmem := List.mem_reverse.1 (List.mem_of_find?_eq_some hc)
  have hnone : s.components.reverse.find? (·.name = n) = none := by
    rw [List.find?_eq_none]
    intro c' hc'
    simpa using hshadow c' (List.mem_reverse.1 hc')
  have hnames := names_of_build hlisted h
  obtain ⟨alone, halone⟩ := Option.isSome_iff_exists.1
    ((mem_names_iff ed c.name).1 ((hnames _).2 (.inr (.inr ⟨c, hmem, rfl⟩))))
  obtain ⟨page, hpage⟩ := Option.isSome_iff_exists.1
    ((mem_names_iff ed n).1 ((hnames n).2 (.inr (.inl hn))))
  have hfits := fits_of_get? hlisted h halone
  have hfits' := fits_of_get? hlisted h hpage
  unfold entryOf at hfits hfits'
  rw [hc] at hfits
  rw [hnone] at hfits'
  dsimp only at hfits hfits'
  rw [if_pos hn] at hfits'
  refine ⟨alone, page, halone, hpage, fun hreach fields => ?_⟩
  have houtcome := fun depth => outcome_of_fits hfits hfits'
    (fun m hm => inBase_of_build hlisted h hmem hm) hreach hname htext depth fields
  exact ⟨houtcome, toOption_render_eq houtcome⟩

/-! ### One component and one page -/

/-- A disk with a layout, some components and a page. -/
def includingDisk (components : List (String × String)) (home : String) : Disk
  | .text path =>
    if path = "t/layout/frame.html" then .ok ""
    else if path = "t/pages/home.html" then .ok home
    else
      match components.find? fun c => path = "t/components/" ++ c.1 with
      | some c => .ok c.2
      | none => .error .missing
  | .entries _ => .ok (components.map fun c => ⟨some c.1, true⟩)
  | .isFolder _ => true
  | .exists _ => true
  | .canonical path => .ok path
  | .here => "/"

def onePage (c : Component) : Sources :=
  ⟨"t", "frame", ["home"], [c]⟩

/-- A build with one component and the page that includes it. -/
def including (c : Component) (components : List (String × String)) : Except PageFault Edition :=
  (build (onePage c) ⟨fun _ => none, fun _ => none, fun _ => none⟩ 1).run.run
    (includingDisk components (Template.inclusionText (engineName "components" c.name)))

/-- The component's name in engines, and those of what it requires. -/
def ownNames (c : Component) : List String :=
  (c.name :: c.requires).map (engineName "components")

theorem inComponent_of_mem {m : String} (h : m ∈ ownNames c) : InComponent c m := by
  obtain ⟨r, hr, rfl⟩ := List.mem_map.1 h
  rcases List.mem_cons.1 hr with rfl | hr
  · exact .inl rfl
  · exact .inr ⟨r, hr, rfl⟩

/-- Alone and in the page, the component comes to these texts; it stays among what it requires, and
if `placed`, no template leaves a loop but from its body. -/
def comesTo (c : Component) (placed : Bool) (fields : Json.Fields) (texts : String × String)
    (alone page : Page) : Bool :=
  decide (alone.entry = engineName "components" c.name ∧ page.engine.IsClosed (ownNames c) ∧
    (placed = true → ∀ t ∈ page.engine.sources, t.IsPlaced) ∧
    (alone.render (.obj fields)).toOption = some texts.1 ∧
    (page.render (.obj fields)).toOption = some texts.2)

theorem exists_comesTo {components : List (String × String)} {placed : Bool} {fields : Json.Fields}
    {texts : String × String}
    (h : ((including c components).toOption.any fun ed => (ed.get? c.name).any fun alone =>
      (ed.get? "home").any fun page => comesTo c placed fields texts alone page) = true) :
    ∃ ed alone page, including c components = .ok ed ∧ ed.get? c.name = some alone ∧
      ed.get? "home" = some page ∧
      (∀ t, page.engine.Reaches alone.entry t →
        InComponent c t.name ∧ t.IsPlain ∧ (placed = true → t.IsPlaced)) ∧
      (alone.render (.obj fields)).toOption = some texts.1 ∧
      (page.render (.obj fields)).toOption = some texts.2 := by
  obtain ⟨ed, hed, h⟩ := (Option.any_eq_true _ _).1 h
  obtain ⟨alone, halone, h⟩ := (Option.any_eq_true _ _).1 h
  obtain ⟨page, hpage, h⟩ := (Option.any_eq_true _ _).1 h
  obtain ⟨hentry, hclosed, hplaced, htexts⟩ := of_decide_eq_true h
  refine ⟨ed, alone, page, eq_ok_of_toOption hed, halone, hpage, fun t ht => ?_, htexts⟩
  have hname : alone.entry ∈ ownNames c := by
    rw [hentry]
    exact List.mem_cons_self
  obtain ⟨hmem, hplain⟩ := ht.of_isClosed hname hclosed
  exact ⟨inComponent_of_mem hmem, hplain,
    fun h => hplaced h t (List.mem_of_find?_eq_some ht.find?)⟩

/-- A component that imports what it requires and leaves its loop early. -/
def leaving : List (String × String) :=
  [("bar.html", "\x7b% import \"components/kit.html\" as m %\x7d" ++
      "\x7b% for a in e %\x7d\x7b\x7b m::g() \x7d\x7d\x7b% break %\x7d\x7b% endfor %\x7drest"),
    ("kit.html", "\x7b% macro g() %\x7dx\x7b% endmacro %\x7d")]

theorem embedded_as_alone_leaving :
    ∃ ed alone page, including ⟨"bar", ["kit"]⟩ leaving = .ok ed ∧
      ed.get? "bar" = some alone ∧ ed.get? "home" = some page ∧
      (∀ fields depth, page.engine.outcome (depth + 1) page.entry fields =
        alone.engine.outcome depth alone.entry fields) ∧
      (page.render (.obj [("e", .arr [.int 1])])).toOption = some "xrest" ∧
      (page.render (.obj [("e", .arr [.int 1])])).toOption =
        (alone.render (.obj [("e", .arr [.int 1])])).toOption := by
  have hbuilt : ((including ⟨"bar", ["kit"]⟩ leaving).toOption.any fun ed =>
      (ed.get? "bar").any fun alone => (ed.get? "home").any fun page =>
        comesTo ⟨"bar", ["kit"]⟩ true [("e", .arr [.int 1])] ("xrest", "xrest") alone page) =
      true := by decide +kernel
  obtain ⟨ed, alone, page, hed, halone, hpage, hreach, -, htext⟩ := exists_comesTo hbuilt
  obtain ⟨alone', page', halone', hpage', hsame⟩ :=
    embedded_as_alone (onePage ⟨"bar", ["kit"]⟩) ⟨fun _ => none, fun _ => none, fun _ => none⟩ 1
      (includingDisk leaving (Template.inclusionText "components/bar.html")) ed ⟨"bar", ["kit"]⟩
      "home" hed rfl (by decide) (by decide) rfl (by decide)
  obtain rfl := Option.some.inj (halone.symm.trans halone')
  obtain rfl := Option.some.inj (hpage.symm.trans hpage')
  have hequal := hsame fun t ht =>
    ⟨(hreach t ht).1, (hreach t ht).2.1, (hreach t ht).2.2 rfl⟩
  refine ⟨ed, alone, page, hed, halone, hpage, fun fields => (hequal fields).1, htext, ?_⟩
  refine (hequal _).2 fun hnone => ?_
  rw [toOption_render, hnone] at htext
  cases htext

/-- A component that leaves a loop from its other part, after a definition that fails in a
condition. -/
def leavingOtherwise : List (String × String) :=
  [("bar.html", "\x7b% import \"components/kit.html\" as m %\x7d" ++
      "\x7b% if y | default(value=m::g()) %\x7d\x7b% endif %\x7d" ++
      "\x7b% for a in e %\x7d\x7b% else %\x7d\x7b% break %\x7d\x7b% endfor %\x7drest"),
    ("kit.html", "\x7b% macro g() %\x7d\x7b% for i in [1] %\x7d\x7b\x7b boom \x7d\x7d" ++
      "\x7b% endfor %\x7d\x7b% endmacro %\x7d")]

/-- A component whose definition leaves its loop from a filter section, and then fails there. -/
def leavingFiltered : List (String × String) :=
  [("bar.html", "\x7b% import \"components/kit.html\" as m %\x7d" ++
      "\x7b% if y | default(value=m::g()) %\x7d\x7b% endif %\x7drest"),
    ("kit.html", "\x7b% macro g() %\x7d\x7b% for i in [1] %\x7d\x7b% filter upper(x=boom) %\x7d" ++
      "\x7b% for a in e %\x7d\x7b% else %\x7d\x7b% break %\x7d\x7b% endfor %\x7d" ++
      "\x7b% endfilter %\x7d\x7b% endfor %\x7d\x7b% endmacro %\x7d")]

/-- A name that ends the name in the page that includes it, and goes on with tags of its own. -/
def quotingName : String :=
  "a.html\" %\x7d1\x7b% set x = \"b"

theorem comes_apart {texts : List (String × String)} (h : texts ∈ [leavingOtherwise, leavingFiltered]) :
    ((including ⟨"bar", ["kit"]⟩ texts).toOption.any fun ed =>
      (ed.get? "bar").any fun alone => (ed.get? "home").any fun page =>
        comesTo ⟨"bar", ["kit"]⟩ false [("e", .arr [])] ("rest", "") alone page) = true := by
  rcases List.mem_pair.1 h with rfl | rfl
  · decide +kernel
  · decide +kernel

/-- Alone a component goes on after a round that stayed behind, in the page it does not; and a quote
in the name includes another component. -/
theorem embedded_differs :
    (∀ texts ∈ [leavingOtherwise, leavingFiltered], ∃ ed alone page,
      including ⟨"bar", ["kit"]⟩ texts = .ok ed ∧
      ed.get? "bar" = some alone ∧ ed.get? "home" = some page ∧
      (∀ t, page.engine.Reaches alone.entry t → InComponent ⟨"bar", ["kit"]⟩ t.name ∧ t.IsPlain) ∧
      (alone.render (.obj [("e", .arr [])])).toOption = some "rest" ∧
      (page.render (.obj [("e", .arr [])])).toOption = some "") ∧
    ∃ ed alone page, including ⟨quotingName, []⟩
        [("a.html", "A"), (quotingName ++ ".html", "B")] = .ok ed ∧
      ed.get? quotingName = some alone ∧ ed.get? "home" = some page ∧
      (∀ t, page.engine.Reaches alone.entry t →
        InComponent ⟨quotingName, []⟩ t.name ∧ t.IsPlain ∧ t.IsPlaced) ∧
      (alone.render (.obj [])).toOption = some "B" ∧
      (page.render (.obj [])).toOption = some "A1" := by
  have hquoting : ((including ⟨quotingName, []⟩
      [("a.html", "A"), (quotingName ++ ".html", "B")]).toOption.any fun ed =>
      (ed.get? quotingName).any fun alone => (ed.get? "home").any fun page =>
        comesTo ⟨quotingName, []⟩ true [] ("B", "A1") alone page) = true := by
    decide +kernel
  constructor
  · intro texts htexts
    obtain ⟨ed, alone, page, hed, halone, hpage, hreach, hrendered⟩ :=
      exists_comesTo (comes_apart htexts)
    exact ⟨ed, alone, page, hed, halone, hpage,
      fun t ht => ⟨(hreach t ht).1, (hreach t ht).2.1⟩, hrendered⟩
  · obtain ⟨ed, alone, page, hed, halone, hpage, hreach, hrendered⟩ := exists_comesTo hquoting
    exact ⟨ed, alone, page, hed, halone, hpage,
      fun t ht => ⟨(hreach t ht).1, (hreach t ht).2.1, (hreach t ht).2.2 rfl⟩, hrendered⟩

end LivePages.Edition
