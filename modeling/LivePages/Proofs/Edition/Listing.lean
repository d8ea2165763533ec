import Mathlib.Data.List.Perm.Basic
import LivePages.Proofs.Edition.Contents

/-! The order in which a disk lists the component files. A build reads the same texts whatever the
order, and an engine does not depend on the order in which its texts are added, so the edition is the
same or there is none. -/

namespace LivePages.Edition

open Config (Sources Component engineName)
open Template (Engine Library Source)

variable {s : Sources} {library : Library} {d d' : Disk} {names : String → Prop} {e e' : Engine}

/-! ### Texts in another order -/

theorem put_eq_ok_iff {texts : List (String × String)} :
    (∃ e', e.put texts = .ok e') ↔ ∀ x ∈ texts, ∃ t, Source.read x.1 x.2 = .ok t := by
  induction texts generalizing e with
  | nil => exact iff_of_true ⟨e, rfl⟩ (List.forall_mem_nil _)
  | cons x r ih =>
    rw [List.forall_mem_cons]
    cases hread : Source.read x.1 x.2 with
    | error f =>
      refine iff_of_false ?_ ?_
      · rintro ⟨e', he'⟩
        rw [Engine.put, hread] at he'
        cases he'
      · rintro ⟨⟨t, ht⟩, -⟩
        cases ht
    | ok t =>
      rw [← ih (e := ⟨e.library, Template.putSource t e.sources⟩), Engine.put, hread]
      exact ⟨fun h => ⟨⟨t, rfl⟩, h⟩, fun h => h.2⟩

/-- Texts of files may be added in any order. -/
theorem Holds.add_of_perm {texts texts' : List (String × String)} (h : Holds s library d names e)
    (htexts : ∀ x ∈ texts, d (.text (s.path x.1)) = .ok x.2) (hperm : texts.Perm texts')
    (hadd : e.add texts = .ok e') : e.add texts' = .ok e' := by
  obtain ⟨hput, hcheck⟩ := add_eq_ok_iff.1 hadd
  have hreads := put_eq_ok_iff.1 ⟨e', hput⟩
  obtain ⟨e₂, hput₂⟩ := put_eq_ok_iff (e := e).2 fun x hx => hreads x (hperm.mem_iff.2 hx)
  have hold := h.put htexts hput
  have hnew := (h.put (fun x hx => htexts x (hperm.mem_iff.2 hx)) hput₂).congr fun m =>
    or_congr_right (hperm.map Prod.fst).symm.mem_iff
  obtain rfl : e₂ = e' := hold.eq hnew fun _ _ => rfl
  exact add_eq_ok_iff.2 ⟨hput₂, hcheck⟩

/-! ### Components in another order -/

variable {components components' : List (String × String)}

/-- Disks that give the same answers but for the order in which they list the components. -/
structure ListsAlike (s : Sources) (d d' : Disk) : Prop where
  listing : ∀ listed, d (.entries (s.folder Config.componentsFolder)) = .ok listed →
    ∃ listed', d' (.entries (s.folder Config.componentsFolder)) = .ok listed' ∧
      listed.Perm listed'
  text : ∀ path, d' (.text path) = d (.text path)

theorem ListsAlike.componentTexts (h : ListsAlike s d d')
    (hc : (componentTexts s).run.run d = .ok components) :
    ∃ components', (Edition.componentTexts s).run.run d' = .ok components' ∧
      components.Perm components' := by
  obtain ⟨listed, hlisted, hreads⟩ := run_componentTexts_eq_ok_iff.1 hc
  obtain ⟨listed', hlisted', hperm⟩ := h.listing listed hlisted
  obtain ⟨components', hreads', hperm'⟩ :=
    List.perm_comp_forall₂ (hperm.filterMap componentName?).symm hreads
  refine ⟨components', run_componentTexts_eq_ok_iff.2 ⟨listed', hlisted', ?_⟩, hperm'.symm⟩
  refine hreads'.imp fun name c hc => ⟨hc.1, ?_⟩
  rw [h.text]
  exact hc.2

theorem ListsAlike.base (h : ListsAlike s d d') (hperm : components.Perm components')
    (htexts : ∀ x ∈ components, d (.text (s.path x.1)) = .ok x.2)
    (hbase : (base s library components).run.run d = .ok e) :
    (Edition.base s library components').run.run d' = .ok e := by
  obtain ⟨layout, hlayout, e₀, hfirst, hall⟩ := run_base_eq_ok_iff.1 hbase
  have hlayout' : ∀ x ∈ [(s.layoutName, layout)], d (.text (s.path x.1)) = .ok x.2 :=
    List.forall_mem_singleton.2 hlayout
  have hheld := Holds.empty.add hlayout' hfirst
  refine run_base_eq_ok_iff.2 ⟨layout, ?_, e₀, hfirst, hheld.add_of_perm htexts hperm hall⟩
  rw [h.text]
  exact hlayout

theorem ListsAlike.page (h : ListsAlike s d d') {n : String} {p : Page}
    (hpage : (page s e n).run.run d = .ok p) : (Edition.page s e n).run.run d' = .ok p := by
  obtain ⟨t, ht, hrest⟩ := run_page_eq_ok_iff.1 hpage
  refine run_page_eq_ok_iff.2 ⟨t, ?_, hrest⟩
  rw [h.text]
  exact ht

/-- Texts that stand in files are found by name in any order: two of one name are the same text. -/
theorem find?_of_perm (hperm : components.Perm components')
    (htexts : ∀ x ∈ components, d (.text (s.path x.1)) = .ok x.2) {n : String} {x : String × String}
    (hx : components.find? (·.1 = n) = some x) : components'.find? (·.1 = n) = some x := by
  have hmem := List.mem_of_find?_eq_some hx
  obtain rfl : x.1 = n := by simpa using List.find?_some hx
  refine find?_of_unique (hperm.mem_iff.1 hmem) fun y hy hname => ?_
  have htext := (htexts y (hperm.mem_iff.2 hy)).symm.trans (hname ▸ htexts x hmem)
  exact Prod.ext hname (Except.ok.inj htext)

theorem component_of_perm (hperm : components.Perm components')
    (htexts : ∀ x ∈ components, d (.text (s.path x.1)) = .ok x.2) {c : Component} {p : Page}
    (hc : (component s library components c).run.run d = .ok p) :
    (component s library components' c).run.run d' = .ok p := by
  obtain ⟨texts, hfound, hrest⟩ := run_component_eq_ok_iff.1 hc
  refine run_component_eq_ok_iff.2 ⟨texts, hfound.imp fun r x hx => ?_, hrest⟩
  exact find?_of_perm hperm htexts hx

theorem ListsAlike.build (h : ListsAlike s d d') {number : Nat} {ed : Edition}
    (hbuild : (build s library number).run.run d = .ok ed) :
    (Edition.build s library number).run.run d' = .ok ed := by
  obtain ⟨components, hcomponents, e, hbase, pages, hpages, alone, halone, hed⟩ :=
    run_build_eq_ok_iff.1 hbuild
  obtain ⟨components', hcomponents', hperm⟩ := h.componentTexts hcomponents
  have htexts := text_of_componentTexts hcomponents
  refine run_build_eq_ok_iff.2 ⟨components', hcomponents', e, h.base hperm htexts hbase, pages, ?_,
    alone, ?_, hed⟩
  · exact hpages.imp fun n p hp => h.page hp
  · exact halone.imp fun c p hp => component_of_perm hperm htexts hp

/-- Two disks that list the components in different orders give the same edition, or neither gives
one. -/
theorem listing_order_is_irrelevant (s : Sources) (library : Library) (number : Nat) (d d' : Disk)
    (listed listed' : List Listed)
    (hlisted : d (.entries (s.folder "components")) = .ok listed)
    (hlisted' : d' (.entries (s.folder "components")) = .ok listed')
    (hperm : listed.Perm listed') (htext : ∀ path, d' (.text path) = d (.text path)) :
    (∃ ed, (build s library number).run.run d = .ok ed ∧
        (build s library number).run.run d' = .ok ed) ∨
      ∃ f f', (build s library number).run.run d = .error f ∧
        (build s library number).run.run d' = .error f' := by
  have hforth : ListsAlike s d d' := by
    refine ⟨fun l hl => ⟨listed', hlisted', ?_⟩, htext⟩
    obtain rfl : listed = l := Except.ok.inj (hlisted.symm.trans hl)
    exact hperm
  have hback : ListsAlike s d' d := by
    refine ⟨fun l hl => ⟨listed, hlisted, ?_⟩, fun path => (htext path).symm⟩
    obtain rfl : listed' = l := Except.ok.inj (hlisted'.symm.trans hl)
    exact hperm.symm
  cases h : (build s library number).run.run d with
  | ok ed => exact .inl ⟨ed, rfl, hforth.build h⟩
  | error f =>
    cases h' : (build s library number).run.run d' with
    | ok ed =>
      rw [hback.build h'] at h
      cases h
    | error f' => exact .inr ⟨f, f', rfl, rfl⟩

/-- A disk with a layout and two components, one of which calls a definition of the other. -/
def twoComponents (listed : List Listed) : Disk
  | .text path =>
    if path = "t/layout/base.html" then .ok "one"
    else if path = "t/components/menu.html" then .ok "\x7b% macro item() %\x7dx\x7b% endmacro %\x7d"
    else if path = "t/components/bar.html" then
      .ok "\x7b% import \"components/menu.html\" as menu %\x7d\x7b\x7b menu::item() \x7d\x7d"
    else .error .missing
  | .entries _ => .ok listed
  | .isFolder _ => true
  | .exists _ => true
  | .canonical path => .ok path
  | .here => "/"

theorem listing_order_is_irrelevant_imports :
    ∃ ed, (build ⟨"t", "base", [], [⟨"bar", ["menu"]⟩]⟩ ⟨fun _ => none, fun _ => none, fun _ => none⟩
        1).run.run (twoComponents [⟨some "bar.html", true⟩, ⟨some "menu.html", true⟩]) = .ok ed ∧
      (build ⟨"t", "base", [], [⟨"bar", ["menu"]⟩]⟩ ⟨fun _ => none, fun _ => none, fun _ => none⟩
        1).run.run (twoComponents [⟨some "menu.html", true⟩, ⟨some "bar.html", true⟩]) = .ok ed := by
  obtain ⟨ed, h⟩ := exists_ok_of_isSome (x := (build ⟨"t", "base", [], [⟨"bar", ["menu"]⟩]⟩
    ⟨fun _ => none, fun _ => none, fun _ => none⟩ 1).run.run
      (twoComponents [⟨some "bar.html", true⟩, ⟨some "menu.html", true⟩])) (by decide +kernel)
  rcases listing_order_is_irrelevant ⟨"t", "base", [], [⟨"bar", ["menu"]⟩]⟩
    ⟨fun _ => none, fun _ => none, fun _ => none⟩ 1
    (twoComponents [⟨some "bar.html", true⟩, ⟨some "menu.html", true⟩])
    (twoComponents [⟨some "menu.html", true⟩, ⟨some "bar.html", true⟩]) _ _ rfl rfl
    (List.Perm.swap _ _ _) (fun _ => rfl) with hsame | ⟨f, f', hf, -⟩
  · exact hsame
  · rw [h] at hf
    cases hf

end LivePages.Edition
