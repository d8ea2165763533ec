import Mathlib.Data.List.Forall2
import Mathlib.Data.List.TakeWhile
import Mathlib.Data.String.Basic
import Mathlib.Tactic.SplitIfs
import LivePages.Edition.Build
import LivePages.Proofs.FileTree.Course
import LivePages.Proofs.Result

/-! What each stage of a build gives over a disk: the texts it read, and an engine to which they were
added. -/

namespace LivePages.Edition

open Config (Sources Component engineName)
open Template (Engine Library)

variable {α β : Type} {d : Disk}

/-! ### Programs that may fail -/

theorem run_bind_eq_ok_iff {b : Building α} {f : α → Building β} {c : β} :
    (b >>= f).run.run d = .ok c ↔ ∃ a, b.run.run d = .ok a ∧ (f a).run.run d = .ok c := by
  rw [ExceptT.run_bind, Ask.run_bind]
  cases b.run.run d with
  | error f => simp
  | ok a => simp

theorem run_pure_eq_ok_iff {a b : α} : (pure a : Building α).run.run d = .ok b ↔ a = b := by
  rw [ExceptT.run_pure, Ask.run_pure, Except.ok.injEq]

theorem run_lift_eq_ok_iff {p : Ask α} {a : α} :
    (liftM p : Building α).run.run d = .ok a ↔ p.run d = a := by
  rw [ExceptT.run_liftM, Ask.run_map, Except.ok.injEq]

theorem run_mapM_eq_ok_iff {f : α → Building β} {l : List α} {bs : List β} :
    (l.mapM f).run.run d = .ok bs ↔
      List.Forall₂ (fun a b => (f a).run.run d = .ok b) l bs := by
  induction l generalizing bs with
  | nil =>
    rw [List.mapM_nil, run_pure_eq_ok_iff, List.forall₂_nil_left_iff, eq_comm]
  | cons a l ih =>
    rw [List.mapM_cons, run_bind_eq_ok_iff, List.forall₂_cons_left_iff]
    refine exists_congr fun b => ?_
    rw [run_bind_eq_ok_iff]
    simp only [ih, run_pure_eq_ok_iff]
    constructor
    · rintro ⟨hb, bs, hbs, rfl⟩
      exact ⟨bs, hb, hbs, rfl⟩
    · rintro ⟨bs, hb, hbs, rfl⟩
      exact ⟨hb, bs, hbs, rfl⟩

/-! ### Component files -/

/-- A name is cut at its last point, unless nothing else stands before that. -/
theorem cutName_eq_some_iff {n stem ending : String} :
    Path.cutName n = (stem, some ending) ↔
      n = stem ++ "." ++ ending ∧ '.' ∉ ending.toList ∧ stem ≠ "" ∧ n ≠ ".." := by
  rw [Path.cutName]
  constructor
  · intro h
    have hparts := List.takeWhile_append_dropWhile (p := (· != '.')) (l := n.toList.reverse)
    split at h
    · cases h
    rename_i c before hdrop
    have hc : c = '.' := by
      have hfirst := List.head_dropWhile_not (· != '.') (l := n.toList.reverse) (by simp [hdrop])
      simpa [hdrop] using hfirst
    subst hc
    rw [hdrop] at hparts
    split_ifs at h with hshort
    · cases h
    cases h
    simp only [Bool.or_eq_true, List.isEmpty_iff, decide_eq_true_eq, not_or] at hshort
    have hlast : '.' ∉ n.toList.reverse.takeWhile (· != '.') := by
      intro hdot
      simpa using List.mem_takeWhile_imp hdot
    refine ⟨?_, by simpa using hlast, by simpa using hshort.1, hshort.2⟩
    generalize n.toList.reverse.takeWhile (· != '.') = last at hparts
    rw [← String.toList_inj, ← List.reverse_inj, ← hparts]
    simp
  · rintro ⟨rfl, hending, hstem, hdots⟩
    have hall : ∀ c ∈ ending.toList.reverse, (c != '.') = true := by
      intro c hc
      rw [bne_iff_ne]
      rintro rfl
      exact hending (List.mem_reverse.1 hc)
    have hrev : (stem ++ "." ++ ending).toList.reverse =
        ending.toList.reverse ++ '.' :: stem.toList.reverse := by simp
    have htake : ('.' :: stem.toList.reverse).takeWhile (· != '.') = [] := rfl
    have hdrop : ('.' :: stem.toList.reverse).dropWhile (· != '.') = '.' :: stem.toList.reverse :=
      rfl
    rw [hrev, List.takeWhile_append_of_pos hall, List.dropWhile_append_of_pos hall, htake, hdrop]
    simp [hstem, hdots]

theorem cutName_eq_ending_iff {n stem : String} :
    Path.cutName n = (stem, some Config.ending) ↔ n = stem ++ ".html" ∧ stem ≠ "" := by
  have hending : stem ++ "." ++ Config.ending = stem ++ ".html" := String.append_assoc ..
  have hdots : stem ++ ".html" ≠ ".." := by
    intro h
    have hlength := congrArg String.length h
    rw [String.length_append] at hlength
    change stem.length + 5 = 2 at hlength
    omega
  rw [cutName_eq_some_iff, hending]
  constructor
  · exact fun h => ⟨h.1, h.2.2.1⟩
  · rintro ⟨rfl, hstem⟩
    exact ⟨rfl, by decide, hstem, hdots⟩

/-- Components are the regular files in the folder whose name has the ending after a stem. -/
theorem componentName?_eq_some_iff {l : Listed} {stem : String} :
    componentName? l = some stem ↔
      l.isFile = true ∧ l.name = some (stem ++ ".html") ∧ stem ≠ "" := by
  obtain ⟨name, isFile⟩ := l
  cases name with
  | none => simp [componentName?]
  | some n =>
    rw [Option.some.injEq, ← cutName_eq_ending_iff]
    unfold componentName?
    rw [Option.map_some]
    obtain ⟨before, after⟩ := Path.cutName n
    cases after with
    | none => simp
    | some ending =>
      simp only [Option.ite_none_right_eq_some, Bool.and_eq_true, decide_eq_true_eq,
        Option.some.injEq, Prod.mk.injEq]
      exact ⟨fun ⟨⟨hfile, hend⟩, hstem⟩ => ⟨hfile, hstem, hend⟩,
        fun ⟨hfile, hstem, hend⟩ => ⟨⟨hfile, hend⟩, hstem⟩⟩

/-! ### The stages -/

variable {s : Sources} {library : Library}

theorem run_text_eq_ok_iff {entry t : String} :
    (text s entry).run.run d = .ok t ↔ d (.text (s.path entry)) = .ok t := by
  rw [text, run_bind_eq_ok_iff]
  simp only [run_lift_eq_ok_iff, Ask.text, Ask.run, exists_eq_left']
  cases d (.text (s.path entry)) with
  | error f => simp
  | ok t' => simp

theorem run_added_eq_ok_iff {e e' : Engine} {name : String} {texts : List (String × String)} :
    (added e name texts).run.run d = .ok e' ↔ e.add texts = .ok e' := by
  rw [added]
  cases e.add texts with
  | error f => simp
  | ok e'' => simp

/-- Every component that the listing shows is read from its own file. -/
theorem run_componentTexts_eq_ok_iff {components : List (String × String)} :
    (componentTexts s).run.run d = .ok components ↔
      ∃ listed, d (.entries (s.folder Config.componentsFolder)) = .ok listed ∧
        List.Forall₂ (fun name (c : String × String) =>
            c.1 = engineName Config.componentsFolder name ∧ d (.text (s.path c.1)) = .ok c.2)
          (listed.filterMap componentName?) components := by
  have hone : ∀ (name : String) (c : String × String),
      (do pure (engineName Config.componentsFolder name,
            ← text s (engineName Config.componentsFolder name)) : Building _).run.run d = .ok c ↔
        c.1 = engineName Config.componentsFolder name ∧ d (.text (s.path c.1)) = .ok c.2 := by
    rintro name ⟨entry, t⟩
    simp only [run_bind_eq_ok_iff, run_text_eq_ok_iff, run_pure_eq_ok_iff, Prod.mk.injEq]
    constructor
    · rintro ⟨t, ht, rfl, rfl⟩
      exact ⟨rfl, ht⟩
    · rintro ⟨rfl, ht⟩
      exact ⟨t, ht, rfl, rfl⟩
  rw [componentTexts, run_bind_eq_ok_iff]
  simp only [run_lift_eq_ok_iff, Ask.entries, Ask.run, exists_eq_left']
  cases d (.entries (s.folder Config.componentsFolder)) with
  | error f => simp
  | ok listed =>
    simp only [run_mapM_eq_ok_iff, hone, Except.ok.injEq, exists_eq_left']

theorem run_base_eq_ok_iff {components : List (String × String)} {e : Engine} :
    (base s library components).run.run d = .ok e ↔
      ∃ layout, d (.text (s.path s.layoutName)) = .ok layout ∧
        ∃ e₀, (Engine.empty library).add [(s.layoutName, layout)] = .ok e₀ ∧
          e₀.add components = .ok e := by
  simp only [base, run_bind_eq_ok_iff, run_text_eq_ok_iff, run_added_eq_ok_iff]

theorem run_page_eq_ok_iff {base : Engine} {name : String} {p : Page} :
    (page s base name).run.run d = .ok p ↔
      ∃ t, d (.text (s.path (engineName Config.pagesFolder name))) = .ok t ∧
        ∃ e, base.add [(engineName Config.pagesFolder name, t)] = .ok e ∧
          ⟨name, engineName Config.pagesFolder name, e⟩ = p := by
  simp only [page, run_bind_eq_ok_iff, run_text_eq_ok_iff, run_added_eq_ok_iff, run_pure_eq_ok_iff]

theorem run_required_eq_ok_iff {components : List (String × String)} {name : String}
    {c : String × String} :
    (required s components name).run.run d = .ok c ↔
      components.find? (·.1 = engineName Config.componentsFolder name) = some c := by
  rw [required]
  cases h : components.find? (·.1 = engineName Config.componentsFolder name) with
  | none => simp
  | some found =>
    have hname : found.1 = engineName Config.componentsFolder name := by
      simpa using List.find?_some h
    rw [← hname, run_pure_eq_ok_iff, Option.some.injEq]

theorem run_component_eq_ok_iff {components : List (String × String)} {c : Component} {p : Page} :
    (component s library components c).run.run d = .ok p ↔
      ∃ texts, List.Forall₂ (fun r x =>
            components.find? (·.1 = engineName Config.componentsFolder r) = some x)
          (c.requires ++ [c.name]) texts ∧
        ∃ e, (Engine.empty library).add texts = .ok e ∧
          ⟨c.name, engineName Config.componentsFolder c.name, e⟩ = p := by
  simp only [component, run_bind_eq_ok_iff, run_mapM_eq_ok_iff, run_required_eq_ok_iff,
    run_added_eq_ok_iff, run_pure_eq_ok_iff]

theorem run_build_eq_ok_iff {number : Nat} {e : Edition} :
    (build s library number).run.run d = .ok e ↔
      ∃ components, (componentTexts s).run.run d = .ok components ∧
        ∃ engine, (base s library components).run.run d = .ok engine ∧
          ∃ pages, List.Forall₂ (fun n p => (page s engine n).run.run d = .ok p) s.pages pages ∧
            ∃ alone, List.Forall₂ (fun c p => (component s library components c).run.run d = .ok p)
                s.components alone ∧
              ofPages number (⟨Config.baseName, s.layoutName, engine⟩ :: pages ++ alone) = e := by
  simp only [build, run_bind_eq_ok_iff, run_mapM_eq_ok_iff, run_pure_eq_ok_iff]

end LivePages.Edition
