import LivePages.Proofs.Edition.Listing
import LivePages.Proofs.Template.Single

/-! The base is made in two steps, the layout first and all components on top of it. Parents and
imports are looked up after each step, so the first one asks that the layout names no other template
as its parent and imports none; for such a layout the steps give what one step gives. -/

namespace LivePages.Template

theorem put_append (e : Engine) (l m : List (String × String)) :
    e.put (l ++ m) = e.put l >>= fun e' => e'.put m := by
  induction l generalizing e with
  | nil => rfl
  | cons x r ih =>
    obtain ⟨name, text⟩ := x
    rw [List.cons_append, Engine.put, Engine.put]
    cases Source.read name text with
    | error f => rfl
    | ok t => exact ih _

/-- What is added on top of texts that were put there comes to what is added together with them. -/
theorem add_append {e e' : Engine} {l : List (String × String)} (h : e.put l = .ok e')
    (m : List (String × String)) : e.add (l ++ m) = e'.add m := by
  rw [Engine.add, Engine.add, put_append, h]
  rfl

end LivePages.Template

namespace LivePages.Edition

open Config (Sources)
open Template (Engine Library Source)

variable {s : Sources} {library : Library} {d : Disk} {components : List (String × String)}
  {layout : String}

theorem run_added (e : Engine) (name : String) (texts : List (String × String)) :
    (added e name texts).run.run d = (e.add texts).mapError (.unparsable name) := by
  rw [added]
  cases e.add texts with
  | error f => rfl
  | ok e' => rfl

/-- The base of a layout that lacks nothing is that of all texts at once; any other layout is
refused. -/
theorem run_base {t : Source} (hlayout : d (.text (s.path s.layoutName)) = .ok layout)
    (hread : Source.read s.layoutName layout = .ok t) :
    (base s library components).run.run d = t.lacks?.elim
      (((Engine.empty library).add ((s.layoutName, layout) :: components)).mapError
        (.unparsable allComponents))
      fun f => .error (.unparsable s.layoutName f) := by
  have hall : (Engine.empty library).add ((s.layoutName, layout) :: components) =
      (⟨library, [t]⟩ : Engine).add components :=
    Template.add_append (Template.put_single hread) components
  rw [base, ExceptT.run_bind, Ask.run_bind, run_text_eq_ok_iff.2 hlayout]
  change ((added _ _ _ >>= fun e => added e _ _).run).run d = _
  rw [ExceptT.run_bind, Ask.run_bind, run_added, Template.add_single hread]
  rw [hall]
  cases t.lacks? with
  | none => exact run_added _ _ _
  | some f => rfl

/-- Both steps give what one step gives exactly when the layout has no parent and imports at most
itself. -/
theorem base_agrees (s : Sources) (library : Library) (components : List (String × String))
    (d : Disk) (layout : String) (hlayout : d (.text (s.path s.layoutName)) = .ok layout) :
    (∀ e, (base s library components).run.run d = .ok e ↔
      (Engine.empty library).add ((s.layoutName, layout) :: components) = .ok e ∧
        ∃ t, Source.read s.layoutName layout = .ok t ∧
          t.parent = none ∧ ∀ i ∈ t.imports, i.1 = t.name) ∧
      ∀ e t, (Engine.empty library).add ((s.layoutName, layout) :: components) = .ok e →
        Source.read s.layoutName layout = .ok t → ∀ f, t.lacks? = some f →
          (base s library components).run.run d = .error (.unparsable s.layoutName f) := by
  refine ⟨fun e => ⟨fun h => ?_, ?_⟩, fun e t hwhole hread f hf => ?_⟩
  · obtain ⟨layout', hlayout', e₀, hfirst, -⟩ := run_base_eq_ok_iff.1 h
    obtain rfl : layout = layout' := Except.ok.inj (hlayout.symm.trans hlayout')
    obtain ⟨t, hread⟩ := put_eq_ok_iff.1 ⟨e₀, (add_eq_ok_iff.1 hfirst).1⟩ _ (List.mem_singleton_self _)
    rw [run_base hlayout hread] at h
    cases hlacks : t.lacks? with
    | some f =>
      rw [hlacks] at h
      cases h
    | none =>
      rw [hlacks] at h
      refine ⟨?_, t, hread, Source.lacks?_eq_none_iff.1 hlacks⟩
      cases hwhole : (Engine.empty library).add ((s.layoutName, layout) :: components) with
      | error f =>
        rw [hwhole] at h
        cases h
      | ok e' =>
        rw [hwhole] at h
        cases h
        rfl
  · rintro ⟨hwhole, t, hread, hlacks⟩
    rw [run_base hlayout hread, Source.lacks?_eq_none_iff.2 hlacks, hwhole]
    rfl
  · rw [run_base hlayout hread, hf]
    rfl

/-- A disk with a layout and nothing else. -/
def layoutDisk (layout : String) : Disk
  | .text path => if path = "t/layout/base.html" then .ok layout else .error .missing
  | .entries _ => .ok []
  | .isFolder _ => true
  | .exists _ => true
  | .canonical path => .ok path
  | .here => "/"

def includingLayout : String := "\x7b% include \"components/toast.html\" %\x7d"

/-- A layout may include a component. -/
theorem base_agrees_include :
    ∃ e, (base ⟨"t", "base", [], []⟩ ⟨fun _ => none, fun _ => none, fun _ => none⟩
        [("components/toast.html", "bread")]).run.run (layoutDisk includingLayout) = .ok e ∧
      e.names = ["components/toast.html", "layout/base.html"] := by
  obtain ⟨e, hwhole, hnames⟩ := exists_ok_of_any
    (x := (Engine.empty ⟨fun _ => none, fun _ => none, fun _ => none⟩).add
      [("layout/base.html", includingLayout), ("components/toast.html", "bread")])
    (p := fun e => e.names = ["components/toast.html", "layout/base.html"]) (by decide +kernel)
  obtain ⟨t, hread, hlacks⟩ := exists_ok_of_any
    (x := Source.read "layout/base.html" includingLayout) (p := fun t => t.lacks?.isNone)
    (by decide +kernel)
  have hagrees := base_agrees ⟨"t", "base", [], []⟩ ⟨fun _ => none, fun _ => none, fun _ => none⟩
    [("components/toast.html", "bread")] (layoutDisk includingLayout) includingLayout rfl
  refine ⟨e, (hagrees.1 e).2 ⟨hwhole, t, hread, ?_⟩, of_decide_eq_true hnames⟩
  exact Source.lacks?_eq_none_iff.1 (Option.isNone_iff_eq_none.1 hlacks)

def callingLayout : String :=
  "\x7b% import \"components/kit.html\" as kit %\x7d<h1>\x7b\x7b kit::title() \x7d\x7d</h1>"

def kit : String := "\x7b% macro title() %\x7dT\x7b% endmacro %\x7d"

/-- The layout calls a definition of a component: all texts together are taken, and yet they make no
base. -/
theorem base_differs :
    (∃ e, (Engine.empty ⟨fun _ => none, fun _ => none, fun _ => none⟩).add
        [("layout/base.html", callingLayout), ("components/kit.html", kit)] = .ok e) ∧
      ∀ e, (base ⟨"t", "base", [], []⟩ ⟨fun _ => none, fun _ => none, fun _ => none⟩
        [("components/kit.html", kit)]).run.run (layoutDisk callingLayout) ≠ .ok e := by
  refine ⟨exists_ok_of_isSome (by decide +kernel), fun e he => ?_⟩
  have hnone : ((base ⟨"t", "base", [], []⟩ ⟨fun _ => none, fun _ => none, fun _ => none⟩
      [("components/kit.html", kit)]).run.run (layoutDisk callingLayout)).toOption.isNone := by
    decide +kernel
  rw [he] at hnone
  cases hnone

end LivePages.Edition
