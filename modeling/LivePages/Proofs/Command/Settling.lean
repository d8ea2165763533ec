import Mathlib.Tactic.SplitIfs
import LivePages.Command.Plan

/-! What the steps of a command come to over a disk, apart from what is said on the way. -/

namespace LivePages.Command

open Config (Settings)

namespace Steps

variable {α β : Type} {d : Disk}

/-- The result of some steps over a disk, after the notices `l`, with all notices. -/
def on (d : Disk) (l : List Notice) (x : Steps α) : Except Report α × List Notice :=
  (x.run.run l).run d

/-- The steps come to `a` just when `P a`, whatever has been said before. -/
def Settles (d : Disk) (x : Steps α) (P : α → Prop) : Prop :=
  ∃ r : Except Report α, (∀ l, (x.on d l).1 = r) ∧ ∀ a, r = .ok a ↔ P a

theorem on_bind (x : Steps α) (f : α → Steps β) (l : List Notice) :
    (x >>= f).on d l =
      match x.on d l with
      | (.ok a, l') => (f a).on d l'
      | (.error r, l') => (.error r, l') := by
  rw [on, ExceptT.run_bind, StateT.run_bind, Ask.run_bind, ← on]
  rcases x.on d l with ⟨_ | a, l'⟩ <;> rfl

theorem on_bind_of_ok {x : Steps α} {l : List Notice} {a : α} (h : (x.on d l).1 = .ok a)
    (f : α → Steps β) : (x >>= f).on d l = (f a).on d (x.on d l).2 := by
  rw [on_bind]
  rcases hx : x.on d l with ⟨_ | a', l'⟩
  · rw [hx] at h
    cases h
  · rw [hx] at h
    cases h
    rfl

theorem fst_on_bind_of_error {x : Steps α} {l : List Notice} {r : Report}
    (h : (x.on d l).1 = .error r) (f : α → Steps β) : ((x >>= f).on d l).1 = .error r := by
  rw [on_bind]
  rcases hx : x.on d l with ⟨_ | a, l'⟩
  · rw [hx] at h
    cases h
    rfl
  · rw [hx] at h
    cases h

theorem on_ask (p : Ask α) (l : List Notice) : (ask p).on d l = (.ok (p.run d), l) := by
  change ((p >>= fun a => pure (a, l)) >>= fun s => pure (Except.ok s.1, s.2)).run d = _
  rw [Ask.run_bind, Ask.run_bind]
  rfl

theorem settles_pure (a : α) : Settles d (pure a : Steps α) (· = a) :=
  ⟨.ok a, fun _ => rfl, fun b => by rw [Except.ok.injEq, eq_comm]⟩

theorem settles_get {ε : Type} (report : ε → Report) (r : Except ε α) :
    Settles d (get report r) fun a => r = .ok a := by
  cases r with
  | ok a => exact ⟨.ok a, fun _ => rfl, fun b => by simp⟩
  | error e => exact ⟨.error (report e), fun _ => rfl, fun b => iff_of_false nofun nofun⟩

theorem Settles.bind {x : Steps α} {f : α → Steps β} {P : α → Prop} {Q : α → β → Prop}
    (hx : Settles d x P) (hf : ∀ a, P a → Settles d (f a) (Q a)) :
    Settles d (x >>= f) fun b => ∃ a, P a ∧ Q a b := by
  obtain ⟨r, hr, hP⟩ := hx
  cases r with
  | error e =>
    refine ⟨.error e, fun l => fst_on_bind_of_error (hr l) f, fun b => iff_of_false nofun ?_⟩
    rintro ⟨a, ha, -⟩
    cases (hP a).2 ha
  | ok a =>
    obtain ⟨r, hr', hQ⟩ := hf a ((hP a).1 rfl)
    refine ⟨r, fun l => ?_, fun b => (hQ b).trans ⟨fun hb => ⟨a, (hP a).1 rfl, hb⟩, ?_⟩⟩
    · rw [on_bind_of_ok (hr l)]
      exact hr' _
    · rintro ⟨a', ha', hb⟩
      cases (hP a').2 ha'
      exact hb

theorem Settles.congr {x : Steps α} {P Q : α → Prop} (hx : Settles d x P) (h : ∀ a, P a ↔ Q a) :
    Settles d x Q := by
  obtain ⟨r, hr, hP⟩ := hx
  exact ⟨r, hr, fun a => (hP a).trans (h a)⟩

section

variable {f : α → Steps β} {Q : β → Prop}

theorem settles_ask_bind {p : Ask α} (h : Settles d (f (p.run d)) Q) :
    Settles d (ask p >>= f) Q := by
  obtain ⟨r, hr, hQ⟩ := h
  refine ⟨r, fun l => ?_, hQ⟩
  rw [on_bind_of_ok (a := p.run d) (by rw [on_ask]), on_ask]
  exact hr l

theorem settles_say_bind {f : Unit → Steps β} {l : List Notice} (h : Settles d (f ()) Q) :
    Settles d (say l >>= f) Q := by
  obtain ⟨r, hr, hQ⟩ := h
  exact ⟨r, fun l' => hr (l' ++ l), hQ⟩

theorem settles_pure_bind {a : α} (h : Settles d (f a) Q) : Settles d (pure a >>= f) Q :=
  h

end

end Steps

open Steps

/-! ### The steps of a command -/

/-- The settings of a configuration file, or the defaults where there is none. -/
def Finds (d : Disk) (path : String) (s : Settings) : Prop :=
  if d (.exists path) then (Settings.load path).run d = .ok s else s = Settings.default

/-- Settings with the folder of templates that the command line gives. -/
def Invocation.placed (i : Invocation) (s : Settings) : Settings :=
  match i.templates with
  | none => s
  | some t => { s with sources := { s.sources with root := t } }

/-- The settings are found, placed and resolved, and pass the check. -/
def Configures (d : Disk) (i : Invocation) (s : Settings) : Prop :=
  ∃ found, Finds d (Path.join (i.root.getD defaultRoot) i.config) found ∧
    s = ((i.placed found).resolve (i.root.getD defaultRoot)).run d ∧ s.check.run d = .ok ()

/-- The templates compile. -/
def Compiles (d : Disk) (s : Settings) (p : Publisher) : Prop :=
  (Publisher.load s.sources (Helpers.library (Lookups.ofMirrors s.mirrors))).run d = .ok p

/-- The data are read from their file, or an empty object where none is given. -/
def Supplies (d : Disk) (v : Json) : Option String → Prop
  | none => v = .obj []
  | some path => ∃ text, d (.text path) = .ok text ∧ Json.parse text = .ok v

/-- Settings that are found are resolved and then checked. -/
theorem settles_resolved (d : Disk) (root : String) (found : Settings) : Settles d
    (do
      let s ← ask (found.resolve root)
      let checked ← ask s.check
      get Report.ofConfig checked
      pure s)
    fun s => s = (found.resolve root).run d ∧ s.check.run d = .ok () := by
  refine settles_ask_bind (settles_ask_bind (((settles_get _ _).bind fun _ _ =>
    settles_pure _).congr fun s => ?_))
  constructor
  · rintro ⟨_, hcheck, rfl⟩
    exact ⟨rfl, hcheck⟩
  · rintro ⟨rfl, hcheck⟩
    exact ⟨(), hcheck, rfl⟩

theorem settles_configure (d : Disk) (i : Invocation) :
    Settles d (configure i) (Configures d i) := by
  have hasked : (Ask.exists (Path.join (i.root.getD defaultRoot) i.config)).run d =
      d (.exists (Path.join (i.root.getD defaultRoot) i.config)) := rfl
  refine settles_ask_bind ?_
  rw [hasked]
  split_ifs with hthere
  · refine settles_ask_bind (((settles_get _ _).bind fun found _ =>
      settles_resolved d _ (i.placed found)).congr fun s => ?_)
    simp only [Configures, Finds, hthere, if_true]
  · refine settles_say_bind (settles_pure_bind
      ((settles_resolved d _ (i.placed Settings.default)).congr fun s => ?_))
    simp only [Configures, Finds, hthere, if_false, exists_eq_left, Bool.false_eq_true]

theorem settles_publish (d : Disk) (s : Settings) : Settles d (publish s) (Compiles d s) := by
  refine settles_ask_bind (((settles_get _ _).bind (Q := fun p q => q = p) fun p _ => ?_).congr
    fun p => ?_)
  · exact settles_say_bind (settles_pure p)
  · simp only [Compiles, exists_eq_right']

theorem settles_renderData (d : Disk) : ∀ data, Settles d (renderData data) (Supplies d · data)
  | none => settles_pure _
  | some path => by
    refine settles_ask_bind (((settles_get _ _).bind fun text _ => settles_get _ _).congr fun v => ?_)
    exact Iff.rfl

/-- A page is rendered when settings are found, its templates compile, its data can be read and the
page, known by its name, comes to a text for them. -/
def Renders (d : Disk) (i : Invocation) (name : String) (data : Option String) (html : String) :
    Prop :=
  ∃ s p v, Configures d i s ∧ Compiles d s p ∧ Supplies d v data ∧ p.render name v = .ok html

end LivePages.Command
