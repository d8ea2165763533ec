import LivePages.Proofs.Edition.Contents
import LivePages.Proofs.Reload.Freshness
import LivePages.Reload.Registration

/-! A watch from its first compile on. The first compile publishes, then the folders are registered
one after the other, and only then are reports handled. A change is reported when its folder was
registered before it; so a change that comes after the first compile has read its text, and before its
folder is registered, stays unpublished until another change is reported. -/

namespace LivePages.Reload

open Config (Sources)
open Overlap (Site)
open Template (Library)

/-- How far the start of a watch has come: the first compile, the folders still to be registered, or
reports; a failure of either ends it. -/
inductive Stage
  | loading
  | registering (left : List String)
  | watching
  | failed
  deriving DecidableEq, Repr

/-- A watch that starts. The changes of the disk are told apart by whether they are reported. -/
structure Launch where
  watched : Watched
  stage : Stage
  heard : List Nat
  unheard : List Nat

namespace Launch

/-- The steps of the compiles, of readers, of the disk, whose changes are each in one folder, of the
program's start, and of the watcher. -/
inductive Action
  | advance (i : Nat)
  | look
  | edit (folder : String) (d : Disk)
  | loaded
  | register
  | report (d : Delivery) (changes : List Nat)
  | take
  | finish

/-- The first compile takes its ticket. -/
def start (s : Sources) (library : Library) (d : Disk) : Launch :=
  ⟨Watched.start (Site.new s library d).start, .loading, [], []⟩

def folders (l : Launch) : List String :=
  l.watched.site.publisher.sources.watched

/-- Whether a change in a folder is reported. -/
def hears (l : Launch) (folder : String) : Bool :=
  match l.stage with
  | .loading | .failed => false
  | .registering left => folder ∈ l.folders && folder ∉ left
  | .watching => folder ∈ l.folders

def edit (l : Launch) (folder : String) (d : Disk) : Launch :=
  let k := l.watched.site.edits
  let l' := { l with watched := l.watched.step (.site (.edit d)) }
  if l.hears folder then { l' with heard := k :: l.heard } else { l' with unheard := k :: l.unheard }

/-- Goes on to the registration when the first compile has published. -/
def loaded (l : Launch) : Launch :=
  match l.stage, l.watched.site.outcome? 0 with
  | .loading, some (.ok _) => { l with stage := .registering l.folders }
  | .loading, some (.error _) => { l with stage := .failed }
  | _, _ => l

/-- Registers the next folder, or starts to handle reports when none is left. -/
def registerNext (l : Launch) : Launch :=
  match l.stage with
  | .registering [] => { l with stage := .watching }
  | .registering (p :: left) =>
    if ((failure? p).run l.watched.site.disk).isNone then { l with stage := .registering left }
    else { l with stage := .failed }
  | _ => l

/-- A step of the watcher, once it handles reports. -/
def serve (l : Launch) (a : Reload.Action) : Launch :=
  if l.stage = .watching then { l with watched := l.watched.step a } else l

def step (l : Launch) : Action → Launch
  | .advance i => { l with watched := l.watched.step (.site (.advance i)) }
  | .look => { l with watched := l.watched.step (.site .look) }
  | .edit folder d => l.edit folder d
  | .loaded => l.loaded
  | .register => l.registerNext
  | .report d changes => { l with watched := l.watched.step (.report d changes) }
  | .take => l.serve .take
  | .finish => l.serve .finish

def run (l : Launch) (actions : List Action) : Launch :=
  actions.foldl step l

theorem run_singleton (l : Launch) (a : Action) : l.run [a] = l.step a :=
  rfl

theorem run_append (l : Launch) (as bs : List Action) : l.run (as ++ bs) = (l.run as).run bs :=
  List.foldl_append

/-! ### What every step keeps -/

/-- The steps of the watched site, changes of the disk apart, leave the disk and count no change. -/
theorem disk_watched (w : Watched) {a : Reload.Action} (ha : ∀ d, a ≠ .site (.edit d)) :
    (w.step a).site.disk = w.site.disk ∧ (w.step a).site.edits = w.site.edits := by
  cases a with
  | site a =>
    cases a with
    | advance i => exact ⟨Site.disk_advance w.site i, Site.edits_advance w.site i⟩
    | edit d => exact absurd rfl (ha d)
    | _ => exact ⟨rfl, rfl⟩
  | report d changes => exact ⟨rfl, rfl⟩
  | take =>
    simp only [Watched.step, Watched.take]
    split
    · split <;> exact ⟨rfl, rfl⟩
    · exact ⟨rfl, rfl⟩
  | finish =>
    simp only [Watched.step, Watched.finish]
    split
    · exact ⟨rfl, rfl⟩
    · split <;> exact ⟨rfl, rfl⟩

theorem origin_watched (w : Watched) (a : Reload.Action) :
    (w.step a).site.origin = w.site.origin := by
  cases a with
  | site a => exact Site.origin_step w.site a
  | report d changes => rfl
  | take =>
    simp only [Watched.step, Watched.take]
    split
    · split <;> rfl
    · rfl
  | finish =>
    simp only [Watched.step, Watched.finish]
    split
    · rfl
    · split <;> rfl

/-- What a step of the start does to the watched site. -/
theorem watched_step (l : Launch) (a : Action) : (l.step a).watched = l.watched ∨
    ∃ x, (l.step a).watched = l.watched.step x ∧ ∀ d, x = .site (.edit d) → ∃ f, a = .edit f d := by
  cases a with
  | edit folder d =>
    refine .inr ⟨.site (.edit d), ?_, fun d' hd => ⟨folder, by cases hd; rfl⟩⟩
    simp only [step, edit]
    split <;> rfl
  | loaded =>
    simp only [step, loaded]
    split <;> exact .inl rfl
  | register =>
    simp only [step, registerNext]
    split
    · exact .inl rfl
    · split <;> exact .inl rfl
    · exact .inl rfl
  | take =>
    simp only [step, serve]
    split
    · exact .inr ⟨.take, rfl, nofun⟩
    · exact .inl rfl
  | finish =>
    simp only [step, serve]
    split
    · exact .inr ⟨.finish, rfl, nofun⟩
    · exact .inl rfl
  | advance i => exact .inr ⟨.site (.advance i), rfl, nofun⟩
  | look => exact .inr ⟨.site .look, rfl, nofun⟩
  | report d changes => exact .inr ⟨.report d changes, rfl, nofun⟩

theorem origin_run (l : Launch) (actions : List Action) :
    (l.run actions).watched.site.origin = l.watched.site.origin := by
  induction actions generalizing l with
  | nil => rfl
  | cons a actions ih =>
    refine (ih (l.step a)).trans ?_
    obtain heq | ⟨x, heq, -⟩ := watched_step l a
    · rw [heq]
    · rw [heq]
      exact origin_watched l.watched x

theorem disk_edit (l : Launch) (folder : String) (d : Disk) :
    (l.edit folder d).watched.site.disk = d := by
  unfold edit
  split <;> rfl

theorem disk_run (l : Launch) {actions : List Action}
    (h : ∀ a ∈ actions, ∀ f d, a ≠ .edit f d) :
    (l.run actions).watched.site.disk = l.watched.site.disk := by
  induction actions generalizing l with
  | nil => rfl
  | cons a actions ih =>
    obtain ⟨ha, hrest⟩ := List.forall_mem_cons.1 h
    refine (ih (l.step a) hrest).trans ?_
    obtain heq | ⟨x, heq, hx⟩ := watched_step l a
    · rw [heq]
    · rw [heq]
      refine (disk_watched l.watched fun d hd => ?_).1
      obtain ⟨f, hf⟩ := hx d hd
      exact ha f d hf

theorem endedSince_watched {w : Watched} {k : Nat} (h : w.site.EndedSince k) (a : Reload.Action) :
    (w.step a).site.EndedSince k := by
  cases a with
  | site a => exact h.step a
  | report d changes => exact h
  | take =>
    simp only [Watched.step, Watched.take]
    split
    · split
      · exact h.step .start
      · exact h
    · exact h
  | finish =>
    simp only [Watched.step, Watched.finish]
    split
    · exact h
    · split <;> exact h

/-- Once the first compile has published, a compile has ended; and every change is told apart. -/
structure Sound (l : Launch) : Prop where
  tracked : l.watched.Tracked 0
  ended : l.stage = .loading ∨ l.stage = .failed ∨ l.watched.site.EndedSince 0
  told : ∀ k < l.watched.site.edits, k ∈ l.heard ∨ k ∈ l.unheard

variable {l : Launch}

theorem sound_start (s : Sources) (library : Library) (d : Disk) : (start s library d).Sound where
  tracked := Watched.Tracked.start (Site.consistent_new s library d).start
  ended := .inl rfl
  told := fun _ hk => absurd hk (Nat.not_lt_zero _)

theorem Sound.watched (h : l.Sound) {a : Reload.Action} (ha : ∀ d, a ≠ .site (.edit d)) :
    ({ l with watched := l.watched.step a } : Launch).Sound where
  tracked := h.tracked.step a
  ended := h.ended.imp_right (Or.imp_right (endedSince_watched · a))
  told k hk := h.told k ((disk_watched l.watched ha).2 ▸ hk)

theorem Sound.stage (h : l.Sound) {stage : Stage}
    (hstage : stage = .failed ∨ l.watched.site.EndedSince 0) :
    ({ l with stage := stage } : Launch).Sound where
  tracked := h.tracked
  ended := .inr hstage
  told := h.told

theorem Sound.edit (h : l.Sound) (folder : String) (d : Disk) : (l.edit folder d).Sound := by
  have htracked := h.tracked.step (.site (.edit d))
  have hended := h.ended.imp_right (Or.imp_right (endedSince_watched · (.site (.edit d))))
  have htold : ∀ k < l.watched.site.edits + 1,
      k = l.watched.site.edits ∨ k ∈ l.heard ∨ k ∈ l.unheard := by
    intro k hk
    rcases Nat.lt_or_eq_of_le (Nat.le_of_lt_succ hk) with hlt | heq
    · exact .inr (h.told k hlt)
    · exact .inl heq
  unfold Launch.edit
  split
  · refine ⟨htracked, hended, fun k hk => ?_⟩
    exact (htold k hk).elim (fun heq => .inl (heq ▸ List.mem_cons_self))
      (Or.imp_left (List.mem_cons_of_mem _))
  · refine ⟨htracked, hended, fun k hk => ?_⟩
    exact (htold k hk).elim (fun heq => .inr (heq ▸ List.mem_cons_self))
      (Or.imp_right (List.mem_cons_of_mem _))

theorem Sound.loaded (h : l.Sound) : l.loaded.Sound := by
  unfold Launch.loaded
  split
  · rename_i e hstage houtcome
    refine h.stage (.inr ?_)
    obtain ⟨c, hc, ho⟩ := Option.bind_eq_some_iff.1 houtcome
    exact ⟨c, List.mem_of_getElem? hc, Nat.zero_le _, by rw [ho]; rfl⟩
  · exact h.stage (.inl rfl)
  · exact h

theorem Sound.registerNext (h : l.Sound) : l.registerNext.Sound := by
  have hended : ∀ {left}, l.stage = .registering left → l.watched.site.EndedSince 0 := by
    intro left hstage
    simpa [hstage] using h.ended
  unfold Launch.registerNext
  split
  · rename_i hstage
    exact h.stage (.inr (hended hstage))
  · rename_i p left hstage
    split
    · exact h.stage (.inr (hended hstage))
    · exact h.stage (.inl rfl)
  · exact h

theorem Sound.serve (h : l.Sound) {a : Reload.Action} (ha : ∀ d, a ≠ .site (.edit d)) :
    (l.serve a).Sound := by
  unfold Launch.serve
  split
  · exact h.watched ha
  · exact h

theorem Sound.step (h : l.Sound) (a : Action) : (l.step a).Sound := by
  cases a with
  | advance i => exact h.watched fun _ => nofun
  | look => exact h.watched fun _ => nofun
  | edit folder d => exact h.edit folder d
  | loaded => exact h.loaded
  | register => exact h.registerNext
  | report d changes => exact h.watched fun _ => nofun
  | take => exact h.serve fun _ => nofun
  | finish => exact h.serve fun _ => nofun

theorem Sound.run (h : l.Sound) (actions : List Action) : (l.run actions).Sound := by
  induction actions generalizing l with
  | nil => exact h
  | cons a actions ih => exact ih (h.step a)

/-! ### A start that nothing interrupts -/

theorem run_advances (l : Launch) (n i : Nat) :
    l.run (List.replicate n (.advance i)) =
      { l with watched := { l.watched with
        site := l.watched.site.run (List.replicate n (.advance i)) } } := by
  induction n generalizing l with
  | zero => rfl
  | succ n ih => exact ih (l.step (.advance i))

theorem loaded_of_ok {e : Edition} (hstage : l.stage = .loading)
    (hok : l.watched.site.outcome? 0 = some (.ok e)) :
    l.loaded = { l with stage := .registering l.folders } := by
  simp only [loaded, hstage, hok]

theorem run_registers {left : List String}
    (hleft : ∀ p ∈ left, (failure? p).run l.watched.site.disk = none)
    (hstage : l.stage = .registering left) :
    l.run (List.replicate (left.length + 1) .register) = { l with stage := .watching } := by
  induction left generalizing l with
  | nil => simp only [run, List.length_nil, List.replicate, List.foldl, step, registerNext, hstage]
  | cons p left ih =>
    have hstep : l.registerNext = { l with stage := .registering left } := by
      simp only [registerNext, hstage, hleft p List.mem_cons_self, Option.isNone_none, if_true]
    have hrest := ih (l := l.registerNext) (by
      rw [hstep]
      exact fun q hq => hleft q (List.mem_cons_of_mem _ hq)) (by rw [hstep])
    rw [hstep] at hrest
    rw [List.length_cons, List.replicate_succ, run, List.foldl_cons, ← run, step, hstep, hrest]

theorem failure?_of_register {paths : List String} {d : Disk} {r : Registration}
    (h : (register paths).run d = .ok r) (hall : r.failures = []) {p : String} (hp : p ∈ paths) :
    (failure? p).run d = none := by
  simp only [register, Ask.run_bind, Ask.run_pure, Ask.run_mapM] at h
  split at h
  · cases h
  · cases h
    exact List.filterMap_eq_nil_iff.1 hall _ (List.mem_map_of_mem hp)

/-- Without interruption the steps of the start come to what loading and registering do. -/
theorem launch_to_end {s : Sources} {library : Library} {d : Disk} {p : Publisher} {r : Registration}
    (hload : (Publisher.load s library).run d = .ok p)
    (hregister : (register s.watched).run d = .ok r) (hall : r.failures = []) :
    ∃ actions, ((start s library d).run actions).stage = .watching ∧
      ((start s library d).run actions).watched.site.publisher = p := by
  obtain ⟨n, hpublisher, houtcome⟩ := (Site.new s library d).start_to_end
  have hcompile : ∃ e, (Publisher.new s library).compile.run d = (p, .ok e) := by
    simp only [Publisher.load, Ask.run_bind] at hload
    split at hload
    · cases hload
    · rename_i q e hq
      cases hload
      exact ⟨e, hq⟩
  obtain ⟨e, hcompile⟩ := hcompile
  change _ = ((Publisher.new s library).compile.run d).1 at hpublisher
  change _ = some ((Publisher.new s library).compile.run d).2 at houtcome
  rw [hcompile] at hpublisher houtcome
  set site := (Site.new s library d).start.run (List.replicate n (.advance 0)) with hsite
  have hadvanced : (start s library d).run (List.replicate n (.advance 0)) =
      ⟨Watched.start site, .loading, [], []⟩ := run_advances _ n 0
  have hdisk : site.disk = d := by
    have hadvances : ∀ a ∈ List.replicate n (Action.advance 0), ∀ f d, a ≠ .edit f d := by
      intro a ha
      rw [List.eq_of_mem_replicate ha]
      exact fun _ _ => nofun
    have hrun := disk_run (start s library d) hadvances
    rwa [hadvanced] at hrun
  have hfolders : (⟨Watched.start site, .loading, [], []⟩ : Launch).folders = s.watched := by
    have hrun := origin_run (start s library d) (List.replicate n (.advance 0))
    rw [hadvanced] at hrun
    exact congrArg (fun o => o.1.watched) hrun
  have hloaded : ((start s library d).run (List.replicate n (.advance 0))).loaded =
      ⟨Watched.start site, .registering s.watched, [], []⟩ := by
    rw [hadvanced, loaded_of_ok rfl houtcome, hfolders]
  refine ⟨List.replicate n (.advance 0) ++ (.loaded :: List.replicate (s.watched.length + 1) .register),
    ?_⟩
  rw [run_append, run, List.foldl_cons, ← run, step, hloaded, run_registers ?_ rfl]
  · exact ⟨rfl, hpublisher⟩
  · intro q hq
    change (failure? q).run site.disk = none
    rw [hdisk]
    exact failure?_of_register hregister hall hq

end Launch

/-- When every reported change has been handled, the site is fresh, unless its last change came
before its folder was registered and no later compile has ended. -/
theorem fresh_unless_changed_before_registration (s : Sources) (library : Library) (d : Disk)
    (actions : List Launch.Action) (l : Launch)
    (hl : l = (Launch.start s library d).run actions) (hwatching : l.stage = .watching)
    (hhandled : ∀ k ∈ l.heard, k ∈ l.watched.handled) :
    l.watched.site.Fresh ∨
      ∃ k ∈ l.unheard, k + 1 = l.watched.site.edits ∧ ¬l.watched.site.EndedSince (k + 1) := by
  have h := (Launch.sound_start s library d).run actions
  rw [← hl] at h
  by_cases hended : l.watched.site.EndedSince l.watched.site.edits
  · exact .inl (h.tracked.site.fresh hended)
  · cases hedits : l.watched.site.edits with
    | zero =>
      rw [hedits] at hended
      exact absurd (by simpa [hwatching] using h.ended) hended
    | succ k =>
      rw [hedits] at hended
      rcases h.told k (by omega) with hheard | hunheard
      · exact absurd (h.tracked.handled k (hhandled k hheard)) hended
      · exact .inr ⟨k, hunheard, rfl, hended⟩

/-- A site with one page, whose text `Edition.homeDisk` gives. -/
def homeSources : Sources :=
  ⟨"t", "frame", ["home"], []⟩

def noLibrary : Library :=
  ⟨fun _ => none, fun _ => none, fun _ => none⟩

/-- The compile publishes, and the folders are registered. -/
def registration : List Launch.Action :=
  [.advance 0, .loaded, .register, .register, .register, .register]

/-- The first compile reads all that it asks for, then the page changes, before the registration. -/
def lateChange : List Launch.Action :=
  List.replicate 4 (.advance 0) ++ [.edit "t/pages" (Edition.homeDisk "b")] ++ registration

theorem registration_edits_nothing :
    ∀ a ∈ registration, ∀ f d, a ≠ Launch.Action.edit f d := by
  simp [registration]

/-- A later change is reported, and the compile for it finds both. -/
theorem fresh_after_late_change :
    ∃ l : Launch, l.stage = .watching ∧ l.unheard = [0] ∧ l.heard = [1] ∧
      l.watched.site.publisher.current.number = 2 ∧ l.watched.site.Fresh := by
  obtain ⟨l, hl⟩ : ∃ l, l = (Launch.start homeSources noLibrary (Edition.homeDisk "a")).run
      (lateChange ++ [.edit "t/layout" (Edition.homeDisk "c"),
        .report (.event ⟨.created .file, [], false⟩) [1], .take] ++
        List.replicate 5 (.advance 1) ++ [.finish]) := ⟨_, rfl⟩
  have hwatching : l.stage = .watching := by
    rw [hl]
    decide +kernel
  have hhandled : ∀ k ∈ l.heard, k ∈ l.watched.handled := by
    rw [hl]
    decide +kernel
  have hreported : ∀ k ∈ l.unheard, k + 1 ≠ l.watched.site.edits := by
    rw [hl]
    decide +kernel
  refine ⟨l, hwatching, ?_, ?_, ?_, ?_⟩
  · rw [hl]
    decide +kernel
  · rw [hl]
    decide +kernel
  · rw [hl]
    decide +kernel
  · refine (fresh_unless_changed_before_registration _ _ _ _ l hl hwatching hhandled).resolve_right ?_
    rintro ⟨k, hk, hlast, -⟩
    exact hreported k hk hlast

/-- The change that comes before its folder is registered is not published, although nothing is left
to handle. -/
theorem late_change_is_lost :
    ∃ l : Launch, l = (Launch.start homeSources noLibrary (Edition.homeDisk "a")).run lateChange ∧
      l.stage = .watching ∧ l.heard = [] ∧ l.watched.queue = [] ∧ l.watched.handling = none ∧
      (∃ e, (l.watched.site.program 1).run l.watched.site.disk = .ok e ∧
        (e.get? "home").bind (fun page => (page.render (.obj [])).toOption) = some "b") ∧
      (l.watched.site.publisher.get? "home").bind
        (fun page => (page.render (.obj [])).toOption) = some "a" ∧
      ¬l.watched.site.Fresh := by
  obtain ⟨l, hl⟩ : ∃ l, l = (Launch.start homeSources noLibrary (Edition.homeDisk "a")).run lateChange :=
    ⟨_, rfl⟩
  have hsame : (l.watched.site.program 1).run l.watched.site.disk =
      (Edition.build homeSources noLibrary 1).run.run (Edition.homeDisk "b") := by
    have horigin : l.watched.site.origin = (homeSources, noLibrary) := by
      rw [hl, Launch.origin_run]
      rfl
    have hdisk : l.watched.site.disk = Edition.homeDisk "b" := by
      rw [hl, lateChange, Launch.run_append, Launch.disk_run _ registration_edits_nothing,
        Launch.run_append, Launch.run_singleton, Launch.step, Launch.disk_edit]
    rw [hdisk, Site.program_of_origin horigin]
  have hnumber : l.watched.site.publisher.current.number = 1 := by
    rw [hl]
    decide +kernel
  have hold : (l.watched.site.publisher.get? "home").bind
      (fun page => (page.render (.obj [])).toOption) = some "a" := by
    rw [hl]
    decide +kernel
  obtain ⟨e, he⟩ := exists_ok_of_isSome
    (x := (Edition.build homeSources noLibrary 1).run.run (Edition.homeDisk "b")) (by decide +kernel)
  have hnew : ((Edition.build homeSources noLibrary 1).run.run (Edition.homeDisk "b")).toOption.bind
      (fun e => (e.get? "home").bind fun page => (page.render (.obj [])).toOption) = some "b" := by
    decide +kernel
  rw [he] at hnew
  refine ⟨l, hl, ?_, ?_, List.isEmpty_iff.1 ?_, Option.isNone_iff_eq_none.1 ?_,
    ⟨e, hsame.trans he, hnew⟩, hold, fun h => ?_⟩
  · rw [hl]
    decide +kernel
  · rw [hl]
    decide +kernel
  · rw [hl]
    decide +kernel
  · rw [hl]
    decide +kernel
  · have hcurrent := h.built 1 e (hsame.trans he)
    rw [hnumber, hsame, he] at hcurrent
    cases hcurrent
    exact absurd (hold.symm.trans hnew) (by decide)

end LivePages.Reload
