import Mathlib.Data.List.Induction
import LivePages.Proofs.Publisher.Interleaving
import LivePages.Reload.Edit

/-! One publisher and its files over a history of acts, one after the other: edits, compiles and
reads. What is current is the edition of the last compile that succeeded, and what a reader has taken
stays as it was. -/

namespace LivePages.History

open Config (Sources)
open Template (Library)

/-- What is done at a publisher and its files. Pages and editions that acts give are kept, for later
acts to render or look into. -/
inductive Act
  | edit (e : Reload.Edit)
  | compile
  | get (name : String)
  | render (name : String) (data : Json)
  | snapshot
  | generation
  | renderKept (i : Nat) (data : Json)
  | getFromKept (i : Nat) (name : String)

inductive Answer
  | edited (r : Except DiskFault Unit)
  | compiled (r : Except PageFault Edition)
  | page (p : Option Page)
  | text (r : Except PageFault String)
  | edition (e : Edition)
  | number (n : Nat)
  | nothingKept

/-- The edition that an act gives to be kept. -/
def Answer.edition? : Answer → Option Edition
  | .compiled (.ok e) => some e
  | .edition e => some e
  | _ => none

/-- The files, the publisher, and what has been kept, the earliest first. -/
structure Desk where
  world : World
  publisher : Publisher
  pages : List Page
  editions : List Edition

namespace Desk

def new (s : Sources) (library : Library) (w : World) : Desk :=
  ⟨w, .new s library, [], []⟩

def step (k : Desk) : Act → Desk × Answer
  | .edit e =>
    match e.apply k.world with
    | .ok w => ({ k with world := w }, .edited (.ok ()))
    | .error f => (k, .edited (.error f))
  | .compile =>
    let (p, r) := k.publisher.compile.run k.world.disk
    ({ k with publisher := p, editions := k.editions ++ r.toOption.toList }, .compiled r)
  | .get name =>
    ({ k with pages := k.pages ++ (k.publisher.get? name).toList }, .page (k.publisher.get? name))
  | .render name data => (k, .text (k.publisher.render name data))
  | .snapshot =>
    ({ k with editions := k.editions ++ [k.publisher.current] }, .edition k.publisher.current)
  | .generation => (k, .number k.publisher.current.number)
  | .renderKept i data =>
    match k.pages[i]? with
    | none => (k, .nothingKept)
    | some p => (k, .text (p.render data))
  | .getFromKept i name =>
    match k.editions[i]? with
    | none => (k, .nothingKept)
    | some e => ({ k with pages := k.pages ++ (e.get? name).toList }, .page (e.get? name))

def run (k : Desk) (acts : List Act) : Desk :=
  acts.foldl (fun k a => (k.step a).1) k

theorem run_append (k : Desk) (before after : List Act) :
    k.run (before ++ after) = (k.run before).run after :=
  List.foldl_append

theorem run_concat (k : Desk) (acts : List Act) (a : Act) :
    k.run (acts ++ [a]) = ((k.run acts).step a).1 := by
  rw [run_append]
  rfl

end Desk

/-! ### What a history says by itself -/

def Act.isCompile : Act → Bool
  | .compile => true
  | _ => false

/-- Acts that only look. -/
def Act.isRead : Act → Bool
  | .edit _ => false
  | .compile => false
  | _ => true

/-- How many compiles there were, failed ones included. -/
def compiles (acts : List Act) : Nat :=
  acts.countP Act.isCompile

/-- The files after an act: only edits change them, and those that are refused do not. -/
def Act.files (w : World) : Act → World
  | .edit e => (e.apply w).toOption.getD w
  | _ => w

def worldAfter (w : World) (acts : List Act) : World :=
  acts.foldl Act.files w

section History

variable (s : Sources) (library : Library) (w : World)

/-- What a compile that comes after some acts builds: its number is its place among all compiles. -/
def buildAfter (acts : List Act) : Except PageFault Edition :=
  (Edition.build s library (compiles acts + 1)).run.run (worldAfter w acts).disk

/-- Some compile among the acts `after`, which follow `before`, succeeds. -/
def Succeeds (before after : List Act) : Prop :=
  ∃ between rest e, after = between ++ .compile :: rest ∧
    buildAfter s library w (before ++ between) = .ok e

/-- `e` was built by a compile among the acts. -/
def IsBuilt (acts : List Act) (e : Edition) : Prop :=
  ∃ before rest, acts = before ++ .compile :: rest ∧ buildAfter s library w before = .ok e

/-- `e` is the edition of the last compile that succeeded, or the empty one if none did. Its number is
that compile's place among all compiles, or 0. -/
def IsLast (acts : List Act) (e : Edition) : Prop :=
  (e = Edition.empty ∧ ¬ Succeeds s library w [] acts) ∨
    ∃ before rest, acts = before ++ .compile :: rest ∧ buildAfter s library w before = .ok e ∧
      e.number = compiles before + 1 ∧ ¬ Succeeds s library w (before ++ [.compile]) rest

end History

variable {s : Sources} {library : Library} {w : World} {acts before after : List Act} {a : Act}
  {e : Edition}

theorem compiles_concat (acts : List Act) (a : Act) :
    compiles (acts ++ [a]) = compiles acts + if a.isCompile then 1 else 0 := by
  simp [compiles, List.countP_append, List.countP_cons]

theorem worldAfter_concat (w : World) (acts : List Act) (a : Act) :
    worldAfter w (acts ++ [a]) = a.files (worldAfter w acts) := by
  rw [worldAfter, List.foldl_append]
  rfl

/-- Whether a compile succeeds is settled act by act. -/
theorem succeeds_concat : Succeeds s library w before (after ++ [a]) ↔
    Succeeds s library w before after ∨
      a = .compile ∧ ∃ e, buildAfter s library w (before ++ after) = .ok e := by
  constructor
  · rintro ⟨between, rest, e, heq, he⟩
    rcases List.eq_nil_or_concat rest with rfl | ⟨rest, b, rfl⟩
    · obtain ⟨rfl, ha⟩ := List.append_inj' heq rfl
      exact .inr ⟨List.singleton_inj.1 ha, e, he⟩
    · rw [List.concat_eq_append, ← List.cons_append, ← List.append_assoc] at heq
      obtain ⟨rfl, -⟩ := List.append_inj' heq rfl
      exact .inl ⟨between, rest, e, rfl, he⟩
  · rintro (⟨between, rest, e, rfl, he⟩ | ⟨rfl, e, he⟩)
    · exact ⟨between, rest ++ [a], e, by simp, he⟩
    · exact ⟨after, [], e, rfl, he⟩

theorem not_succeeds_nil : ¬ Succeeds s library w before [] := by
  rintro ⟨between, rest, e, heq, -⟩
  simp at heq

theorem number_of_buildAfter (h : buildAfter s library w acts = .ok e) :
    e.number = compiles acts + 1 := by
  rw [buildAfter, Edition.run_build] at h
  cases hpages : (Edition.found s library).run.run (worldAfter w acts).disk with
  | error f =>
    rw [hpages] at h
    cases h
  | ok pages =>
    rw [hpages] at h
    cases h
    exact Edition.number_ofPages _ _

theorem IsBuilt.concat (h : IsBuilt s library w acts e) (a : Act) :
    IsBuilt s library w (acts ++ [a]) e := by
  obtain ⟨before, rest, rfl, he⟩ := h
  exact ⟨before, rest ++ [a], by simp, he⟩

/-! ### The last edition -/

theorem IsLast.concat (h : IsLast s library w acts e)
    (ha : a = .compile → ∀ e', buildAfter s library w acts ≠ .ok e') :
    IsLast s library w (acts ++ [a]) e := by
  rcases h with ⟨rfl, hnone⟩ | ⟨before, rest, rfl, he, hnumber, hnone⟩
  · refine .inl ⟨rfl, fun h => ?_⟩
    rcases succeeds_concat.1 h with h | ⟨hc, e', he'⟩
    · exact hnone h
    · exact ha hc e' he'
  · refine .inr ⟨before, rest ++ [a], by simp, he, hnumber, fun h => ?_⟩
    rcases succeeds_concat.1 h with h | ⟨hc, e', he'⟩
    · exact hnone h
    · rw [List.append_assoc, List.singleton_append] at he'
      exact ha hc e' he'

theorem isLast_of_buildAfter (h : buildAfter s library w acts = .ok e) :
    IsLast s library w (acts ++ [.compile]) e :=
  .inr ⟨acts, [], rfl, h, number_of_buildAfter h, not_succeeds_nil⟩

theorem IsLast.number_le (h : IsLast s library w acts e) : e.number ≤ compiles acts := by
  rcases h with ⟨rfl, -⟩ | ⟨before, rest, rfl, -, hnumber, -⟩
  · exact Nat.zero_le _
  · rw [hnumber, compiles, compiles, List.countP_append, List.countP_cons]
    simp [Act.isCompile]

theorem IsLast.isBuilt (h : IsLast s library w acts e) :
    e = Edition.empty ∨ IsBuilt s library w acts e := by
  rcases h with ⟨rfl, -⟩ | ⟨before, rest, rfl, he, -, -⟩
  · exact .inl rfl
  · exact .inr ⟨before, rest, rfl, he⟩

/-! ### Every history -/

/-- `k` is where the acts lead. -/
structure Sound (s : Sources) (library : Library) (w : World) (acts : List Act) (k : Desk) :
    Prop where
  sources : k.publisher.sources = s
  world : k.world = worldAfter w acts
  tickets : k.publisher.tickets = compiles acts
  current : IsLast s library w acts k.publisher.current
  pages : ∀ p ∈ k.pages, ∃ e name, IsBuilt s library w acts e ∧ e.get? name = some p
  editions : ∀ e ∈ k.editions, e = Edition.empty ∨ IsBuilt s library w acts e
  library : k.publisher.library = library

variable {k : Desk}

theorem sound_new : Sound s library w [] (Desk.new s library w) where
  sources := rfl
  library := rfl
  world := rfl
  tickets := rfl
  current := .inl ⟨rfl, not_succeeds_nil⟩
  pages := List.forall_mem_nil _
  editions := List.forall_mem_nil _

theorem Sound.run_compile (h : Sound s library w acts k) :
    k.publisher.compile.run k.world.disk =
      Overlap.Site.concluded { k.publisher with tickets := compiles acts + 1 }
        (buildAfter s library w acts) := by
  rw [Overlap.Site.run_compile]
  simp only [Publisher.takeTicket, h.sources, h.library, h.world, h.tickets]
  rfl

/-- A compile that fails uses up its number, and nothing else changes. -/
theorem Sound.step_compile_error (h : Sound s library w acts k) {f : PageFault}
    (hf : buildAfter s library w acts = .error f) :
    k.step .compile = ({ k with publisher := { k.publisher with tickets := compiles acts + 1 } },
      .compiled (.error f)) := by
  rw [Desk.step, h.run_compile, hf]
  simp [Overlap.Site.concluded, Except.toOption]

/-- A compile that succeeds is published: no number that is out is as high as its own. -/
theorem Sound.step_compile_ok (h : Sound s library w acts k)
    (he : buildAfter s library w acts = .ok e) :
    k.step .compile =
      ({ k with
          publisher := { k.publisher with tickets := compiles acts + 1, current := e }
          editions := k.editions ++ [e] },
        .compiled (.ok e)) := by
  have hnumber : ¬ e.number < k.publisher.current.number := by
    have hle := h.current.number_le
    rw [number_of_buildAfter he]
    omega
  rw [Desk.step, h.run_compile, he]
  simp [Overlap.Site.concluded, Publisher.publish, hnumber, Except.toOption]

/-- An act that is no compile leaves the publisher alone, and what it keeps is of an edition that has
been out. -/
theorem Sound.concat (h : Sound s library w acts k) (a : Act) (hc : a.isCompile = false) {k' : Desk}
    (hpublisher : k'.publisher = k.publisher) (hworld : k'.world = a.files k.world)
    (hpages : ∀ p ∈ k'.pages, p ∈ k.pages ∨
      ∃ e name, (e = k.publisher.current ∨ e ∈ k.editions) ∧ e.get? name = some p)
    (heditions : ∀ e ∈ k'.editions, e ∈ k.editions ∨ e = k.publisher.current) :
    Sound s library w (acts ++ [a]) k' := by
  have hout : ∀ e, e = k.publisher.current ∨ e ∈ k.editions →
      e = Edition.empty ∨ IsBuilt s library w acts e := by
    rintro e (rfl | he)
    · exact h.current.isBuilt
    · exact h.editions e he
  refine ⟨hpublisher ▸ h.sources, ?_, ?_, ?_, fun p hp => ?_, fun e he => ?_, hpublisher ▸ h.library⟩
  · rw [hworld, h.world, worldAfter_concat]
  · rw [hpublisher, h.tickets, compiles_concat, hc]
    rfl
  · rw [hpublisher]
    refine h.current.concat fun ha => ?_
    rw [ha] at hc
    cases hc
  · rcases hpages p hp with hp | ⟨e, name, he, hname⟩
    · obtain ⟨e, name, he, hname⟩ := h.pages p hp
      exact ⟨e, name, he.concat a, hname⟩
    · rcases hout e he with rfl | he
      · cases hname
      · exact ⟨e, name, he.concat a, hname⟩
  · exact (hout e ((heditions e he).symm)).imp_right fun he => he.concat a

theorem Sound.step (h : Sound s library w acts k) (a : Act) :
    Sound s library w (acts ++ [a]) (k.step a).1 := by
  have hkept : ∀ e : Edition, (e = k.publisher.current ∨ e ∈ k.editions) → ∀ name,
      ∀ p ∈ k.pages ++ (e.get? name).toList, p ∈ k.pages ∨
        ∃ e name, (e = k.publisher.current ∨ e ∈ k.editions) ∧ e.get? name = some p := by
    intro e he name p hp
    exact (List.mem_append.1 hp).imp_right fun hp => ⟨e, name, he, Option.mem_toList.1 hp⟩
  cases a with
  | edit change =>
    rw [Desk.step]
    cases hchange : change.apply k.world with
    | ok w' =>
      refine h.concat (.edit change) rfl rfl ?_ (fun p hp => .inl hp) fun e he => .inl he
      rw [Act.files, hchange]
      rfl
    | error f =>
      refine h.concat (.edit change) rfl rfl ?_ (fun p hp => .inl hp) fun e he => .inl he
      rw [Act.files, hchange]
      rfl
  | compile =>
    have hpages : ∀ p ∈ k.pages, ∃ e name, IsBuilt s library w (acts ++ [.compile]) e ∧
        e.get? name = some p := by
      intro p hp
      obtain ⟨e, name, he, hname⟩ := h.pages p hp
      exact ⟨e, name, he.concat _, hname⟩
    have heditions : ∀ e ∈ k.editions, e = Edition.empty ∨
        IsBuilt s library w (acts ++ [.compile]) e :=
      fun e he => (h.editions e he).imp_right fun he => he.concat _
    have hworld : k.world = worldAfter w (acts ++ [.compile]) := by
      rw [worldAfter_concat, h.world]
      rfl
    have htickets : compiles acts + 1 = compiles (acts ++ [.compile]) := by
      rw [compiles_concat]
      rfl
    cases hbuild : buildAfter s library w acts with
    | error f =>
      rw [h.step_compile_error hbuild]
      refine ⟨h.sources, hworld, htickets, h.current.concat fun _ e' he' => ?_, hpages, heditions,
        h.library⟩
      rw [hbuild] at he'
      cases he'
    | ok e =>
      rw [h.step_compile_ok hbuild]
      refine ⟨h.sources, hworld, htickets, isLast_of_buildAfter hbuild, hpages, ?_, h.library⟩
      refine List.forall_mem_append.2 ⟨heditions, List.forall_mem_singleton.2 (.inr ?_)⟩
      exact ⟨acts, [], rfl, hbuild⟩
  | get name => exact h.concat (.get name) rfl rfl rfl (hkept _ (.inl rfl) name) fun e he => .inl he
  | render name data =>
    exact h.concat (.render name data) rfl rfl rfl (fun p hp => .inl hp) fun e he => .inl he
  | snapshot =>
    refine h.concat .snapshot rfl rfl rfl (fun p hp => .inl hp) fun e he => ?_
    exact (List.mem_append.1 he).imp_right List.mem_singleton.1
  | generation => exact h.concat .generation rfl rfl rfl (fun p hp => .inl hp) fun e he => .inl he
  | renderKept i data =>
    rw [Desk.step]
    split <;>
      exact h.concat (.renderKept i data) rfl rfl rfl (fun p hp => .inl hp) fun e he => .inl he
  | getFromKept i name =>
    rw [Desk.step]
    split
    · exact h.concat (.getFromKept i name) rfl rfl rfl (fun p hp => .inl hp) fun e he => .inl he
    · rename_i e he
      exact h.concat (.getFromKept i name) rfl rfl rfl
        (hkept e (.inr (List.mem_of_getElem? he)) name) fun e he => .inl he

theorem Sound.run (acts : List Act) :
    Sound s library w acts ((Desk.new s library w).run acts) := by
  induction acts using List.reverseRecOn with
  | nil => exact sound_new
  | append_singleton acts a ih =>
    rw [Desk.run_concat]
    exact ih.step a

/-! ### What stays -/

theorem publisher_step (k : Desk) (hc : a.isCompile = false) :
    (k.step a).1.publisher = k.publisher := by
  cases a with
  | compile => cases hc
  | edit change =>
    rw [Desk.step]
    split <;> rfl
  | renderKept i data =>
    rw [Desk.step]
    split <;> rfl
  | getFromKept i name =>
    rw [Desk.step]
    split <;> rfl
  | _ => rfl

theorem world_step (k : Desk) (hr : a.isRead = true) : (k.step a).1.world = k.world := by
  cases a with
  | compile => cases hr
  | edit change => cases hr
  | renderKept i data =>
    rw [Desk.step]
    split <;> rfl
  | getFromKept i name =>
    rw [Desk.step]
    split <;> rfl
  | _ => rfl

/-- What is kept stays in its place. -/
theorem kept_step (k : Desk) (a : Act) :
    k.pages <+: (k.step a).1.pages ∧ k.editions <+: (k.step a).1.editions := by
  cases a with
  | edit change =>
    rw [Desk.step]
    split <;> exact ⟨List.prefix_rfl, List.prefix_rfl⟩
  | compile => exact ⟨List.prefix_rfl, List.prefix_append _ _⟩
  | get name => exact ⟨List.prefix_append _ _, List.prefix_rfl⟩
  | render name data => exact ⟨List.prefix_rfl, List.prefix_rfl⟩
  | snapshot => exact ⟨List.prefix_rfl, List.prefix_append _ _⟩
  | generation => exact ⟨List.prefix_rfl, List.prefix_rfl⟩
  | renderKept i data =>
    rw [Desk.step]
    split <;> exact ⟨List.prefix_rfl, List.prefix_rfl⟩
  | getFromKept i name =>
    rw [Desk.step]
    split
    · exact ⟨List.prefix_rfl, List.prefix_rfl⟩
    · exact ⟨List.prefix_append _ _, List.prefix_rfl⟩

theorem kept_run (k : Desk) (after : List Act) :
    k.pages <+: (k.run after).pages ∧ k.editions <+: (k.run after).editions := by
  induction after using List.reverseRecOn with
  | nil => exact ⟨List.prefix_rfl, List.prefix_rfl⟩
  | append_singleton after a ih =>
    rw [Desk.run_concat]
    obtain ⟨hpages, heditions⟩ := kept_step (k.run after) a
    exact ⟨ih.1.trans hpages, ih.2.trans heditions⟩

/-- What is current changes with a compile that succeeds, and with nothing else. -/
theorem Sound.current_step (h : Sound s library w acts k) (a : Act) :
    ((k.step a).1.publisher.current = k.publisher.current ∧
        ¬ (a = .compile ∧ ∃ e, buildAfter s library w acts = .ok e)) ∨
      (a = .compile ∧ ∃ e, buildAfter s library w acts = .ok e) ∧
        (k.step a).1.publisher.current.number = compiles acts + 1 := by
  by_cases hc : a = .compile
  · subst hc
    cases hbuild : buildAfter s library w acts with
    | error f =>
      rw [h.step_compile_error hbuild]
      exact .inl ⟨rfl, by simp⟩
    | ok e =>
      rw [h.step_compile_ok hbuild]
      exact .inr ⟨⟨rfl, e, rfl⟩, number_of_buildAfter hbuild⟩
  · have hc' : a.isCompile = false := by
      cases a <;> first | rfl | exact absurd rfl hc
    exact .inl ⟨congrArg Publisher.current (publisher_step k hc'), fun ha => hc ha.1⟩

theorem compiles_le (before after : List Act) : compiles before ≤ compiles (before ++ after) := by
  rw [compiles, compiles, List.countP_append]
  exact Nat.le_add_right _ _

/-- The current edition after more acts: the same, or one with a number that no earlier compile had. -/
theorem current_append (s : Sources) (library : Library) (w : World) (before after : List Act) :
    (¬ Succeeds s library w before after ∧
        ((Desk.new s library w).run (before ++ after)).publisher.current =
          ((Desk.new s library w).run before).publisher.current) ∨
      Succeeds s library w before after ∧
        compiles before < ((Desk.new s library w).run (before ++ after)).publisher.current.number := by
  induction after using List.reverseRecOn with
  | nil =>
    rw [List.append_nil]
    exact .inl ⟨not_succeeds_nil, rfl⟩
  | append_singleton after a ih =>
    rw [← List.append_assoc, Desk.run_concat, succeeds_concat]
    have hsound : Sound s library w (before ++ after) _ := Sound.run (before ++ after)
    rcases hsound.current_step a with ⟨hsame, hno⟩ | ⟨hyes, hnumber⟩
    · rw [hsame]
      exact ih.imp (fun h => ⟨not_or.2 ⟨h.1, hno⟩, h.2⟩) fun h => ⟨.inl h.1, h.2⟩
    · rw [hnumber]
      exact .inr ⟨.inr hyes, Nat.lt_succ_of_le (compiles_le _ _)⟩

theorem current_eq_iff (before after : List Act) :
    ((Desk.new s library w).run (before ++ after)).publisher.current =
        ((Desk.new s library w).run before).publisher.current ↔
      ¬ Succeeds s library w before after := by
  rcases current_append s library w before after with ⟨hno, hsame⟩ | ⟨hyes, hlt⟩
  · exact iff_of_true hsame hno
  · refine iff_of_false (fun hsame => ?_) (not_not.2 hyes)
    rw [hsame] at hlt
    exact absurd hlt (Nat.not_lt.2 (Sound.run before).current.number_le)

/-- The edition that an act gives is the current one right after it. -/
theorem Sound.current_of_edition? (h : Sound s library w acts k)
    (he : (k.step a).2.edition? = some e) : (k.step a).1.publisher.current = e := by
  cases a with
  | edit change =>
    rw [Desk.step] at he
    split at he <;> cases he
  | compile =>
    cases hbuild : buildAfter s library w acts with
    | error f =>
      rw [h.step_compile_error hbuild] at he
      cases he
    | ok e' =>
      rw [h.step_compile_ok hbuild] at he ⊢
      exact Option.some.inj he
  | snapshot => exact Option.some.inj he
  | renderKept i data =>
    rw [Desk.step] at he
    split at he <;> cases he
  | getFromKept i name =>
    rw [Desk.step] at he
    split at he <;> cases he
  | _ => cases he

/-- A publisher that is loaded from the files of a compile has the same pages. -/
theorem load_of_buildAfter (h : buildAfter s library w acts = .ok e) :
    (Publisher.load s library).run (worldAfter w acts).disk =
      .ok ⟨s, library, 1, { e with number := 1 }⟩ := by
  have hbuild := Edition.build_renumber (n := 1) h
  have hcompile : (Publisher.new s library).compile.run (worldAfter w acts).disk =
      (⟨s, library, 1, { e with number := 1 }⟩, .ok { e with number := 1 }) := by
    rw [Overlap.Site.run_compile]
    simp only [Publisher.new, Publisher.takeTicket, Nat.zero_add, hbuild]
    rfl
  rw [Publisher.load, Ask.run_bind, hcompile]
  rfl

/-! ### The law -/

/-- What holds after some acts, where `k` is the desk then. -/
structure Faithful (s : Sources) (library : Library) (w : World) (acts : List Act) (k : Desk) :
    Prop where
  files : k.world = worldAfter w acts
  tickets : k.publisher.tickets = compiles acts
  /-- The edition of the last compile that succeeded is what all reads show. -/
  shown : ∃ e, IsLast s library w acts e ∧ (k.step .generation).2 = .number e.number ∧
    (k.step .snapshot).2 = .edition e ∧ (∀ name, (k.step (.get name)).2 = .page (e.get? name)) ∧
    ∀ name data, (k.step (.render name data)).2 =
      .text (((e.get? name).map (·.render data)).getD (.error (.unknown name)))
  /-- A compile that fails uses up its number. -/
  failing : ∀ f, buildAfter s library w acts = .error f →
    k.step .compile = ({ k with publisher := { k.publisher with tickets := compiles acts + 1 } },
      .compiled (.error f))
  succeeding : ∀ e, buildAfter s library w acts = .ok e →
    (k.step .compile).2 = .compiled (.ok e) ∧ (k.step .compile).1.publisher.current = e ∧
      e.number = compiles acts + 1
  reads : ∀ a : Act, a.isRead = true →
    (k.step a).1.publisher = k.publisher ∧ (k.step a).1.world = k.world
  /-- What was current at an earlier moment still is, unless a compile has succeeded since. Editions of
  different compiles differ in their numbers. -/
  unchanged : ∀ before after, acts = before ++ after →
    (k.publisher.current = ((Desk.new s library w).run before).publisher.current ↔
      ¬ Succeeds s library w before after)
  /-- So is the edition that an earlier act gave. -/
  taken : ∀ before a after e, acts = before ++ a :: after →
    (((Desk.new s library w).run before).step a).2.edition? = some e →
      (k.publisher.current = e ↔ ¬ Succeeds s library w (before ++ [a]) after)
  /-- A page kept at an earlier moment renders all data as its name does at a publisher that is loaded
  from the files of the page's own compile. -/
  pages : ∀ before after i p, acts = before ++ after →
    ((Desk.new s library w).run before).pages[i]? = some p →
      ∃ own rest loaded, before = own ++ .compile :: rest ∧
        (Publisher.load s library).run (worldAfter w own).disk = .ok loaded ∧
        ∀ data, (k.step (.renderKept i data)).2 = .text (loaded.render p.name data)
  /-- An edition kept at an earlier moment is the empty one, or has the pages of a publisher that is
  loaded from the files of the edition's own compile. -/
  editions : ∀ before after i e, acts = before ++ after →
    ((Desk.new s library w).run before).editions[i]? = some e →
      (∀ name, (k.step (.getFromKept i name)).2 = .page (e.get? name)) ∧
      (e = Edition.empty ∨
        ∃ own rest loaded, before = own ++ .compile :: rest ∧
          buildAfter s library w own = .ok e ∧
          (Publisher.load s library).run (worldAfter w own).disk = .ok loaded ∧
          ∀ name, e.get? name = loaded.get? name)

theorem getElem?_of_prefix {α : Type} {l m : List α} {i : Nat} {x : α} (h : l <+: m)
    (hx : l[i]? = some x) : m[i]? = some x := by
  obtain ⟨rest, rfl⟩ := h
  rw [List.getElem?_append_left (List.getElem?_eq_some_iff.1 hx).1, hx]

theorem renderKept_of_pages {i : Nat} {p : Page} (h : k.pages[i]? = some p) (data : Json) :
    (k.step (.renderKept i data)).2 = .text (p.render data) := by
  simp only [Desk.step, h]

theorem getFromKept_of_editions {i : Nat} (h : k.editions[i]? = some e) (name : String) :
    (k.step (.getFromKept i name)).2 = .page (e.get? name) := by
  simp only [Desk.step, h]

/-- However edits, compiles and reads follow each other, every reader sees the edition of the last
compile that succeeded, and keeps what it has taken. -/
theorem history_is_faithful (s : Sources) (library : Library) (w : World) (acts : List Act) :
    Faithful s library w acts ((Desk.new s library w).run acts) := by
  have h : Sound s library w acts ((Desk.new s library w).run acts) := Sound.run acts
  refine ⟨h.world, h.tickets, ⟨_, h.current, rfl, rfl, fun _ => rfl, fun name data => ?_⟩,
    fun f => h.step_compile_error, fun e he => ?_, fun a ha => ⟨?_, world_step _ ha⟩, ?_, ?_, ?_, ?_⟩
  · rw [Desk.step, Publisher.render, Publisher.get?]
    cases ((Desk.new s library w).run acts).publisher.current.get? name <;> rfl
  · rw [h.step_compile_ok he]
    exact ⟨rfl, rfl, number_of_buildAfter he⟩
  · have hc : a.isCompile = false := by
      cases a <;> first | rfl | cases ha
    exact publisher_step _ hc
  · rintro before after rfl
    exact current_eq_iff before after
  · rintro before a after e rfl he
    have hgiven := (Sound.run before).current_of_edition? he
    rw [← hgiven, ← Desk.run_concat, List.append_cons]
    exact current_eq_iff (before ++ [a]) after
  · rintro before after i p rfl hp
    obtain ⟨e, name, ⟨own, rest, rfl, he⟩, hname⟩ :=
      (Sound.run before).pages p (List.mem_of_getElem? hp)
    obtain rfl : p.name = name := by simpa using List.find?_some hname
    refine ⟨own, rest, _, rfl, load_of_buildAfter he, fun data => ?_⟩
    have hloaded : ({ e with number := 1 } : Edition).get? p.name = some p := hname
    have hkept := getElem?_of_prefix (kept_run _ after).1 hp
    rw [Desk.run_append, renderKept_of_pages hkept, Publisher.render, Publisher.get?, hloaded]
  · rintro before after i e rfl he
    have hkept := getElem?_of_prefix (kept_run _ after).2 he
    rw [Desk.run_append]
    refine ⟨getFromKept_of_editions hkept, ?_⟩
    refine ((Sound.run before).editions e (List.mem_of_getElem? he)).imp_right ?_
    rintro ⟨own, rest, rfl, hbuild⟩
    exact ⟨own, rest, _, rfl, hbuild, load_of_buildAfter hbuild, fun name => rfl⟩

-- a compile that fails leaves a gap between the numbers, and what was taken before it
example :
    ((Desk.new ⟨"t", "base", [], []⟩ ⟨fun _ => none, fun _ => none, fun _ => none⟩
      ⟨.folder [("t", .folder [("components", .folder []),
        ("layout", .folder [("base.html", .file [])])])], []⟩).run
      [.snapshot, .compile, .edit (.remove "t/layout/base.html"), .compile, .snapshot,
        .edit (.replace "t/layout/base.html" [0x61]), .compile, .snapshot]).editions.map (·.number) =
      [0, 1, 1, 3, 3] := by decide +kernel

end LivePages.History
