import LivePages.Proofs.Reload.Watching

/-! No change is lost. A compile that starts after a change reads the disk with the change in it, and
no compile that started before replaces its edition; so when every change has been reported, and every
report handled, the edition that is out is that of the present disk. -/

namespace LivePages.Overlap.Site

variable {s : Site}

/-- The edition that is out is what the disk gives. If that builds none, it is an edition begun
before the last change, or the empty one. -/
structure Fresh (s : Site) : Prop where
  built : ∀ n e, (s.program n).run s.disk = .ok e →
    (s.program s.publisher.current.number).run s.disk = .ok s.publisher.current
  kept : ∀ n f, (s.program n).run s.disk = .error f →
    (s.publisher.current = Edition.empty ∧ s.publishedTickets = []) ∨
      ∃ c ∈ s.compiles, s.IsBuiltBy s.publisher.current c ∧ c.since < s.edits

/-- A compile that started after `k` changes or more has ended. -/
def EndedSince (s : Site) (k : Nat) : Prop :=
  ∃ c ∈ s.compiles, k ≤ c.since ∧ c.phase.outcome?.isSome

/-! ### Compiles by age -/

theorem Consistent.ticket_getElem (h : s.Consistent) {i : Nat} (hi : i < s.compiles.length) :
    s.compiles[i].ticket = i + 1 := by
  have hmap : (s.compiles.map (·.ticket))[i]? = (List.range' 1 s.compiles.length)[i]? := by
    rw [h.numbered]
  rw [List.getElem?_map, List.getElem?_eq_getElem hi, List.getElem?_range' hi] at hmap
  have hticket : s.compiles[i].ticket = 1 + 1 * i := Option.some.inj hmap
  omega

/-- A later ticket was taken no earlier. -/
theorem Consistent.since_le (h : s.Consistent) {c c' : Compile} (hc : c ∈ s.compiles)
    (hc' : c' ∈ s.compiles) (ht : c.ticket ≤ c'.ticket) : c.since ≤ c'.since := by
  obtain ⟨i, hi, rfl⟩ := List.mem_iff_getElem.1 hc
  obtain ⟨j, hj, rfl⟩ := List.mem_iff_getElem.1 hc'
  rw [h.ticket_getElem hi, h.ticket_getElem hj] at ht
  rcases Nat.lt_or_eq_of_le (Nat.le_of_succ_le_succ ht) with hlt | rfl
  · have hpair := List.pairwise_iff_getElem.1 h.ordered i j (by simpa using hi) (by simpa using hj) hlt
    simpa using hpair
  · exact Nat.le_refl _

/-- A build that has seen only the present disk comes to what that disk gives. -/
theorem Sound.run_rest (h : s.Sound c) (hc : s.edits ≤ c.since) :
    c.phase.rest.run s.disk = (s.program c.ticket).run s.disk := by
  refine h.course.run_eq fun d hd => eq_disk_of_stood ?_
  rwa [Nat.le_antisymm h.since hc] at hd

/-- Once a compile has ended that started after the last change, what is out is of the present disk. -/
theorem Consistent.fresh (h : s.Consistent) (hended : s.EndedSince s.edits) : s.Fresh where
  built n e he := by
    obtain ⟨c, hc, hsince, ho⟩ := hended
    have hs := h.sound c hc
    -- the ended compile has built the present disk, so it has published
    have hrun := hs.run_rest hsince
    rw [show s.program c.ticket = (Edition.build _ _ c.ticket).run from rfl,
      Edition.build_renumber he] at hrun
    have hle : c.ticket ≤ s.publisher.current.number := by
      cases hp : c.phase with
      | building rest => simp [hp, Phase.outcome?] at ho
      | failed f => simp [hp, Phase.rest, Ask.run] at hrun
      | published own result =>
        rw [← hs.number (congrArg Phase.own? hp)]
        exact h.newest c hc own (congrArg Phase.own? hp)
    -- whoever published what is out started no earlier
    rcases h.current with hempty | ⟨c', hc', hown⟩
    · have hpos := (h.ticket_bounds hc).1
      rw [hempty] at hle
      exact absurd hle (Nat.not_le_of_lt hpos)
    · have hs' := h.sound c' hc'
      have hnumber := hs'.number hown
      have hsince' := h.since_le hc hc' (by omega)
      have hrun' := hs'.run_rest (Nat.le_trans hsince hsince')
      obtain ⟨result, hp⟩ := published_of_own hown
      rw [hp] at hrun'
      rw [hnumber, ← hrun']
      rfl
  kept n f hf := by
    rcases h.isBuiltBy h.current with hempty | ⟨c, hc, hbuilt, -⟩
    · refine .inl ⟨hempty, List.filterMap_eq_nil_iff.2 fun c hc => ?_⟩
      cases hown : c.phase.own? with
      | none => rfl
      | some own =>
        have hle := h.newest c hc own hown
        rw [(h.sound c hc).number hown, hempty] at hle
        exact absurd hle (Nat.not_le_of_lt (h.ticket_bounds hc).1)
    · refine .inr ⟨c, hc, hbuilt, ?_⟩
      have hs := h.sound c hc
      by_contra hlate
      have hrun := hs.run_rest (Nat.le_of_not_lt hlate)
      obtain ⟨result, hp⟩ := published_of_own hbuilt.own
      rw [hp] at hrun
      have hok := Edition.build_renumber (n := n) hrun.symm
      rw [show (Edition.build s.publisher.sources s.publisher.library n).run = s.program n from rfl,
        hf] at hok
      cases hok

/-! ### Steps of a site -/

/-- A step keeps the compiles in their places, and those that have ended as they are. -/
theorem step_keeps (a : Action) {i : Nat} {c : Compile} (hc : s.compiles[i]? = some c) :
    ∃ c', (s.step a).compiles[i]? = some c' ∧ c'.since = c.since ∧
      (c.phase.outcome?.isSome → c'.phase = c.phase) := by
  have hlt : i < s.compiles.length := (List.getElem?_eq_some_iff.1 hc).1
  have hset : ∀ (j : Nat) (b : Compile) (rest : Ask (Except PageFault Edition)) (ph : Phase),
      s.compiles[j]? = some b → b.phase = .building rest →
      ∃ c', (s.compiles.set j { b with phase := ph })[i]? = some c' ∧ c'.since = c.since ∧
        (c.phase.outcome?.isSome → c'.phase = c.phase) := by
    intro j b rest ph hb hp
    by_cases hij : j = i
    · subst hij
      rw [hc] at hb
      cases hb
      refine ⟨_, List.getElem?_set_self hlt, rfl, fun ho => ?_⟩
      rw [hp] at ho
      cases ho
    · exact ⟨c, by rw [List.getElem?_set_ne hij, hc], rfl, fun _ => rfl⟩
  cases a with
  | start => exact ⟨c, by rw [← hc]; exact List.getElem?_append_left hlt, rfl, fun _ => rfl⟩
  | look => exact ⟨c, hc, rfl, fun _ => rfl⟩
  | edit d => exact ⟨c, hc, rfl, fun _ => rfl⟩
  | advance j =>
    simp only [Site.step, Site.advance]
    split
    · exact ⟨c, hc, rfl, fun _ => rfl⟩
    · rename_i b hb
      split
      · rename_i q next hp
        exact hset j b _ _ hb hp
      · rename_i f hp
        exact hset j b _ _ hb hp
      · rename_i e hp
        exact hset j b _ _ hb hp
      · exact ⟨c, hc, rfl, fun _ => rfl⟩

theorem edits_advance (s : Site) (i : Nat) : (s.advance i).edits = s.edits := by
  unfold Site.advance
  split
  · rfl
  · split <;> rfl

theorem edits_le_step (s : Site) (a : Action) : s.edits ≤ (s.step a).edits := by
  cases a with
  | advance i => exact Nat.le_of_eq (edits_advance s i).symm
  | edit d => exact Nat.le_succ s.edits
  | _ => exact Nat.le_refl _

theorem EndedSince.step {k : Nat} (h : s.EndedSince k) (a : Action) : (s.step a).EndedSince k := by
  obtain ⟨c, hc, hk, ho⟩ := h
  obtain ⟨i, hi⟩ := List.mem_iff_getElem?.1 hc
  obtain ⟨c', hc', hsince, hphase⟩ := step_keeps a hi
  refine ⟨c', List.mem_of_getElem? hc', by omega, ?_⟩
  rw [hphase ho]
  exact ho

end LivePages.Overlap.Site

namespace LivePages.Reload

open Config (Sources)
open Overlap (Site)
open Template (Library)

/-- What is kept while a watcher runs that started when the disk had changed `began` times. -/
structure Watched.Tracked (began : Nat) (w : Watched) : Prop where
  site : w.site.Consistent
  known : began ≤ w.site.edits
  queue : ∀ q ∈ w.queue, ∀ k ∈ q.changes, k < w.site.edits
  handling : ∀ h, w.handling = some h → ∃ c, w.site.compiles[h.compile]? = some c ∧
    began ≤ c.since ∧ ∀ k ∈ h.changes, k < c.since
  handled : ∀ k ∈ w.handled, w.site.EndedSince (k + 1)
  triggers : 0 < w.triggers → w.site.EndedSince began

namespace Watched.Tracked

variable {began : Nat} {w : Watched}

theorem start {s : Site} (hs : s.Consistent) : (Watched.start s).Tracked s.edits :=
  ⟨hs, Nat.le_refl _, List.forall_mem_nil _, (fun _ hg => nomatch hg), List.forall_mem_nil _,
    fun ht => absurd ht (Nat.lt_irrefl 0)⟩

theorem step (h : w.Tracked began) (a : Action) : (w.step a).Tracked began := by
  cases a with
  | site a =>
    have hedits := Site.edits_le_step w.site a
    refine ⟨h.site.step a, Nat.le_trans h.known hedits, ?_, ?_, ?_, ?_⟩
    · exact fun q hq k hk => Nat.lt_of_lt_of_le (h.queue q hq k hk) hedits
    · intro g hg
      obtain ⟨c, hc, hb, hchanges⟩ := h.handling g hg
      obtain ⟨c', hc', hsince, -⟩ := Site.step_keeps a hc
      rw [← hsince] at hb hchanges
      exact ⟨c', hc', hb, hchanges⟩
    · exact fun k hk => (h.handled k hk).step a
    · exact fun ht => (h.triggers ht).step a
  | report d changes =>
    refine ⟨h.site, h.known, fun q hq k hk => ?_, h.handling, h.handled, h.triggers⟩
    rcases List.mem_append.1 hq with hq | hq
    · exact h.queue q hq k hk
    · rw [List.mem_singleton.1 hq] at hk
      exact of_decide_eq_true (List.mem_filter.1 hk).2
  | take =>
    simp only [Watched.step, Watched.take]
    split
    · rename_i q r hidle hqueue
      have hq := h.queue
      rw [hqueue] at hq
      obtain ⟨hchanges, hr⟩ := List.forall_mem_cons.1 hq
      split
      · refine ⟨h.site.start, h.known, hr, ?_, ?_, ?_⟩
        · intro g hg
          cases hg
          refine ⟨_, List.getElem?_concat_length, h.known, hchanges⟩
        · exact fun k hk => (h.handled k hk).step .start
        · exact fun ht => (h.triggers ht).step .start
      · refine ⟨h.site, h.known, hr, fun g hg => ?_, h.handled, h.triggers⟩
        rw [hidle] at hg
        cases hg
    · exact h
  | finish =>
    simp only [Watched.step, Watched.finish]
    split
    · exact h
    · rename_i g hg
      obtain ⟨c, hc, hb, hchanges⟩ := h.handling g hg
      split
      · rename_i hended
        have ho : c.phase.outcome?.isSome := by
          rwa [Site.outcome?, hc] at hended
        refine ⟨h.site, h.known, h.queue, (fun _ hg => by cases hg), fun k hk => ?_, fun _ => ?_⟩
        · rcases List.mem_append.1 hk with hk | hk
          · exact ⟨c, List.mem_of_getElem? hc, hchanges k hk, ho⟩
          · exact h.handled k hk
        · exact ⟨c, List.mem_of_getElem? hc, hb, ho⟩
      · exact h

theorem run (h : w.Tracked began) (actions : List Action) : (w.run actions).Tracked began := by
  induction actions generalizing w with
  | nil => exact h
  | cons a actions ih => exact ih (h.step a)

end Watched.Tracked

/-- A site is fresh once its watcher handled a report that counts, and one for each later change, to
the end. Handling is `handle` (`take_to_finish`). -/
theorem no_change_is_lost (sources : Sources) (library : Library) (d : Disk)
    (before : List Overlap.Action) (actions : List Action) (w : Watched)
    (hw : w = (Watched.start ((Site.new sources library d).run before)).run actions)
    (htriggers : 0 < w.triggers)
    (hhandled : ∀ k, ((Site.new sources library d).run before).edits ≤ k → k < w.site.edits →
      k ∈ w.handled) : w.site.Fresh := by
  have hbefore := (Site.consistent_new sources library d).run before
  have h := (Watched.Tracked.start hbefore).run actions
  rw [← hw] at h
  refine h.site.fresh ?_
  rcases Nat.lt_or_eq_of_le h.known with hlt | heq
  · have hlast := h.handled (w.site.edits - 1) (hhandled _ (by omega) (by omega))
    rwa [show w.site.edits - 1 + 1 = w.site.edits by omega] at hlast
  · rw [← heq]
    exact h.triggers htriggers

/-- The disk changes between two questions of the watcher's compile, and a compile begun before the
watcher started ends last. -/
theorem no_change_is_lost_between_questions :
    ∃ w : Watched, w.triggers = 2 ∧ w.site.edits = 1 ∧ w.handled = [0] ∧
      w.site.publisher.current.number = 3 ∧ w.site.Fresh := by
  refine ⟨_, ?_, ?_, ?_, ?_, no_change_is_lost ⟨"t", "base", [], []⟩
    ⟨fun _ => none, fun _ => none, fun _ => none⟩ (.uniform "a") [.start, .advance 0]
    [.report (.event ⟨.created .file, [], false⟩) [], .take, .site (.advance 1),
      .site (.edit (.uniform "b")), .report (.event ⟨.other, [], true⟩) [0], .site (.advance 1),
      .site (.advance 1), .finish, .take, .site (.advance 2), .site (.advance 2), .site (.advance 2),
      .finish, .site (.advance 0), .site (.advance 0), .site .look] _ rfl ?_ ?_⟩
  · decide +kernel
  · decide +kernel
  · decide +kernel
  · decide +kernel
  · decide +kernel
  · intro k _ hk
    have hk : k < 1 := hk
    have hhandled : k = 0 := by omega
    subst hhandled
    decide +kernel

end LivePages.Reload
