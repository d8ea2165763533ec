import Mathlib.Algebra.Group.Nat.Defs
import Mathlib.Data.List.Nodup
import LivePages.Proofs.Publisher.Interleaving

/-! What holds however compiles overlap: the ticket decides. Every edition that is ever out is the
whole result of one build, and the one that is out has the highest ticket that was published. -/

namespace LivePages.Overlap

open Config (Sources)
open Template (Library)

theorem map_set_of_eq {α β : Type} {l : List α} {i : Nat} {a : α} (f : α → β) (h : l[i]? = some a)
    (b : α) (hf : f b = f a) : (l.set i b).map f = l.map f := by
  apply List.ext_getElem?
  intro j
  rw [List.getElem?_map, List.getElem?_map, List.getElem?_set]
  split
  · rename_i hij
    subst hij
    rw [h]
    split
    · simp [hf]
    · rename_i hi
      rw [List.getElem?_eq_none (by omega)] at h
      cases h
  · rfl

theorem mem_set_of_ne {α : Type} {l : List α} {i : Nat} {a b x : α} (h : l[i]? = some a)
    (hx : x ∈ l) (hne : x ≠ a) : x ∈ l.set i b := by
  obtain ⟨j, hj⟩ := List.mem_iff_getElem?.1 hx
  refine List.mem_iff_getElem?.2 ⟨j, ?_⟩
  rw [List.getElem?_set_ne, hj]
  rintro rfl
  rw [h] at hj
  cases hj
  exact hne rfl

namespace Site

/-- The empty edition, or the own one of a compile that has published. -/
def IsOut (s : Site) (e : Edition) : Prop :=
  e = Edition.empty ∨ ∃ c ∈ s.compiles, c.phase.own? = some e

/-- A compile has come where disks since its start lead its build. Its result is its own edition, or
a higher one that was out before. -/
structure Sound (s : Site) (c : Compile) : Prop where
  since : c.since ≤ s.edits
  course : Ask.Reaches (s.Stood c.since) (s.program c.ticket) c.phase.rest
  result : ∀ own result, c.phase = .published own result →
    s.IsOut result ∧ (result = own ∨ own.number < result.number)

structure Consistent (s : Site) : Prop where
  tickets : s.publisher.tickets = s.compiles.length
  numbered : s.compiles.map (·.ticket) = List.range' 1 s.compiles.length
  ordered : (s.compiles.map (·.since)).Pairwise (· ≤ ·)
  sound : ∀ c ∈ s.compiles, s.Sound c
  current : s.IsOut s.publisher.current
  newest : ∀ c ∈ s.compiles, ∀ own, c.phase.own? = some own →
    own.number ≤ s.publisher.current.number
  seen : ∀ e ∈ s.seen, s.IsOut e

variable {s : Site} {i : Nat} {c : Compile}

theorem consistent_new (sources : Sources) (library : Library) (d : Disk) :
    (Site.new sources library d).Consistent where
  tickets := rfl
  numbered := rfl
  ordered := List.Pairwise.nil
  sound := List.forall_mem_nil _
  current := .inl rfl
  newest := List.forall_mem_nil _
  seen := List.forall_mem_nil _

/-! ### Steps -/

theorem Consistent.start (h : s.Consistent) : s.start.Consistent := by
  have hout : ∀ e, s.IsOut e → s.start.IsOut e := by
    rintro e (he | ⟨c, hc, he⟩)
    · exact .inl he
    · exact .inr ⟨c, List.mem_append_left _ hc, he⟩
  refine ⟨?_, ?_, ?_, ?_, ?_, ?_, ?_⟩
  · simp [Site.start, Publisher.takeTicket, h.tickets]
  · simp only [Site.start, Publisher.takeTicket, List.map_append, h.numbered, h.tickets,
      List.length_append, List.map_cons, List.map_nil, List.length_singleton]
    rw [List.range'_concat]
    simp [Nat.add_comm]
  · simp only [Site.start, List.map_append, List.pairwise_append]
    refine ⟨h.ordered, by simp, ?_⟩
    intro a ha b hb
    obtain ⟨c, hc, rfl⟩ := List.mem_map.1 ha
    obtain rfl : b = s.edits := by simpa using hb
    exact (h.sound c hc).since
  · intro c hc
    rcases List.mem_append.1 hc with hc | hc
    · have hs := h.sound c hc
      exact ⟨hs.since, hs.course, fun own result hp => ⟨hout _ (hs.result own result hp).1,
        (hs.result own result hp).2⟩⟩
    · rw [List.mem_singleton.1 hc]
      exact ⟨Nat.le_refl _, .refl, fun own result hp => by cases hp⟩
  · exact hout _ h.current
  · intro c hc own hown
    rcases List.mem_append.1 hc with hc | hc
    · exact h.newest c hc own hown
    · rw [List.mem_singleton.1 hc] at hown
      cases hown
  · exact fun e he => hout e (h.seen e he)

theorem Consistent.edit (h : s.Consistent) (d : Disk) : (s.step (.edit d)).Consistent where
  tickets := h.tickets
  numbered := h.numbered
  ordered := h.ordered
  sound c hc := by
    have hs := h.sound c hc
    refine ⟨Nat.le_succ_of_le hs.since, ?_, hs.result⟩
    exact hs.course.mono fun _ hd => hd.edit hs.since
  current := h.current
  newest := h.newest
  seen := h.seen

theorem Consistent.look (h : s.Consistent) : (s.step .look).Consistent where
  tickets := h.tickets
  numbered := h.numbered
  ordered := h.ordered
  sound c hc := ⟨(h.sound c hc).since, (h.sound c hc).course, (h.sound c hc).result⟩
  current := h.current
  newest := h.newest
  seen := List.forall_mem_cons.2 ⟨h.current, h.seen⟩

theorem published_of_own {ph : Phase} {own : Edition} (h : ph.own? = some own) :
    ∃ result, ph = .published own result := by
  cases ph with
  | published own' result =>
    cases h
    exact ⟨result, rfl⟩
  | _ => cases h

/-- The number of an edition that has been built is the ticket. -/
theorem Sound.number_of_built (h : s.Sound c) {e : Edition} (he : c.phase.rest = .done (.ok e)) :
    e.number = c.ticket := by
  have hnumber := (Edition.every_number _ _ _).reaches h.course
  rw [he] at hnumber
  exact hnumber e rfl

theorem Sound.number (h : s.Sound c) {own : Edition} (ho : c.phase.own? = some own) :
    own.number = c.ticket := by
  obtain ⟨result, hp⟩ := published_of_own ho
  exact h.number_of_built (congrArg Phase.rest hp)

theorem publish_cases (p : Publisher) (e : Edition) :
    (p.publish e = p ∧ e.number < p.current.number) ∨
      (p.publish e = { p with current := e } ∧ p.current.number ≤ e.number) := by
  unfold Publisher.publish
  split
  · rename_i h
    exact .inl ⟨rfl, h⟩
  · rename_i h
    exact .inr ⟨rfl, Nat.le_of_not_lt h⟩

/-- A compile under way goes on. The publisher keeps what is out, or takes the compile's own edition,
which has no lower number. -/
theorem Consistent.setPhase (h : s.Consistent) (hc : s.compiles[i]? = some c)
    (hown : c.phase.own? = none) {p : Publisher} {ph : Phase}
    (hkept : p.tickets = s.publisher.tickets ∧ p.sources = s.publisher.sources ∧
      p.library = s.publisher.library)
    (hcourse : Ask.Reaches (s.Stood c.since) (s.program c.ticket) ph.rest)
    (hcurrent : p.current = s.publisher.current ∨
      ph.own? = some p.current ∧ s.publisher.current.number ≤ p.current.number)
    (hresult : ∀ own result, ph = .published own result →
      result = p.current ∧ (result = own ∨ own.number < result.number)) :
    ({ s with publisher := p }.setPhase i c ph).Consistent := by
  have hout : ∀ e, s.IsOut e → ({ s with publisher := p }.setPhase i c ph).IsOut e := by
    rintro e (he | ⟨c', hc', he⟩)
    · exact .inl he
    · refine .inr ⟨c', mem_set_of_ne hc hc' ?_, he⟩
      rintro rfl
      rw [hown] at he
      cases he
  have hnow : ({ s with publisher := p }.setPhase i c ph).IsOut p.current := by
    rcases hcurrent with hsame | ⟨hnew, -⟩
    · rw [hsame]
      exact hout _ h.current
    · exact .inr ⟨_, List.mem_set (List.getElem?_eq_some_iff.1 hc).1 _, hnew⟩
  have hgrown : s.publisher.current.number ≤ p.current.number := by
    rcases hcurrent with hsame | ⟨-, hle⟩
    · exact Nat.le_of_eq (congrArg Edition.number hsame.symm)
    · exact hle
  have hprogram : ∀ n, ({ s with publisher := p }.setPhase i c ph).program n = s.program n := by
    intro n
    simp only [program, Site.setPhase, hkept.2.1, hkept.2.2]
  refine ⟨?_, ?_, ?_, ?_, hnow, ?_, fun e he => hout e (h.seen e he)⟩
  · simp only [Site.setPhase, List.length_set, hkept.1, h.tickets]
  · simp only [Site.setPhase, List.length_set]
    rw [map_set_of_eq (·.ticket) hc { c with phase := ph } rfl, h.numbered]
  · simp only [Site.setPhase]
    rw [map_set_of_eq (·.since) hc { c with phase := ph } rfl]
    exact h.ordered
  · intro c' hc'
    rcases List.mem_or_eq_of_mem_set hc' with hc' | rfl
    · have hs := h.sound c' hc'
      refine ⟨hs.since, ?_, fun own result hp => ?_⟩
      · rw [hprogram]
        exact hs.course
      · exact ⟨hout _ (hs.result own result hp).1, (hs.result own result hp).2⟩
    · refine ⟨(h.sound c (List.mem_of_getElem? hc)).since, ?_, fun own result hp => ?_⟩
      · rw [hprogram]
        exact hcourse
      · obtain ⟨rfl, hle⟩ := hresult own result hp
        exact ⟨hnow, hle⟩
  · intro c' hc' own ho
    rcases List.mem_or_eq_of_mem_set hc' with hc' | rfl
    · exact Nat.le_trans (h.newest c' hc' own ho) hgrown
    · obtain ⟨result, hp⟩ := published_of_own ho
      obtain ⟨rfl, hle⟩ := hresult own result hp
      rcases hle with heq | hlt
      · exact Nat.le_of_eq (congrArg Edition.number heq.symm)
      · exact Nat.le_of_lt hlt

theorem Consistent.advance (h : s.Consistent) (i : Nat) : (s.advance i).Consistent := by
  unfold Site.advance
  split
  · exact h
  · rename_i c hc
    have hs := h.sound c (List.mem_of_getElem? hc)
    split
    · rename_i q next hp
      have hown : c.phase.own? = none := congrArg Phase.own? hp
      refine h.setPhase hc hown ⟨rfl, rfl, rfl⟩ ?_ (.inl rfl) (fun _ _ hph => nomatch hph)
      have hcourse := hs.course
      rw [hp] at hcourse
      exact Ask.Reaches.step hcourse (stood_disk hs.since)
    · rename_i f hp
      have hown : c.phase.own? = none := congrArg Phase.own? hp
      refine h.setPhase hc hown ⟨rfl, rfl, rfl⟩ ?_ (.inl rfl) (fun _ _ hph => nomatch hph)
      have hcourse := hs.course
      rwa [hp] at hcourse
    · rename_i e hp
      have hown : c.phase.own? = none := congrArg Phase.own? hp
      have hcourse := hs.course
      rw [hp] at hcourse
      rcases publish_cases s.publisher e with ⟨hsame, hnumber⟩ | ⟨hnew, hnumber⟩
      · rw [hsame]
        refine h.setPhase hc hown ⟨rfl, rfl, rfl⟩ hcourse (.inl rfl) fun own result hph => ?_
        cases hph
        exact ⟨rfl, .inr hnumber⟩
      · rw [hnew]
        refine h.setPhase hc hown ⟨rfl, rfl, rfl⟩ hcourse (.inr ⟨rfl, hnumber⟩)
          fun own result hph => ?_
        cases hph
        exact ⟨rfl, .inl rfl⟩
    · exact h

theorem Consistent.step (h : s.Consistent) (a : Action) : (s.step a).Consistent := by
  cases a with
  | start => exact h.start
  | advance i => exact h.advance i
  | look => exact h.look
  | edit d => exact h.edit d

theorem Consistent.run (h : s.Consistent) (actions : List Action) : (s.run actions).Consistent := by
  induction actions generalizing s with
  | nil => exact h
  | cons a actions ih => exact ih (h.step a)

/-! ### What stays -/

/-- What a site's compiles are of. -/
def origin (s : Site) : Sources × Library :=
  (s.publisher.sources, s.publisher.library)

theorem program_of_origin {s : Site} {sources : Sources} {library : Library}
    (h : s.origin = (sources, library)) (n : Nat) :
    s.program n = (Edition.build sources library n).run := by
  obtain ⟨rfl, rfl⟩ := Prod.mk.inj h
  rfl

theorem origin_advance (s : Site) (i : Nat) : (s.advance i).origin = s.origin := by
  unfold advance
  split
  · rfl
  · split
    · rfl
    · rfl
    · rename_i e _
      change ((s.publisher.publish e).sources, (s.publisher.publish e).library) = s.origin
      rcases publish_cases s.publisher e with ⟨hp, -⟩ | ⟨hp, -⟩ <;> rw [hp] <;> rfl
    · rfl

theorem disk_advance (s : Site) (i : Nat) : (s.advance i).disk = s.disk := by
  unfold advance
  split
  · rfl
  · split <;> rfl

theorem origin_step (s : Site) (a : Action) : (s.step a).origin = s.origin := by
  cases a with
  | advance i => exact origin_advance s i
  | _ => rfl

theorem origin_run (s : Site) (actions : List Action) : (s.run actions).origin = s.origin := by
  induction actions generalizing s with
  | nil => rfl
  | cons a actions ih => exact (ih (s.step a)).trans (origin_step s a)

/-! ### The law -/

/-- The tickets of the compiles that have published. -/
def publishedTickets (s : Site) : List Nat :=
  s.compiles.filterMap fun c => c.phase.own?.map fun _ => c.ticket

/-- What a caller may hold: the current edition, one that a reader has loaded, or one that a compile
gave. -/
def IsVisible (s : Site) (e : Edition) : Prop :=
  e = s.publisher.current ∨ e ∈ s.seen ∨ ∃ c ∈ s.compiles, ∃ own, c.phase = .published own e

/-- `e` is the whole result of the build of compile `c`: the build has come to its end over disks that
were there since the compile took its ticket. -/
structure IsBuiltBy (s : Site) (e : Edition) (c : Compile) : Prop where
  own : c.phase.own? = some e
  number : e.number = c.ticket
  whole : Ask.Reaches (s.Stood c.since) (s.program c.ticket) (.done (.ok e))

/-- What holds however compiles, readers and changes interleave. A compile installed its edition if
that was current right after it published, which is its result. -/
structure Lawful (s : Site) : Prop where
  distinct : (s.compiles.map (·.ticket)).Nodup
  bounded : s.compiles.length < 2 ^ 64 → ∀ c ∈ s.compiles, (UInt64.ofNat c.ticket).toNat = c.ticket
  replaces : ∀ a, (s.step a).publisher.current = s.publisher.current ∨
    s.publisher.current.number < (s.step a).publisher.current.number
  grows : ∀ more, s.publisher.current.number ≤ (s.run more).publisher.current.number
  newest : s.publisher.current.number = s.publishedTickets.foldr max 0
  whole : ∀ e, s.IsVisible e → e = Edition.empty ∨
    ∃ c ∈ s.compiles, s.IsBuiltBy e c ∧ ∀ c' ∈ s.compiles, c'.phase.own? = some e → c' = c
  result : ∀ c ∈ s.compiles, ∀ own result, c.phase = .published own result →
    c.ticket ≤ result.number ∧ (result.number = c.ticket ↔ result = own)

theorem foldr_max_le {l : List Nat} {m : Nat} (h : ∀ n ∈ l, n ≤ m) : l.foldr max 0 ≤ m := by
  induction l with
  | nil => exact Nat.zero_le m
  | cons n l ih =>
    obtain ⟨hn, hl⟩ := List.forall_mem_cons.1 h
    exact Nat.max_le.2 ⟨hn, ih hl⟩

theorem le_foldr_max {l : List Nat} {m : Nat} (h : m ∈ l) : m ≤ l.foldr max 0 := by
  induction l with
  | nil => cases h
  | cons n l ih =>
    rw [List.foldr_cons]
    rcases List.mem_cons.1 h with rfl | h
    · exact Nat.le_max_left _ _
    · exact Nat.le_trans (ih h) (Nat.le_max_right _ _)

theorem Consistent.nodup (h : s.Consistent) : (s.compiles.map (·.ticket)).Nodup := by
  rw [h.numbered]
  exact List.nodup_range'

/-- Tickets are counted from one. -/
theorem Consistent.ticket_bounds (h : s.Consistent) (hc : c ∈ s.compiles) :
    0 < c.ticket ∧ c.ticket ≤ s.compiles.length := by
  have hmem : c.ticket ∈ List.range' 1 s.compiles.length := by
    rw [← h.numbered]
    exact List.mem_map_of_mem hc
  rw [List.mem_range'_1] at hmem
  omega

theorem Consistent.eq_of_ticket (h : s.Consistent) {c c' : Compile} (hc : c ∈ s.compiles)
    (hc' : c' ∈ s.compiles) (ht : c.ticket = c'.ticket) : c = c' :=
  List.inj_on_of_nodup_map h.nodup hc hc' ht

/-- What is out stays or makes room for an edition with a higher number. -/
theorem Consistent.replaces (h : s.Consistent) (a : Action) :
    (s.step a).publisher.current = s.publisher.current ∨
      s.publisher.current.number < (s.step a).publisher.current.number := by
  cases a with
  | advance i =>
    simp only [Site.step, Site.advance]
    split
    · exact .inl rfl
    rename_i c hc
    split
    · exact .inl rfl
    · exact .inl rfl
    · rename_i e hp
      have hmem := List.mem_of_getElem? hc
      have hticket : e.number = c.ticket := (h.sound c hmem).number_of_built (congrArg Phase.rest hp)
      rcases publish_cases s.publisher e with ⟨hsame, -⟩ | ⟨hnew, hnumber⟩
      · exact .inl (congrArg Publisher.current hsame)
      · rw [hnew]
        refine .inr (Nat.lt_of_le_of_ne hnumber fun heq => ?_)
        have heq : s.publisher.current.number = e.number := heq
        rcases h.current with hempty | ⟨c', hc', ho⟩
        · have hpos := (h.ticket_bounds hmem).1
          rw [← hticket, ← heq, hempty] at hpos
          exact absurd hpos (Nat.lt_irrefl 0)
        · have hsame : c' = c := h.eq_of_ticket hc' hmem (by
            rw [← (h.sound c' hc').number ho, ← hticket, heq])
          rw [hsame, hp] at ho
          cases ho
    · exact .inl rfl
  | _ => exact .inl rfl

theorem Consistent.grows (h : s.Consistent) (actions : List Action) :
    s.publisher.current.number ≤ (s.run actions).publisher.current.number := by
  induction actions generalizing s with
  | nil => exact Nat.le_refl _
  | cons a actions ih =>
    refine Nat.le_trans ?_ (ih (h.step a))
    rcases h.replaces a with hsame | hlt
    · exact Nat.le_of_eq (congrArg Edition.number hsame.symm)
    · exact Nat.le_of_lt hlt

theorem Consistent.isBuiltBy (h : s.Consistent) {e : Edition} (he : s.IsOut e) :
    e = Edition.empty ∨ ∃ c ∈ s.compiles, s.IsBuiltBy e c ∧
      ∀ c' ∈ s.compiles, c'.phase.own? = some e → c' = c := by
  rcases he with he | ⟨c, hc, ho⟩
  · exact .inl he
  · have hs := h.sound c hc
    obtain ⟨result, hp⟩ := published_of_own ho
    have hcourse := hs.course
    rw [hp] at hcourse
    refine .inr ⟨c, hc, ⟨ho, hs.number ho, hcourse⟩, fun c' hc' ho' => ?_⟩
    exact h.eq_of_ticket hc' hc (((h.sound c' hc').number ho').symm.trans (hs.number ho))

theorem Consistent.lawful (h : s.Consistent) : s.Lawful where
  distinct := h.nodup
  bounded hlt c hc :=
    UInt64.toNat_ofNat_of_lt (Nat.lt_of_le_of_lt (h.ticket_bounds hc).2 hlt)
  replaces := h.replaces
  grows := h.grows
  newest := by
    have hpublished : ∀ n, n ∈ s.publishedTickets ↔
        ∃ c ∈ s.compiles, ∃ own, c.phase.own? = some own ∧ c.ticket = n := by
      simp [publishedTickets]
    apply Nat.le_antisymm
    · rcases h.current with hempty | ⟨c, hc, ho⟩
      · rw [hempty]
        exact Nat.zero_le _
      · exact le_foldr_max ((hpublished _).2 ⟨c, hc, _, ho, ((h.sound c hc).number ho).symm⟩)
    · refine foldr_max_le fun n hn => ?_
      obtain ⟨c, hc, own, ho, rfl⟩ := (hpublished n).1 hn
      rw [← (h.sound c hc).number ho]
      exact h.newest c hc own ho
  whole e he := by
    refine h.isBuiltBy ?_
    rcases he with rfl | he | ⟨c, hc, own, hp⟩
    · exact h.current
    · exact h.seen e he
    · exact ((h.sound c hc).result own e hp).1
  result c hc own result hp := by
    have hs := h.sound c hc
    have hnumber : own.number = c.ticket := hs.number (congrArg Phase.own? hp)
    rcases (hs.result own result hp).2 with rfl | hlt
    · exact ⟨Nat.le_of_eq hnumber.symm, iff_of_true hnumber rfl⟩
    · refine ⟨by omega, ⟨by omega, ?_⟩⟩
      rintro rfl
      exact absurd hlt (Nat.lt_irrefl _)

/-- However compiles, readers and changes of the disk interleave, the ticket decides. Uninterrupted,
the steps of a compile are `Publisher.compile` (`start_to_end`). -/
theorem overlapping_compiles (sources : Sources) (library : Library) (d : Disk)
    (actions : List Action) : ((Site.new sources library d).run actions).Lawful :=
  ((consistent_new sources library d).run actions).lawful

-- the older of two compiles ends last, and the newer edition stays
example :
    ((Site.new ⟨"t", "base", [], []⟩ ⟨fun _ => none, fun _ => none, fun _ => none⟩ (.uniform "a")).run
      [.start, .advance 0, .edit (.uniform "b"), .start, .advance 1, .advance 1, .advance 1, .look,
        .advance 0, .advance 0, .look]).seen.map (·.number) = [2, 2] := by decide +kernel

end Site

end LivePages.Overlap
