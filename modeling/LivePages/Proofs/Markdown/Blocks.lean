import LivePages.Proofs.Markdown.Stack

/-! The block structure that reading gives. Every block that a line opens is of a kind that may be
read and has room in the block around it, and filling blocks makes no other of them, so that what is
read up to any line is a stack, and in the end one block that holds what it may. -/

namespace LivePages.Markdown

variable {x : Extensions}

/-! ### Where levels come from -/

theorem level_of_hashHeading {s rest : List Char} {level : Nat}
    (h : hashHeading? s = some (level, rest)) : 1 ≤ level ∧ level ≤ 6 := by
  unfold hashHeading? at h
  dsimp only at h
  split at h
  · rename_i hn
    have hn : 1 ≤ (s.takeWhile (· == '#')).length ∧ (s.takeWhile (· == '#')).length ≤ 6 := by
      simpa using hn
    split at h
    · cases h
      exact hn
    · split_ifs at h <;> cases h <;> exact hn
  · cases h

theorem level_of_underline {s : List Char} {level : Nat} (h : underline? s = some level) :
    1 ≤ level ∧ level ≤ 6 := by
  unfold underline? at h
  split at h
  · split at h
    · cases h
      decide
    · cases h
  · split at h
    · cases h
      decide
    · cases h
  · cases h

theorem eq_paragraph_of_isParagraph {k : BlockKind} (h : k.isParagraph = true) :
    k = .paragraph := by
  cases k <;> first | rfl | cases h

/-! ### Opening blocks -/

namespace Work

/-- The frames that a line has reached stand, with those that it may close, in one stack. -/
structure IsRead (x : Extensions) (w : Work) : Prop where
  stacked : AreStacked x (w.left.reverse ++ w.frames)
  reached : w.frames ≠ []

variable {w w' : Work}

theorem IsRead.frames (h : w.IsRead x) : AreStacked x w.frames :=
  h.stacked.right h.reached

theorem IsRead.withLine (h : w.IsRead x) (l : Line) : IsRead x { w with line := l } :=
  ⟨h.stacked, h.reached⟩

theorem IsRead.closeLeft (h : w.IsRead x) : w.closeLeft.IsRead x := by
  have hclosed := h.stacked.closeTops w.left.length w.refs
  exact ⟨hclosed, hclosed.ne_nil⟩

theorem kinds_closeLeft (hw : w.frames ≠ []) :
    w.closeLeft.frames.map Frame.kind = w.frames.map Frame.kind := by
  have hlength : 0 < w.frames.length := List.length_pos_iff.2 hw
  have hmin : min w.left.length ((w.left.reverse ++ w.frames).length - 1) =
      (w.left.reverse.map Frame.kind).length := by
    simp
    omega
  unfold Work.closeLeft
  dsimp only
  rw [kinds_closeTops, hmin, List.map_append, List.drop_left]

/-- The innermost frame is replaced by one that stands for it. -/
theorem IsRead.replace (h : w.IsRead x) {f g : Frame} {r : List Frame} (hw : w.frames = f :: r)
    (refs : References) (hg : g.IsRead x)
    (hbelow : ∀ child, f.kind.canContain child = g.kind.canContain child)
    (habove : ∀ parent : BlockKind, parent.Holds f.kind → parent.Holds g.kind)
    (hdocument : f.kind = .document → g.kind = .document) :
    IsRead x { w with refs := refs, frames := g :: r } := by
  have hstacked := h.stacked
  rw [hw] at hstacked
  refine ⟨hstacked.replace hg (fun child hchild => ?_) habove hdocument, List.cons_ne_nil g r⟩
  exact ⟨hbelow child ▸ hchild.1, hchild.2⟩

theorem IsRead.top (h : w.IsRead x) {f : Frame} {r : List Frame} (hw : w.frames = f :: r) :
    f.IsRead x :=
  h.frames.read f (hw ▸ List.mem_cons_self)

/-- The innermost frame is replaced by one of its kind. -/
theorem IsRead.setTop (h : w.IsRead x) {f g : Frame} {r : List Frame} (hw : w.frames = f :: r)
    (refs : References) (hg : g.IsRead x) (hkind : g.kind = f.kind) :
    IsRead x { w with refs := refs, frames := g :: r } := by
  refine h.replace hw refs hg ?_ ?_ ?_ <;> rw [hkind]
  · exact fun _ => rfl
  · exact fun _ hparent => hparent
  · exact id

theorem IsRead.mapTop (h : w.IsRead x) {g : Frame → Frame}
    (hg : ∀ f : Frame, f.IsRead x → (g f).IsRead x) (hkind : ∀ f, (g f).kind = f.kind) :
    (w.mapTop g).IsRead x := by
  unfold Work.mapTop
  split
  · exact h
  · rename_i t r hw
    exact h.setTop hw w.refs (hg t (h.top hw)) (hkind t)

theorem IsRead.settleTop (h : w.IsRead x) (inner : List Frame) :
    (w.mapTop (Frame.settleTight inner)).IsRead x := by
  unfold Work.mapTop
  split
  · exact h
  · rename_i t r hw
    refine h.replace hw w.refs ((h.top hw).settleTight inner) ?_ ?_ ?_
    · exact fun kind => (t.canContain_settleTight inner kind).symm
    · exact fun parent => Frame.holds_settleTight inner
    · exact Frame.document_settleTight inner

/-- Some frame that the line has reached can contain a kind. -/
def HasRoom (w : Work) (kind : BlockKind) : Prop :=
  ∃ k ∈ w.frames.map Frame.kind, k.canContain kind = true

theorem HasRoom.settleTop {kind : BlockKind} (h : w.HasRoom kind) (inner : List Frame) :
    (w.mapTop (Frame.settleTight inner)).HasRoom kind := by
  unfold Work.mapTop HasRoom at *
  split
  · exact h
  · rename_i t r hw
    rw [hw] at h
    simpa [Frame.canContain_settleTight] using h

theorem IsRead.pushed (h : w.IsRead x) {kind : BlockKind} (hk : kind.IsRead x)
    (hdocument : kind ≠ .document) (hroom : w.HasRoom kind) (number : Nat) :
    AreStacked x (Frame.new kind number ::
      (makeRoom kind w.closeLeft.frames.length w.closeLeft.refs w.closeLeft.frames).2) := by
  have hleft := h.closeLeft
  have hkinds : w.closeLeft.HasRoom kind := by
    rw [HasRoom, kinds_closeLeft h.reached]
    exact hroom
  obtain ⟨p, r, hframes, hcan⟩ := canContain_makeRoom w.closeLeft.refs le_rfl hkinds
  have hstacked := hleft.frames.makeRoom kind w.closeLeft.frames.length w.closeLeft.refs
  rw [hframes] at hstacked ⊢
  exact hstacked.cons (.new hk number) ⟨hcan, hdocument⟩

theorem IsRead.push (h : w.IsRead x) {kind : BlockKind} (hk : kind.IsRead x)
    (hdocument : kind ≠ .document) (hroom : w.HasRoom kind) : (w.push kind).IsRead x := by
  unfold Work.push
  dsimp only
  split
  · exact ⟨h.pushed hk hdocument hroom _, List.cons_ne_nil _ _⟩
  · exact ⟨(h.settleTop w.left).pushed hk hdocument (hroom.settleTop w.left) _,
      List.cons_ne_nil _ _⟩

/-- The document has room for all blocks but items. -/
theorem IsRead.hasRoom (h : w.IsRead x) {kind : BlockKind} (hitem : kind.isItem = false) :
    w.HasRoom kind := by
  refine ⟨.document, List.mem_of_getLast? h.frames.bottom, ?_⟩
  rw [BlockKind.canContain, hitem]
  rfl

/-- A list has room for items. -/
theorem IsRead.hasRoom_item (h : w.IsRead x) {m : ListMarker} {tight : Option Bool}
    (htop : w.top = .list m tight) (m' : ListMarker) : w.HasRoom (.item m') := by
  cases hframes : w.frames with
  | nil => exact absurd hframes h.reached
  | cons f r =>
    have hkind : f.kind = .list m tight := by simpa [Work.top, hframes] using htop
    refine ⟨f.kind, by simp [hframes], ?_⟩
    rw [hkind]
    rfl

theorem IsRead.openQuote (h : w.IsRead x) (hw : w.openQuote? = some w') : w'.IsRead x := by
  unfold Work.openQuote? at hw
  dsimp only at hw
  split at hw
  · cases hw
    apply IsRead.withLine
    exact h.push trivial nofun (h.hasRoom rfl)
  · cases hw

theorem IsRead.openHeading (h : w.IsRead x) (hw : w.openHeading? = some w') :
    w'.IsRead x := by
  obtain ⟨⟨level, r⟩, hlevel, rfl⟩ := Option.map_eq_some_iff.1 hw
  apply IsRead.withLine
  exact h.push (level_of_hashHeading hlevel) nofun (h.hasRoom rfl)

theorem IsRead.openFence (h : w.IsRead x) (hw : w.openFence? = some w') : w'.IsRead x := by
  obtain ⟨⟨mark, n⟩, -, rfl⟩ := Option.map_eq_some_iff.1 hw
  apply IsRead.withLine
  exact h.push trivial nofun (h.hasRoom rfl)

theorem IsRead.openMarkup (h : w.IsRead x) (hw : w.openMarkup? = some w') :
    w'.IsRead x := by
  unfold Work.openMarkup? at hw
  dsimp only at hw
  split at hw
  · cases hw
    exact h.push trivial nofun (h.hasRoom rfl)
  · split at hw
    · cases hw
      exact h.push trivial nofun (h.hasRoom rfl)
    · cases hw

theorem IsRead.openUnderlined (h : w.IsRead x) (hw : w.openUnderlined? = some w') :
    w'.IsRead x := by
  unfold Work.openUnderlined? at hw
  split at hw
  · cases hw
  rename_i hparagraph
  split at hw
  · cases hw
  rename_i level hlevel
  split at hw
  · cases hw
  rename_i f r hframes
  have hf := h.top hframes
  have hkind : f.kind = .paragraph := by
    have htop : f.kind.isParagraph = true := by simpa [Work.top, hframes] using hparagraph
    exact eq_paragraph_of_isParagraph htop
  dsimp only at hw
  split at hw
  · cases hw
    exact h.setTop hframes _ ⟨hf.kind, hf.holds, hf.done⟩ rfl
  · cases hw
    have hholds := hf.holds
    rw [hkind] at hholds
    let taken := takeDefinitions f.content.length w.refs f.content
    have hheading : IsRead x { w with
        refs := taken.1
        frames := { f with kind := .heading level true, lines := [taken.2] } :: r } := by
      refine h.replace hframes _ ⟨level_of_underline hlevel, hholds, hf.done⟩ ?_ ?_ ?_ <;>
        rw [hkind]
      · exact fun _ => rfl
      · rintro parent ⟨hcan, -⟩
        exact ⟨by cases parent <;> exact hcan, nofun⟩
      · exact nofun
    exact hheading.withLine _

theorem IsRead.openBreak (h : w.IsRead x) {allMatched : Bool}
    (hw : w.openBreak? allMatched = some w') : w'.IsRead x := by
  unfold Work.openBreak? at hw
  split at hw
  · cases hw
  split at hw
  · cases hw
    apply IsRead.withLine
    exact h.push trivial nofun (h.hasRoom rfl)
  · cases hw

/-- An item is opened in the list that stands innermost, or in a new one. -/
theorem IsRead.openItem (h : w.IsRead x) {depth : Nat} (hw : w.openItem? depth = some w') :
    w'.IsRead x := by
  unfold Work.openItem? at hw
  dsimp only at hw
  split at hw
  · cases hw
  obtain ⟨⟨width, ordered, start, mark⟩, -, rfl⟩ := Option.map_eq_some_iff.1 hw
  have hitem : ∀ (m : ListMarker) (sameList : Bool),
      (sameList = true → ∃ m' tight, w.top = .list m' tight) →
      ((if sameList then w else w.push (.list m none)).push (.item m)).IsRead x := by
    intro m sameList hsame
    split
    · rename_i hs
      obtain ⟨m', tight, htop⟩ := hsame hs
      exact h.push trivial nofun (h.hasRoom_item htop m)
    · have hlist : (w.push (.list m none)).IsRead x := h.push trivial nofun (h.hasRoom rfl)
      exact hlist.push trivial nofun (hlist.hasRoom_item rfl m)
  apply IsRead.withLine
  refine hitem _ _ fun hs => ?_
  split at hs
  · rename_i m' tight htop
    exact ⟨m', tight, htop⟩
  · cases hs

theorem IsRead.openIndented (h : w.IsRead x) {maybeLazy : Bool}
    (hw : w.openIndented? maybeLazy = some w') : w'.IsRead x := by
  unfold Work.openIndented? at hw
  split at hw
  · cases hw
    apply IsRead.withLine
    exact h.push trivial nofun (h.hasRoom rfl)
  · cases hw

theorem IsRead.openTable (h : w.IsRead x) (hx : x.table = true) (hw : w.openTable? = some w') :
    w'.IsRead x := by
  unfold Work.openTable? at hw
  split at hw
  · cases hw
  rename_i f r hframes
  have hf := h.top hframes
  dsimp only at hw
  split at hw
  · split at hw
    · cases hw
    split at hw
    · cases hw
      rename_i above _ _ _ _
      have hcut : IsRead x { w with frames := { f with lines := above } :: r } :=
        h.setTop hframes w.refs ⟨hf.kind, hf.holds, hf.done⟩ rfl
      have htable : BlockKind.table.IsRead x := hx
      apply IsRead.withLine
      exact hcut.push htable nofun (hcut.hasRoom rfl)
    · cases hw
      exact h.setTop hframes w.refs ⟨hf.kind, hf.holds, hf.done⟩ rfl
  · cases hw

theorem IsRead.openOne (h : w.IsRead x) {allMatched maybeLazy : Bool} {depth : Nat}
    (hw : w.openOne? x.table allMatched maybeLazy depth = some w') : w'.IsRead x := by
  unfold Work.openOne? at hw
  simp only [Option.orElse_eq_orElse, Option.orElse_eq_or, Option.or_eq_some_iff] at hw
  rcases hw with hplain | ⟨-, hitem | ⟨-, hindented | ⟨-, htable⟩⟩⟩
  · split at hplain
    · cases hplain
    · simp only [Option.or_eq_some_iff] at hplain
      rcases hplain with hw | ⟨-, hw | ⟨-, hw | ⟨-, hw | ⟨-, hw | ⟨-, hw⟩⟩⟩⟩⟩
      · exact h.openQuote hw
      · exact h.openHeading hw
      · exact h.openFence hw
      · exact h.openMarkup hw
      · exact h.openUnderlined hw
      · exact h.openBreak hw
  · exact h.openItem hitem
  · exact h.openIndented hindented
  · split at htable
    · rename_i hon
      exact h.openTable (Bool.and_eq_true_iff.1 hon).1 htable
    · cases htable

theorem IsRead.openAll (allMatched : Bool) (n : Nat) (maybeLazy : Bool) (depth : Nat)
    (h : w.IsRead x) : (openAll x.table allMatched n maybeLazy depth w).IsRead x := by
  induction n generalizing maybeLazy depth w with
  | zero => exact h
  | succ n ih =>
    rw [Work.openAll]
    split
    · exact h
    split
    · exact h
    · rename_i w' hw
      have hw' := h.openOne hw
      split
      · exact hw'
      · exact ih _ _ hw'

/-! ### Filling blocks -/

theorem isRead_markBlank {b : Block} (h : b.IsRead x) : b.markBlank.IsRead x := by
  cases h with
  | mk here holds below => exact .mk here holds below

theorem kind_markBlank (b : Block) : b.markBlank.kind = b.kind := by
  cases b
  rfl

/-- Noting a blank line changes no kinds. -/
theorem IsRead.congr (h : w.IsRead x) (hleft : ∀ f ∈ w'.left, f.IsRead x)
    (hframes : ∀ f ∈ w'.frames, f.IsRead x)
    (hleftKinds : w'.left.map Frame.kind = w.left.map Frame.kind)
    (hkinds : w'.frames.map Frame.kind = w.frames.map Frame.kind) : w'.IsRead x := by
  refine ⟨h.stacked.congr (List.forall_mem_append.2 ⟨fun f hf => ?_, hframes⟩) ?_, fun hnil => ?_⟩
  · exact hleft f (List.mem_reverse.1 hf)
  · rw [List.map_append, List.map_append, List.map_reverse, List.map_reverse, hleftKinds, hkinds]
  · rw [hnil] at hkinds
    exact h.reached (List.map_eq_nil_iff.1 hkinds.symm)

theorem IsRead.left (h : w.IsRead x) : ∀ f ∈ w.left, f.IsRead x :=
  fun f hf => h.stacked.read f (List.mem_append_left _ (List.mem_reverse.2 hf))

theorem IsRead.noteBlank (h : w.IsRead x) (blank : Bool) : (w.noteBlank blank).IsRead x := by
  unfold Work.noteBlank
  extract_lets v
  have hv : v.IsRead x := by
    unfold v
    split
    · exact h
    split
    · rename_i f r heq
      obtain ⟨hf, hr⟩ := List.forall_mem_cons.1 (heq ▸ h.left)
      refine h.congr (List.forall_mem_cons.2 ⟨⟨hf.kind, hf.holds, hf.done⟩, hr⟩) h.frames.read ?_
        rfl
      rw [heq]
      rfl
    · refine h.mapTop (fun f hf => ?_) fun f => ?_
      · split
        · rename_i b bs heq
          obtain ⟨hb, hbs⟩ := List.forall_mem_cons.1 (heq ▸ hf.done)
          obtain ⟨hheld, hholds⟩ := List.forall_mem_cons.1 (heq ▸ hf.holds)
          rw [← kind_markBlank] at hheld
          exact ⟨hf.kind, List.forall_mem_cons.2 ⟨hheld, hholds⟩,
            List.forall_mem_cons.2 ⟨isRead_markBlank hb, hbs⟩⟩
        · exact hf
      · split <;> rfl
  clear_value v
  split
  · exact hv
  · rename_i f around heq
    obtain ⟨hf, hr⟩ := List.forall_mem_cons.1 (heq ▸ hv.frames.read)
    refine hv.congr hv.left (List.forall_mem_cons.2 ⟨⟨hf.kind, hf.holds, hf.done⟩, ?_⟩) rfl ?_
    · intro g hg
      obtain ⟨g', hg', rfl⟩ := List.mem_map.1 hg
      exact ⟨(hr g' hg').kind, (hr g' hg').holds, (hr g' hg').done⟩
    · simp [heq]

theorem IsRead.addText (h : w.IsRead x) : AreStacked x w.addText.frames := by
  have hadd : ∀ {v : Work} (s : List Char), v.IsRead x → (v.mapTop (·.addText s)).IsRead x :=
    fun s hv => hv.mapTop (fun f hf => hf.addText s) fun f => f.kind_addText s
  unfold Work.addText
  dsimp only
  split
  · exact (hadd _ h).frames
  · exact (hadd _ h).frames
  · split
    · exact (hadd _ h).frames.closeTop _
    · exact (hadd _ h).frames
  · split
    · exact h.frames
    · exact (hadd _ h).frames
  · exact h.frames
  · split
    · exact h.frames
    split
    · exact (hadd _ h).frames
    · have hpushed : (w.push .paragraph).IsRead x := h.push trivial nofun (h.hasRoom rfl)
      exact (hadd _ hpushed).frames

end Work

namespace Reading

variable {r : Reading}

/-- What has been read so far is a stack of frames that may be read. -/
def IsRead (x : Extensions) (r : Reading) : Prop :=
  AreStacked x r.frames

theorem IsRead.addLine (h : r.IsRead x) (text : List Char) :
    (r.addLine x.table text).IsRead x := by
  unfold Reading.addLine
  extract_lets number line d
  have hstacked : AreStacked x (d.left.reverse ++ d.matched) := by
    apply AreStacked.descend
    rw [List.reverse_reverse, List.append_nil]
    exact h
  have hreached : d.matched ≠ [] := matched_descend_reverse _ h
  clear_value d
  split
  · exact hstacked.closeTops _ _
  rename_i w maybeLazy w' w'' left last hopen
  have hw'' : w''.IsRead x :=
    Work.IsRead.noteBlank (Work.IsRead.openAll _ _ _ _ ⟨hstacked, hreached⟩) _
  split
  · refine hw''.stacked.congr (List.forall_mem_append.2 ⟨fun f hf => ?_, hw''.frames.read⟩) ?_
    · obtain ⟨i, hi, rfl⟩ := List.mem_iff_getElem.1 (List.mem_reverse.1 hf)
      unfold left
      rw [List.getElem_modify]
      split
      · exact (hw''.left _ (List.getElem_mem _)).addText _
      · exact hw''.left _ (List.getElem_mem _)
    · rw [List.map_append, List.map_append, List.map_reverse, List.map_reverse]
      rw [map_modify fun f => f.kind_addText _]
  · exact hw''.closeLeft.addText

theorem isRead_finish (h : r.IsRead x) : r.finish.2.IsRead x := by
  have hclosed := h.closeTops r.frames.length r.refs
  have hkinds := h.kinds_closeTops_length r.refs
  unfold Reading.finish
  dsimp only
  split
  · rename_i f fs heq
    obtain ⟨hf, -⟩ := List.forall_mem_cons.1 (heq ▸ hclosed.read)
    have hdocument : f.kind = .document := by
      rw [heq, List.map_cons] at hkinds
      exact (List.cons.inj hkinds).1
    have hholds := hf.holds
    rw [hdocument] at hholds
    refine .mk trivial (fun b hb => hholds b (List.mem_reverse.1 hb)) fun b hb => ?_
    exact hf.done b (List.mem_reverse.1 hb)
  · exact .mk trivial (List.forall_mem_nil _) (List.forall_mem_nil _)

end Reading

theorem isRead_readBlocks (x : Extensions) (s : List Char) :
    (readBlocks x.table s).2.IsRead x := by
  have hrun : ∀ (ls : List (List Char)) (r : Reading), r.IsRead x →
      (ls.foldl (Reading.addLine x.table) r).IsRead x := by
    intro ls
    induction ls with
    | nil => exact fun r h => h
    | cons l ls ih => exact fun r h => ih _ (h.addLine l)
  have hstart : Reading.start.IsRead x := by
    refine ⟨List.forall_mem_singleton.2 (.new ?_ 0), List.isChain_singleton _, rfl⟩
    trivial
  exact Reading.isRead_finish (hrun _ _ hstart)

end LivePages.Markdown
