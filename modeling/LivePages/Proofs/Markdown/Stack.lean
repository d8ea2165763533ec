import Mathlib.Data.List.Chain
import LivePages.Markdown.Block
import LivePages.Proofs.Markdown.Inlines

/-! The stack of open blocks. The blocks under way stand in one another, each in one that may hold
it, down to the document; closing, replacing and going on with them keeps it so. -/

namespace LivePages.Markdown

def BlockKind.IsRead (x : Extensions) : BlockKind → Prop
  | .heading level _ => 1 ≤ level ∧ level ≤ 6
  | .table => x.table = true
  | _ => True

/-- Which blocks may stand right below one. No document does. -/
def BlockKind.Holds (parent child : BlockKind) : Prop :=
  parent.canContain child = true ∧ child ≠ .document

/-- All kinds in a block may be read and stand where they may. -/
inductive Block.IsRead (x : Extensions) : Block → Prop
  | mk {kind content endsBlank cs} (here : kind.IsRead x) (holds : ∀ b ∈ cs, kind.Holds b.kind)
      (below : ∀ b ∈ cs, Block.IsRead x b) : Block.IsRead x (.mk kind content endsBlank cs)

structure Frame.IsRead (x : Extensions) (f : Frame) : Prop where
  kind : f.kind.IsRead x
  holds : ∀ b ∈ f.done, f.kind.Holds b.kind
  done : ∀ b ∈ f.done, b.IsRead x

/-- Frames that may be read, the innermost first: each stands in the next, and the last is the
document. -/
structure AreStacked (x : Extensions) (fs : List Frame) : Prop where
  read : ∀ f ∈ fs, f.IsRead x
  nested : (fs.map Frame.kind).IsChain fun child parent => parent.Holds child
  bottom : (fs.map Frame.kind).getLast? = some .document

variable {x : Extensions}

/-! ### Closing frames -/

namespace Frame

variable {f : Frame}

theorem IsRead.new {kind : BlockKind} (h : kind.IsRead x) (n : Nat) :
    (Frame.new kind n).IsRead x :=
  ⟨h, List.forall_mem_nil _, List.forall_mem_nil _⟩

theorem kind_addText (f : Frame) (s : List Char) : (f.addText s).kind = f.kind := by
  unfold Frame.addText
  split <;> rfl

theorem IsRead.addText (h : f.IsRead x) (s : List Char) : (f.addText s).IsRead x := by
  unfold Frame.addText
  split
  · exact h
  · exact ⟨h.kind, h.holds, h.done⟩

/-- A frame leaves blocks that stand where it stood. -/
theorem IsRead.close (h : f.IsRead x) {parent : BlockKind} (hparent : parent.Holds f.kind)
    (refs : References) : ∀ b ∈ (f.close refs).2, parent.Holds b.kind ∧ b.IsRead x := by
  unfold Frame.close
  split
  · rename_i hkind
    rw [hkind] at hparent
    dsimp only
    split
    · exact List.forall_mem_nil _
    · refine List.forall_mem_singleton.2 ⟨hparent, ?_⟩
      exact .mk trivial (List.forall_mem_nil _) (List.forall_mem_nil _)
  · refine List.forall_mem_singleton.2 ⟨hparent, .mk h.kind (fun b hb => ?_) fun b hb => ?_⟩
    · exact h.holds b (List.mem_reverse.1 hb)
    · exact h.done b (List.mem_reverse.1 hb)

theorem canContain_settleTight (f : Frame) (inner : List Frame) (kind : BlockKind) :
    (Frame.settleTight inner f).kind.canContain kind = f.kind.canContain kind := by
  unfold Frame.settleTight
  split
  · rename_i hkind
    rw [hkind]
    rfl
  · rfl

theorem holds_settleTight (inner : List Frame) {parent : BlockKind} (h : parent.Holds f.kind) :
    parent.Holds (Frame.settleTight inner f).kind := by
  unfold Frame.settleTight
  split
  · rename_i hkind
    rw [hkind] at h
    exact ⟨by cases parent <;> exact h.1, nofun⟩
  · exact h

theorem document_settleTight (inner : List Frame) (h : f.kind = .document) :
    (Frame.settleTight inner f).kind = .document := by
  unfold Frame.settleTight
  rw [h]
  exact h

theorem IsRead.settleTight (h : f.IsRead x) (inner : List Frame) :
    (Frame.settleTight inner f).IsRead x := by
  have hholds := h.holds
  unfold Frame.settleTight
  split
  · rename_i hkind
    rw [hkind] at hholds
    exact ⟨trivial, hholds, h.done⟩
  · exact h

end Frame

namespace AreStacked

variable {fs : List Frame} {f g : Frame} {l r : List Frame}

theorem ne_nil (h : AreStacked x fs) : fs ≠ [] := by
  rintro rfl
  cases h.bottom

/-- Frames whose kinds are those of stacked ones. -/
theorem congr (h : AreStacked x fs) {gs : List Frame} (hg : ∀ g ∈ gs, g.IsRead x)
    (hkinds : gs.map Frame.kind = fs.map Frame.kind) : AreStacked x gs := by
  refine ⟨hg, ?_, ?_⟩
  · rw [hkinds]
    exact h.nested
  · rw [hkinds]
    exact h.bottom

theorem tail (h : AreStacked x (f :: g :: r)) : g.kind.Holds f.kind ∧ AreStacked x (g :: r) := by
  obtain ⟨hread, hnested, hbottom⟩ := h
  rw [List.map_cons, List.map_cons, List.isChain_cons_cons] at hnested
  refine ⟨hnested.1, (List.forall_mem_cons.1 hread).2, hnested.2, ?_⟩
  simpa using hbottom

theorem right (h : AreStacked x (l ++ fs)) (hfs : fs ≠ []) : AreStacked x fs := by
  induction l with
  | nil => exact h
  | cons f l ih =>
    cases hl : l ++ fs with
    | nil => exact absurd (List.append_eq_nil_iff.1 hl).2 hfs
    | cons g r =>
      rw [List.cons_append, hl] at h
      rw [hl] at ih
      exact ih h.tail.2

theorem cons (h : AreStacked x (g :: r)) (hf : f.IsRead x) (hholds : g.kind.Holds f.kind) :
    AreStacked x (f :: g :: r) := by
  refine ⟨List.forall_mem_cons.2 ⟨hf, h.read⟩, ?_, ?_⟩
  · rw [List.map_cons, List.map_cons, List.isChain_cons_cons]
    exact ⟨hholds, h.nested⟩
  · have hbottom := h.bottom
    simpa using hbottom

/-- A frame in the stack is replaced by one that may stand where it stood and holds what it held. -/
theorem replace (h : AreStacked x (l ++ f :: r)) (hg : g.IsRead x)
    (hbelow : ∀ child, f.kind.Holds child → g.kind.Holds child)
    (habove : ∀ parent : BlockKind, parent.Holds f.kind → parent.Holds g.kind)
    (hdocument : f.kind = .document → g.kind = .document) : AreStacked x (l ++ g :: r) := by
  obtain ⟨hread, hnested, hbottom⟩ := h
  obtain ⟨hl, hfr⟩ := List.forall_mem_append.1 hread
  obtain ⟨-, hr⟩ := List.forall_mem_cons.1 hfr
  refine ⟨List.forall_mem_append.2 ⟨hl, List.forall_mem_cons.2 ⟨hg, hr⟩⟩, ?_, ?_⟩
  · rw [List.map_append, List.map_cons, List.isChain_append] at hnested ⊢
    obtain ⟨hleft, hright, hjoint⟩ := hnested
    refine ⟨hleft, ?_, ?_⟩
    · rw [List.isChain_cons] at hright ⊢
      exact ⟨fun parent hparent => habove parent (hright.1 parent hparent), hright.2⟩
    · intro child hchild top htop
      obtain rfl : g.kind = top := by simpa using htop
      exact hbelow child (hjoint child hchild f.kind (by simp))
  · rw [List.map_append, List.map_cons] at hbottom ⊢
    cases r with
    | nil =>
      have hf : f.kind = .document := by simpa using hbottom
      simp [hdocument hf]
    | cons p r => simpa using hbottom

end AreStacked

theorem kinds_closeTop (refs : References) (fs : List Frame) :
    (closeTop refs fs).2.map Frame.kind = (fs.map Frame.kind).drop (min 1 (fs.length - 1)) := by
  unfold closeTop
  split
  · simp
  · rename_i hfs
    cases fs with
    | nil => rfl
    | cons f r =>
      cases r with
      | nil => rfl
      | cons p r => exact absurd rfl (hfs f p r)

/-- Closing frames leaves those further out, and always the outermost. -/
theorem kinds_closeTops (n : Nat) (refs : References) (fs : List Frame) :
    (closeTops n refs fs).2.map Frame.kind = (fs.map Frame.kind).drop (min n (fs.length - 1)) := by
  induction n generalizing refs fs with
  | zero => simp [closeTops]
  | succ n ih =>
    have hlength := congrArg List.length (kinds_closeTop refs fs)
    simp only [List.length_map, List.length_drop] at hlength
    rw [closeTops]
    dsimp only
    rw [ih, kinds_closeTop, List.drop_drop, hlength]
    congr 1
    omega

theorem AreStacked.closeTop (refs : References) {fs : List Frame} (h : AreStacked x fs) :
    AreStacked x (closeTop refs fs).2 := by
  unfold Markdown.closeTop
  split
  · rename_i f p r
    obtain ⟨hholds, htail⟩ := h.tail
    have hf := h.read f List.mem_cons_self
    obtain ⟨hp, hr⟩ := List.forall_mem_cons.1 htail.read
    have hclosed := hf.close hholds refs
    refine htail.congr (List.forall_mem_cons.2 ⟨⟨hp.kind, ?_, ?_⟩, hr⟩) rfl
    · exact List.forall_mem_append.2 ⟨fun b hb => (hclosed b hb).1, hp.holds⟩
    · exact List.forall_mem_append.2 ⟨fun b hb => (hclosed b hb).2, hp.done⟩
  · exact h

theorem AreStacked.closeTops (n : Nat) (refs : References) {fs : List Frame}
    (h : AreStacked x fs) : AreStacked x (closeTops n refs fs).2 := by
  induction n generalizing refs fs with
  | zero => exact h
  | succ n ih => exact ih _ (h.closeTop refs)

/-- Closing as many frames as there are leaves the document. -/
theorem AreStacked.kinds_closeTops_length (refs : References) {fs : List Frame}
    (h : AreStacked x fs) :
    (Markdown.closeTops fs.length refs fs).2.map Frame.kind = [.document] := by
  obtain ⟨kinds, hkinds⟩ := List.getLast?_eq_some_iff.1 h.bottom
  have hlength := congrArg List.length hkinds
  rw [List.length_map, List.length_append, List.length_singleton] at hlength
  rw [Markdown.kinds_closeTops, Nat.min_eq_right (Nat.sub_le _ _), hkinds, hlength,
    Nat.add_sub_cancel, List.drop_left]

theorem AreStacked.makeRoom (kind : BlockKind) (n : Nat) (refs : References) {fs : List Frame}
    (h : AreStacked x fs) : AreStacked x (makeRoom kind n refs fs).2 := by
  induction n generalizing refs fs with
  | zero => exact h
  | succ n ih =>
    rw [Markdown.makeRoom]
    split
    · exact h
    · exact ih _ (h.closeTop refs)

/-- If some frame can contain a kind, room is made for it in the innermost that can. -/
theorem canContain_makeRoom {kind : BlockKind} {n : Nat} (refs : References) {fs : List Frame}
    (hn : fs.length ≤ n) (hroom : ∃ k ∈ fs.map Frame.kind, k.canContain kind = true) :
    ∃ p r, (makeRoom kind n refs fs).2 = p :: r ∧ p.kind.canContain kind = true := by
  induction n generalizing refs fs with
  | zero =>
    obtain rfl := List.eq_nil_of_length_eq_zero (Nat.le_zero.1 hn)
    obtain ⟨k, hk, -⟩ := hroom
    cases hk
  | succ n ih =>
    rw [makeRoom]
    cases fs with
    | nil =>
      obtain ⟨k, hk, -⟩ := hroom
      cases hk
    | cons f r =>
      by_cases hf : f.kind.canContain kind = true
      · rw [if_pos (by simpa using hf)]
        exact ⟨f, r, rfl, hf⟩
      · rw [if_neg (by simpa using hf)]
        obtain ⟨k, hk, hcan⟩ := hroom
        have hne : k ≠ f.kind := by
          rintro rfl
          exact hf hcan
        cases r with
        | nil => exact absurd (by simpa using hk) hne
        | cons p r =>
          refine ih _ ?_ ⟨k, ?_, hcan⟩
          · simpa [closeTop] using hn
          · simpa [closeTop, hne] using hk

theorem AreStacked.descend (l : Line) {matched fs : List Frame}
    (h : AreStacked x (fs.reverse ++ matched)) :
    AreStacked x ((descend l matched fs).left.reverse ++ (descend l matched fs).matched) := by
  induction fs generalizing l matched with
  | nil => exact h
  | cons f r ih =>
    rw [List.reverse_cons, List.append_assoc] at h
    rw [Markdown.descend]
    split
    · exact ih _ h
    · rw [List.reverse_cons, List.append_assoc]
      exact h
    · rw [List.reverse_cons, List.append_assoc]
      exact h

theorem matched_descend (l : Line) {matched : List Frame} (hmatched : matched ≠ [])
    (fs : List Frame) : (descend l matched fs).matched ≠ [] := by
  induction fs generalizing l matched with
  | nil => exact hmatched
  | cons f r ih =>
    rw [descend]
    split
    · exact ih _ (List.cons_ne_nil f matched)
    · exact hmatched
    · exact hmatched

/-- Every line goes on with the document. -/
theorem matched_descend_reverse (l : Line) {fs : List Frame} (h : AreStacked x fs) :
    (descend l [] fs.reverse).matched ≠ [] := by
  have hbottom := h.bottom
  rw [List.getLast?_map] at hbottom
  obtain ⟨f, hf, hkind⟩ := Option.map_eq_some_iff.1 hbottom
  obtain ⟨fs', rfl⟩ := List.getLast?_eq_some_iff.1 hf
  rw [List.reverse_append, List.reverse_singleton, List.singleton_append, descend]
  have hyes : ∀ hasChild, f.goOn hasChild l = .yes l := by
    intro hasChild
    rw [Frame.goOn, hkind]
  rw [hyes]
  exact matched_descend l (List.cons_ne_nil f []) _

end LivePages.Markdown
