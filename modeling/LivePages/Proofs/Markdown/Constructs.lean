import LivePages.Markdown.Render
import LivePages.Proofs.Markdown.Blocks

/-! The constructs that reading a text gives: headings have one of six levels, a construct of an
extension is there only if the extension is on, and each stands below one that may hold it. -/

namespace LivePages.Markdown

def Construct.IsLevelled : Construct → Prop
  | .heading level => 1 ≤ level ∧ level ≤ 6
  | _ => True

/-- Constructs that reading with some extensions may give. -/
def Construct.IsRead (x : Extensions) : Construct → Prop
  | .heading level => 1 ≤ level ∧ level ≤ 6
  | .extension name => name ∈ x.names
  | _ => True

variable {x : Extensions}

/-! ### Trees -/

theorem Construct.IsInline.isRead (c : Construct) (h : c.IsInline x) : c.IsRead x := by
  cases c with
  | heading _ => cases h
  | extension _ => exact h
  | _ => trivial

theorem Tree.IsInline.isRead {t : Tree} (h : t.IsInline x) : t.Every (Construct.IsRead x) :=
  h.every.mono Construct.IsInline.isRead

section Blocks

variable {refs : References} {room : Nat}

theorem exists_block_of_mem {bs : List Block} {t : Tree}
    (h : t ∈ (blocksToTrees x refs room bs).1) :
    ∃ b ∈ bs, ∃ room, t = (b.toTree x refs room).1 := by
  induction bs generalizing room with
  | nil =>
    rw [blocksToTrees] at h
    cases h
  | cons b bs ih =>
    rw [blocksToTrees] at h
    rcases List.mem_cons.1 h with rfl | h
    · exact ⟨b, List.mem_cons_self, room, rfl⟩
    · obtain ⟨b', hb', room', ht⟩ := ih h
      exact ⟨b', List.mem_cons_of_mem _ hb', room', ht⟩

theorem Block.IsRead.toTree {b : Block} (h : b.IsRead x) :
    (b.toTree x refs room).1.Every (Construct.IsRead x) := by
  induction h generalizing room with
  | @mk kind content e cs here _ _ ih =>
    have hbelow : ∀ t ∈ (blocksToTrees x refs room cs).1, t.Every (Construct.IsRead x) := by
      intro t ht
      obtain ⟨b, hb, room', rfl⟩ := exists_block_of_mem ht
      exact ih b hb
    have hinline : ∀ t ∈ (readInlines x refs room content).1, t.Every (Construct.IsRead x) :=
      fun t ht => (isInline_readInlines x refs room content t ht).isRead
    cases kind <;> rw [Block.toTree]
    case heading level underlined => exact .mk here hinline
    case paragraph => exact .mk trivial hinline
    case document => exact .mk trivial hbelow
    case blockQuote => exact .mk trivial hbelow
    case list m tight => exact .mk trivial hbelow
    case item m => exact .mk trivial hbelow
    case table =>
      have hname : "table" ∈ x.names := by simp [Extensions.names, show x.table = true from here]
      exact .mk hname (List.forall_mem_nil _)
    all_goals exact .mk trivial (List.forall_mem_nil _)

theorem isBlock_toTree {b : Block} (hitem : (!b.kind.isItem) = true)
    (hdocument : b.kind ≠ .document) : (b.toTree x refs room).1.construct.IsBlock := by
  obtain ⟨kind, content, e, cs⟩ := b
  cases kind <;> rw [Block.toTree]
  case document => exact absurd rfl hdocument
  case item => cases hitem
  all_goals trivial

theorem construct_toTree_item {b : Block} (h : b.kind.isItem = true) :
    (b.toTree x refs room).1.construct = .item := by
  obtain ⟨kind, content, e, cs⟩ := b
  cases kind
  case item m =>
    rw [Block.toTree]
    rfl
  all_goals cases h

/-- The trees of blocks stand where the blocks did. -/
theorem Block.IsRead.nested {b : Block} (h : b.IsRead x) :
    (b.toTree x refs room).1.Nested (Construct.MayHold x) := by
  induction h generalizing room with
  | @mk kind content e cs _ holds _ ih =>
    have hbelow : ∀ t ∈ (blocksToTrees x refs room cs).1, t.Nested (Construct.MayHold x) := by
      intro t ht
      obtain ⟨b, hb, room', rfl⟩ := exists_block_of_mem ht
      exact ih b hb
    have hblocks : (∀ b ∈ cs, (!b.kind.isItem) = true ∧ b.kind ≠ .document) →
        ∀ t ∈ (blocksToTrees x refs room cs).1, t.construct.IsBlock := by
      intro hcs t ht
      obtain ⟨b, hb, room', rfl⟩ := exists_block_of_mem ht
      exact isBlock_toTree (hcs b hb).1 (hcs b hb).2
    have hinline := isInline_readInlines x refs room content
    have hleaf : ∀ c : Construct, (Tree.leaf c).Nested (Construct.MayHold x) :=
      fun c => .mk (List.forall_mem_nil _) (List.forall_mem_nil _)
    cases kind <;> rw [Block.toTree]
    case document => exact .mk (hblocks holds) hbelow
    case blockQuote => exact .mk (hblocks holds) hbelow
    case item m => exact .mk (hblocks holds) hbelow
    case list m tight =>
      refine .mk (fun t ht => ?_) hbelow
      obtain ⟨b, hb, room', rfl⟩ := exists_block_of_mem ht
      exact construct_toTree_item (holds b hb).1
    case paragraph => exact .mk (fun t ht => (hinline t ht).1) fun t ht => (hinline t ht).2
    case heading level underlined =>
      exact .mk (fun t ht => (hinline t ht).1) fun t ht => (hinline t ht).2
    all_goals exact hleaf _

end Blocks

/-! ### Settled texts -/

section Settle

theorem construct_settle (linked : Bool) (t : Tree) :
    (settle linked t).construct = t.construct := by
  obtain ⟨c, cs⟩ := t
  unfold settle
  rfl

variable {Q : Tree → Prop}

theorem forall_joinTexts (hQ : ∀ a b cs, Q (.mk (.text a) cs) → Q (.mk (.text (a ++ b)) cs))
    (ts : List Tree) (h : ∀ t ∈ ts, Q t) : ∀ t ∈ joinTexts ts, Q t := by
  induction ts with
  | nil => exact h
  | cons t r ih =>
    obtain ⟨ht, hr⟩ := List.forall_mem_cons.1 h
    replace ih := ih hr
    obtain ⟨c, cs⟩ := t
    cases c with
    | text a =>
      rw [joinTexts]
      split
      · rename_i b cs' r' heq
        rw [heq] at ih
        exact List.forall_mem_cons.2 ⟨hQ a b cs ht, (List.forall_mem_cons.1 ih).2⟩
      · split
        · exact ih
        · exact List.forall_mem_cons.2 ⟨ht, ih⟩
    | _ => exact List.forall_mem_cons.2 ⟨ht, ih⟩

theorem forall_unprotect (hQ : ∀ s cs, Q (.mk (.escaped s) cs) → Q (.mk (.text s) cs)) {t : Tree}
    (h : Q t) : Q t.unprotect := by
  unfold Tree.unprotect
  split
  · exact hQ _ _ h
  · exact h

/-- Linking mail addresses puts inline constructs in the place of texts. -/
theorem forall_linkMails (hQ : ∀ s cs t, Q (.mk (.text s) cs) → t.IsInline x → Q t) (linked : Bool)
    (ts : List Tree) (h : ∀ t ∈ ts, Q t) : ∀ t ∈ linkMails linked ts, Q t := by
  induction ts with
  | nil => exact h
  | cons t r ih =>
    obtain ⟨ht, hr⟩ := List.forall_mem_cons.1 h
    replace ih := ih hr
    obtain ⟨c, cs⟩ := t
    cases c with
    | text s =>
      rw [linkMails]
      refine List.forall_mem_append.2 ⟨?_, ih⟩
      split
      · exact List.forall_mem_singleton.2 ht
      · exact fun u hu => hQ s cs u ht (isInline_linkMail _ _ u hu)
    | _ => exact List.forall_mem_cons.2 ⟨ht, ih⟩

theorem mem_settleAll {linked : Bool} {ts : List Tree} {t : Tree} (h : t ∈ settleAll linked ts) :
    ∃ u ∈ ts, t = settle linked u := by
  induction ts with
  | nil =>
    rw [settleAll] at h
    cases h
  | cons u r ih =>
    rw [settleAll] at h
    rcases List.mem_cons.1 h with rfl | h
    · exact ⟨u, List.mem_cons_self, rfl⟩
    · obtain ⟨v, hv, ht⟩ := ih h
      exact ⟨v, List.mem_cons_of_mem _ hv, ht⟩

/-- What holds of all settled children, and of texts and inline constructs in the place of texts,
holds of the children of a settled tree. -/
theorem forall_children_settle (htext : ∀ a b cs, Q (.mk (.text a) cs) → Q (.mk (.text b) cs))
    (hescaped : ∀ s cs, Q (.mk (.escaped s) cs) → Q (.mk (.text s) cs))
    (hmail : ∀ s cs t, Q (.mk (.text s) cs) → t.IsInline x → Q t) {linked : Bool} {c : Construct}
    {cs : List Tree} (h : ∀ linked, ∀ t ∈ cs, Q (settle linked t)) :
    ∀ t ∈ (settle linked (.mk c cs)).children, Q t := by
  unfold settle
  have hjoin : ∀ a b cs, Q (.mk (.text a) cs) → Q (.mk (.text (a ++ b)) cs) :=
    fun a b cs => htext a (a ++ b) cs
  refine forall_joinTexts hjoin _ fun u hu => ?_
  obtain ⟨v, hv, rfl⟩ := List.mem_map.1 hu
  refine forall_unprotect hescaped (forall_linkMails hmail _ _ ?_ v hv)
  refine forall_joinTexts hjoin _ fun t ht => ?_
  obtain ⟨w, hw, rfl⟩ := mem_settleAll ht
  exact h _ w hw

theorem every_settle {P : Construct → Prop} (hP : ∀ c : Construct, c.IsInline x → P c) {t : Tree}
    (h : t.Every P) (linked : Bool) : (settle linked t).Every P := by
  have hleaf : ∀ {c : Construct} {cs : List Tree} (s : String), (Tree.mk c cs).Every P →
      (Tree.mk (.text s) cs).Every P := by
    rintro c cs s ⟨-, below⟩
    exact .mk (hP _ trivial) below
  induction h generalizing linked with
  | mk here _ ih =>
    refine .of_children ?_ (forall_children_settle (fun a b cs => hleaf b) (fun s cs => hleaf s)
      (fun s cs t _ ht => ht.every.mono hP) fun linked t ht => ih t ht linked)
    rw [construct_settle]
    exact here

/-- Inline constructs may stand where one does that is no block. -/
theorem mayHold_of_isInline {c d e : Construct} (h : c.MayHold x d) (hblock : ¬ d.IsBlock)
    (hitem : d ≠ .item) (he : e.IsInline x) : c.MayHold x e := by
  cases c
  case document | blockQuote | item => exact absurd h hblock
  case list => exact absurd h hitem
  case paragraph | heading | emph | strong | link | image | extension => exact he
  all_goals exact absurd h id

theorem nested_settle {t : Tree} (h : t.Nested (Construct.MayHold x)) (linked : Bool) :
    (settle linked t).Nested (Construct.MayHold x) := by
  induction h generalizing linked with
  | @mk c cs here _ ih =>
    let Stands (t : Tree) : Prop := c.MayHold x t.construct ∧ t.Nested (Construct.MayHold x)
    have hchildren : ∀ t ∈ (settle linked (.mk c cs)).children, Stands t := by
      refine forall_children_settle (x := x) ?_ ?_ ?_ fun linked t ht => ?_
      · rintro a b cs ⟨hholds, ⟨hnone, below⟩⟩
        exact ⟨mayHold_of_isInline hholds id nofun trivial, .mk hnone below⟩
      · rintro s cs ⟨hholds, ⟨hnone, below⟩⟩
        exact ⟨mayHold_of_isInline hholds id nofun trivial, .mk hnone below⟩
      · rintro s cs t ⟨hholds, -⟩ ht
        exact ⟨mayHold_of_isInline hholds id nofun ht.1, ht.2⟩
      · refine ⟨?_, ih t ht linked⟩
        rw [construct_settle]
        exact here t ht
    refine .of_children (fun t ht => ?_) fun t ht => (hchildren t ht).2
    rw [construct_settle]
    exact (hchildren t ht).1

end Settle

/-- Reading gives headings of the six levels, and constructs of extensions that are on. -/
theorem isRead_readTree (x : Extensions) (source : String) :
    (readTree x source).Every (Construct.IsRead x) := by
  unfold readTree
  exact every_settle Construct.IsInline.isRead (isRead_readBlocks x source.toList).toTree _

/-- Reading puts every construct below one that may hold it. -/
theorem nested_readTree (x : Extensions) (source : String) :
    (readTree x source).Nested (Construct.MayHold x) := by
  unfold readTree
  exact nested_settle (isRead_readBlocks x source.toList).nested _

theorem Construct.IsRead.isLevelled (c : Construct) (h : c.IsRead x) : c.IsLevelled := by
  cases c with
  | heading _ => exact h
  | _ => trivial

/-- Every heading of a text that is read has one of the six levels. -/
theorem isLevelled_readTree (x : Extensions) (source : String) :
    (readTree x source).Every Construct.IsLevelled :=
  (isRead_readTree x source).mono Construct.IsRead.isLevelled

end LivePages.Markdown
