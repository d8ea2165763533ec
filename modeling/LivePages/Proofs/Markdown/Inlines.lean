import Mathlib.Tactic.SplitIfs
import LivePages.Markdown.Inline
import LivePages.Proofs.Markdown.Decoration

/-! What the scan of a paragraph's or heading's text leaves: inline constructs, at every depth, and
those of an extension only if it is on. Texts, code and breaks have nothing below them. -/

namespace LivePages.Markdown

/-- The names of the extensions that are on. -/
def Extensions.names (x : Extensions) : List String :=
  (if x.strikethrough then ["strikethrough"] else []) ++ (if x.table then ["table"] else []) ++
    if x.superscript then ["superscript"] else []

/-- Constructs that may stand in a paragraph. -/
def Construct.IsInline (x : Extensions) : Construct → Prop
  | .document => False
  | .paragraph => False
  | .heading _ => False
  | .blockQuote => False
  | .list _ _ _ => False
  | .item => False
  | .codeBlock _ _ => False
  | .thematicBreak => False
  | .htmlBlock _ => False
  | .extension name => name ∈ x.names
  | _ => True

/-- Constructs that may stand below a document, a quote or an item. -/
def Construct.IsBlock : Construct → Prop
  | .paragraph => True
  | .heading _ => True
  | .blockQuote => True
  | .list _ _ _ => True
  | .codeBlock _ _ => True
  | .thematicBreak => True
  | .htmlBlock _ => True
  | .extension _ => True
  | _ => False

/-- Which constructs may stand right below one. -/
def Construct.MayHold (x : Extensions) (parent child : Construct) : Prop :=
  match parent with
  | .document | .blockQuote | .item => child.IsBlock
  | .list _ _ _ => child = .item
  | .paragraph | .heading _ => child.IsInline x
  | .emph | .strong | .link _ _ | .image _ _ | .extension _ => child.IsInline x
  | _ => False

/-- A tree of inline constructs, each of which may stand where it does. -/
def Tree.IsInline (x : Extensions) (t : Tree) : Prop :=
  t.construct.IsInline x ∧ t.Nested (Construct.MayHold x)

/-- A run of marks that mean something. -/
def Run.IsInline (x : Extensions) (r : Run) : Prop :=
  (r.mark = '~' → x.strikethrough = true) ∧ (r.mark = '^' → x.superscript = true)

/-- A piece that becomes a tree of inline constructs. -/
def Piece.IsInline (x : Extensions) : Piece → Prop
  | .node t => t.IsInline x
  | .run r => r.IsInline x
  | _ => True

variable {x : Extensions}

/-- Inline constructs have no others below them. -/
theorem Tree.IsInline.every {t : Tree} (h : t.IsInline x) : t.Every (Construct.IsInline x) := by
  obtain ⟨hc, hnested⟩ := h
  induction hnested with
  | @mk c cs here _ ih =>
    refine .mk hc fun t ht => ih t ht ?_
    have hholds := here t ht
    cases c
    case emph | strong | link | image | extension => exact hholds
    all_goals first | exact absurd hc id | exact absurd hholds id

theorem Tree.IsInline.mk {c : Construct} {cs : List Tree} (h : c.IsInline x)
    (hholds : ∀ d : Construct, d.IsInline x → c.MayHold x d) (hcs : ∀ t ∈ cs, t.IsInline x) :
    (Tree.mk c cs).IsInline x :=
  ⟨h, .mk (fun t ht => hholds _ (hcs t ht).1) fun t ht => (hcs t ht).2⟩

theorem Tree.IsInline.leaf {c : Construct} (h : c.IsInline x) : (Tree.leaf c).IsInline x :=
  ⟨h, .mk (List.forall_mem_nil _) (List.forall_mem_nil _)⟩

theorem Tree.IsInline.text (s : List Char) : (Tree.text s).IsInline x :=
  .leaf trivial

theorem Piece.IsInline.toTree {p : Piece} (h : p.IsInline x) : p.toTree.IsInline x := by
  cases p with
  | node t => exact h
  | text s => exact .text s
  | run r => exact .text _
  | bracket b => exact .text _

/-! ### Emphasis -/

theorem mayHold_emphasisOf (mark : Char) (used : Nat) {d : Construct} (h : d.IsInline x) :
    (emphasisOf mark used).MayHold x d := by
  unfold emphasisOf
  split_ifs <;> exact h

/-- Emphasis of an extension comes from its own mark only. -/
theorem Run.IsInline.emphasisOf {r : Run} (h : r.IsInline x) (used : Nat) :
    (emphasisOf r.mark used).IsInline x := by
  obtain ⟨hstrike, hsuper⟩ := h
  unfold Markdown.emphasisOf
  split_ifs with hmark hmark
  · simp [Construct.IsInline, Extensions.names, hstrike (by simpa using hmark)]
  · simp [Construct.IsInline, Extensions.names, hsuper (by simpa using hmark)]
  · trivial
  · trivial

theorem Run.IsInline.usedUp {r : Run} (h : r.IsInline x) (used : Nat) :
    ∀ p ∈ usedUp r used, p.IsInline x := by
  intro p hp
  unfold Markdown.usedUp at hp
  split at hp
  · cases hp
  · rw [List.mem_singleton.1 hp]
    exact h

theorem isInline_findOpener {closer o : Run} {bottom : Nat} {inside before inside' rest : List Piece}
    (hi : ∀ p ∈ inside, p.IsInline x) (hb : ∀ p ∈ before, p.IsInline x)
    (h : findOpener closer bottom inside before = some (o, inside', rest)) :
    o.IsInline x ∧ (∀ p ∈ inside', p.IsInline x) ∧ ∀ p ∈ rest, p.IsInline x := by
  induction before generalizing inside with
  | nil => cases h
  | cons p before ih =>
    have hp := hb p List.mem_cons_self
    have hb' : ∀ q ∈ before, q.IsInline x := fun q hq => hb q (List.mem_cons_of_mem _ hq)
    have hi' : ∀ q ∈ p :: inside, q.IsInline x := List.forall_mem_cons.2 ⟨hp, hi⟩
    cases p with
    | run r =>
      rw [findOpener] at h
      split_ifs at h
      · cases h
        exact ⟨hp, hi, hb'⟩
      · exact ih hi' hb' h
    | _ => exact ih hi' hb' h

/-- Matching runs makes nothing but emphasis of the pieces. -/
theorem isInline_matchRuns (n : Nat) (bottoms : ClosingClass → Nat) (before after : List Piece)
    (hb : ∀ p ∈ before, p.IsInline x) (ha : ∀ p ∈ after, p.IsInline x) :
    ∀ p ∈ matchRuns n bottoms before after, p.IsInline x := by
  have reversed : ∀ ps : List Piece, (∀ p ∈ ps, p.IsInline x) → ∀ p ∈ ps.reverse, p.IsInline x :=
    fun ps h p hp => h p (List.mem_reverse.1 hp)
  induction n generalizing bottoms before after with
  | zero =>
    rw [matchRuns]
    exact List.forall_mem_append.2 ⟨reversed before hb, ha⟩
  | succ n ih =>
    cases after with
    | nil =>
      rw [matchRuns]
      · exact reversed before hb
      · simp
    | cons p after =>
      have hp := ha p List.mem_cons_self
      replace ha : ∀ q ∈ after, q.IsInline x := fun q hq => ha q (List.mem_cons_of_mem _ hq)
      cases p with
      | run c =>
        rw [matchRuns]
        split
        · exact ih _ _ _ (List.forall_mem_cons.2 ⟨hp, hb⟩) ha
        split
        · rename_i o inside rest hfound
          obtain ⟨ho, hinside, hrest⟩ := isInline_findOpener (List.forall_mem_nil _) hb hfound
          dsimp only
          generalize (if 2 ≤ c.count && 2 ≤ o.count then 2 else 1) = used
          split
          · refine List.forall_mem_append.2 ⟨reversed before hb, ?_⟩
            exact List.forall_mem_cons.2 ⟨hp, ha⟩
          · refine ih _ _ _ ?_ (List.forall_mem_append.2 ⟨Run.IsInline.usedUp hp _, ha⟩)
            rw [List.cons_append]
            refine List.forall_mem_cons.2 ⟨.mk (Run.IsInline.emphasisOf hp _)
              (fun d hd => mayHold_emphasisOf _ _ hd) ?_, ?_⟩
            · intro t ht
              obtain ⟨q, hq, rfl⟩ := List.mem_map.1 ht
              exact (hinside q hq).toTree
            · exact List.forall_mem_append.2 ⟨ho.usedUp _, hrest⟩
        · dsimp only
          split
          · exact ih _ _ _ (List.forall_mem_cons.2 ⟨hp, hb⟩) ha
          · exact ih _ _ _ (List.forall_mem_cons.2 ⟨trivial, hb⟩) ha
      | _ => exact ih _ _ _ (List.forall_mem_cons.2 ⟨hp, hb⟩) ha

theorem isInline_emphasise {ps : List Piece} (h : ∀ p ∈ ps, p.IsInline x) :
    ∀ t ∈ emphasise ps, t.IsInline x := by
  intro t ht
  obtain ⟨p, hp, rfl⟩ := List.mem_map.1 ht
  exact (isInline_matchRuns _ _ [] ps (List.forall_mem_nil _) h p hp).toTree

/-! ### Bare addresses -/

theorem isInline_link (url shown : List Char) : (Autolink.link url shown).IsInline x :=
  .mk trivial (fun _ hd => hd) (List.forall_mem_singleton.2 (.text shown))

theorem isInline_www {previous : Option Char} {s : List Char} {t : Tree} {n : Nat}
    (h : Autolink.www? previous s = some (t, n)) : t.IsInline x := by
  unfold Autolink.www? at h
  split at h
  · obtain ⟨m, -, hm⟩ := Option.bind_eq_some_iff.1 h
    cases hm
    exact isInline_link _ _
  · cases h

theorem isInline_url {past s : List Char} {t : Tree} {back n : Nat}
    (h : Autolink.url? past s = some (t, back, n)) : t.IsInline x := by
  unfold Autolink.url? at h
  split at h
  · dsimp only at h
    split at h
    · obtain ⟨m, -, hm⟩ := Option.bind_eq_some_iff.1 h
      cases hm
      exact isInline_link _ _
    · cases h
  · cases h

theorem isInline_mail {past rest : List Char} {t : Tree} {before after : Nat}
    (h : Autolink.mail? past rest = some (t, before, after)) : t.IsInline x := by
  unfold Autolink.mail? at h
  dsimp only at h
  split at h
  · cases h
  obtain ⟨⟨n, dots⟩, -, hm⟩ := Option.bind_eq_some_iff.1 h
  dsimp only at hm
  split at hm
  · cases hm
  split at hm
  · cases hm
  cases hm
  exact isInline_link _ _

theorem isInline_findMail {depth : Int} {past s before after : List Char} {t : Tree}
    (h : Autolink.findMail? depth past s = some (before, t, after)) : t.IsInline x := by
  induction s generalizing depth past with
  | nil => cases h
  | cons c r ih =>
    rw [Autolink.findMail?] at h
    generalize (if c == '[' then depth + 1 else if c == ']' then depth - 1 else depth) = d at h
    split at h
    · split at h
      · rename_i hmail
        cases h
        exact isInline_mail hmail
      · exact ih h
    · exact ih h

theorem isInline_linkMail (n : Nat) (s : List Char) : ∀ t ∈ Autolink.linkMail n s, t.IsInline x := by
  induction n generalizing s with
  | zero => exact List.forall_mem_singleton.2 (.text s)
  | succ n ih =>
    rw [Autolink.linkMail]
    split
    · exact List.forall_mem_singleton.2 (.text s)
    · rename_i before t after hfound
      refine List.forall_mem_append.2 ⟨?_, List.forall_mem_cons.2 ⟨isInline_findMail hfound, ?_⟩⟩
      · split
        · exact List.forall_mem_nil _
        · exact List.forall_mem_singleton.2 (.text before)
      · split
        · exact List.forall_mem_nil _
        · exact ih after

/-! ### The scan -/

namespace Scan

/-- The pieces left so far are inline. -/
def IsInline (x : Extensions) (s : Scan) : Prop :=
  ∀ p ∈ s.out, p.IsInline x

variable {s : Scan}

theorem IsInline.emit {p : Piece} (h : s.IsInline x) (hp : p.IsInline x) : (s.emit p).IsInline x :=
  List.forall_mem_cons.2 ⟨hp, h⟩

theorem IsInline.emitText (h : s.IsInline x) (t : List Char) : (s.emitText t).IsInline x := by
  unfold Scan.emitText
  split
  · exact h
  · exact h.emit trivial

theorem IsInline.emitLeaf {c : Construct} (h : s.IsInline x) (hc : c.IsInline x) :
    (s.emitLeaf c).IsInline x :=
  h.emit (Tree.IsInline.leaf hc)

theorem IsInline.advance (h : s.IsInline x) (n : Nat) : (s.advance n).IsInline x :=
  h

theorem IsInline.advanceTo (h : s.IsInline x) (rest : List Char) : (s.advanceTo rest).IsInline x :=
  h

theorem isInline_takeBack (n : Nat) (out : List Piece) (h : ∀ p ∈ out, p.IsInline x) :
    ∀ p ∈ takeBack n out, p.IsInline x := by
  induction out generalizing n with
  | nil => cases n <;> exact h
  | cons p out ih =>
    obtain ⟨-, hout⟩ := List.forall_mem_cons.1 h
    cases n with
    | zero => exact h
    | succ n =>
      cases p with
      | text t =>
        rw [takeBack]
        split
        · exact List.forall_mem_cons.2 ⟨trivial, hout⟩
        · exact ih _ hout
        · simp
      | _ => exact h

theorem isInline_noteBracket (ps : List Piece) (h : ∀ p ∈ ps, p.IsInline x) :
    ∀ p ∈ noteBracket ps, p.IsInline x := by
  induction ps with
  | nil => exact h
  | cons p ps ih =>
    obtain ⟨hp, hps⟩ := List.forall_mem_cons.1 h
    cases p with
    | bracket b => exact List.forall_mem_cons.2 ⟨trivial, hps⟩
    | _ => exact List.forall_mem_cons.2 ⟨hp, ih hps⟩

theorem isInline_innermost {b : Bracket} {inside ps inside' before : List Piece}
    (hi : ∀ p ∈ inside, p.IsInline x) (hps : ∀ p ∈ ps, p.IsInline x)
    (h : innermost? inside ps = some (b, inside', before)) :
    (∀ p ∈ inside', p.IsInline x) ∧ ∀ p ∈ before, p.IsInline x := by
  induction ps generalizing inside with
  | nil => cases h
  | cons p ps ih =>
    obtain ⟨hp, hrest⟩ := List.forall_mem_cons.1 hps
    cases p with
    | bracket c =>
      cases h
      exact ⟨hi, hrest⟩
    | _ => exact ih (List.forall_mem_cons.2 ⟨hp, hi⟩) hrest h

theorem IsInline.code (h : s.IsInline x) : s.code.IsInline x := by
  unfold Scan.code
  dsimp only
  split
  · exact (h.advanceTo _).emitLeaf trivial
  · exact (h.advance _).emitText _

theorem IsInline.newline (h : s.IsInline x) : s.newline.IsInline x := by
  unfold Scan.newline
  refine (h.advanceTo _).emitLeaf ?_
  split_ifs <;> trivial

theorem IsInline.backslash (h : s.IsInline x) : s.backslash.IsInline x := by
  unfold Scan.backslash
  split
  · split_ifs
    · exact (h.advance 2).emitLeaf trivial
    · exact (h.advanceTo _).emitLeaf trivial
    · exact (h.advance 1).emitText _
  · exact (h.advance 1).emitText _

theorem IsInline.reference (h : s.IsInline x) : s.reference.IsInline x := by
  unfold Scan.reference
  split
  · exact (h.advanceTo _).emitText _
  · exact (h.advance 1).emitText _

theorem IsInline.angle (h : s.IsInline x) : s.angle.IsInline x := by
  unfold Scan.angle
  dsimp only
  split
  · exact (h.advanceTo _).emit (isInline_link _ _)
  · exact (h.advanceTo _).emit (isInline_link _ _)
  · split
    · exact (h.advanceTo _).emitLeaf trivial
    · exact (h.advance 1).emitText _
    · exact (h.advance 1).emitText _

theorem IsInline.marks (h : s.IsInline x) (skipped : Char → Bool) {mark : Char}
    (hstrike : mark = '~' → x.strikethrough = true) (hsuper : mark = '^' → x.superscript = true) :
    (s.marks skipped mark).IsInline x := by
  unfold Scan.marks
  dsimp only
  split
  · exact (h.advance _).emitText _
  · exact (h.advance _).emit ⟨hstrike, hsuper⟩

theorem IsInline.openBracket (h : s.IsInline x) (image : Bool) : (s.openBracket image).IsInline x :=
  List.forall_mem_cons.2 ⟨trivial, isInline_noteBracket s.out h⟩

theorem IsInline.closeBracket (h : s.IsInline x) (refs : References) :
    (s.closeBracket refs).IsInline x := by
  unfold Scan.closeBracket
  dsimp only
  split
  · apply IsInline.emitText
    exact h
  · rename_i b inside before hfound
    obtain ⟨hinside, hbefore⟩ := isInline_innermost (List.forall_mem_nil _) h hfound
    have htext : ∀ p ∈ inside.reverse ++ Piece.text b.text :: before, p.IsInline x := by
      refine List.forall_mem_append.2 ⟨?_, List.forall_mem_cons.2 ⟨trivial, hbefore⟩⟩
      exact fun p hp => hinside p (List.mem_reverse.1 hp)
    split
    · apply IsInline.emitText
      exact htext
    split
    · apply IsInline.emitText
      exact htext
    · refine List.forall_mem_cons.2 ⟨.mk ?_ ?_ (isInline_emphasise hinside), hbefore⟩
      · split_ifs <;> trivial
      · split_ifs <;> exact fun _ hd => hd

theorem IsInline.www (h : s.IsInline x) : s.www.IsInline x := by
  unfold Scan.www
  split
  · rename_i t n hfound
    refine (h.advance n).emit ?_
    split at hfound
    · cases hfound
    · exact isInline_www hfound
  · exact (h.advance 1).emitText _

theorem IsInline.colon (h : s.IsInline x) : s.colon.IsInline x := by
  unfold Scan.colon
  split
  · rename_i t back n hfound
    refine List.forall_mem_cons.2 ⟨?_, isInline_takeBack back s.out h⟩
    split at hfound
    · cases hfound
    · exact isInline_url hfound
  · exact (h.advance 1).emitText _

theorem IsInline.plain (h : s.IsInline x) : (s.plain x).IsInline x := by
  unfold Scan.plain
  exact (h.advance _).emitText _

theorem IsInline.step (h : s.IsInline x) (refs : References) : (s.step x refs).IsInline x := by
  unfold Scan.step
  dsimp only
  split
  · exact h
  · exact h.newline
  · exact h.newline
  · exact h.code
  · exact h.backslash
  · exact h.reference
  · exact h.angle
  · exact h.marks _ nofun nofun
  · exact h.marks _ nofun nofun
  · exact h.openBracket false
  · exact h.closeBracket refs
  · exact (h.advance 1).emitText _
  · exact h.openBracket true
  · exact (h.advance 1).emitText _
  · exact h.colon
  · exact h.www
  · split_ifs with htilde hcaret
    · have hon : x.strikethrough = true := (Bool.and_eq_true_iff.1 htilde).1
      exact h.marks _ (fun _ => hon) nofun
    · have hon : x.superscript = true :=
        (Bool.and_eq_true_iff.1 (Bool.and_eq_true_iff.1 hcaret).1).1
      exact h.marks _ nofun fun _ => hon
    · exact h.plain

theorem IsInline.run (refs : References) (n : Nat) (h : s.IsInline x) :
    (s.run x refs n).IsInline x := by
  induction n generalizing s with
  | zero => exact h
  | succ n ih =>
    rw [Scan.run]
    split
    · exact h
    · exact ih (h.step refs)

end Scan

theorem isInline_readInlines (x : Extensions) (refs : References) (room : Nat) (text : List Char) :
    ∀ t ∈ (readInlines x refs room text).1, t.IsInline x := by
  refine isInline_emphasise fun p hp => ?_
  have hstart : (Scan.start room (trimEnd text)).IsInline x := List.forall_mem_nil _
  exact hstart.run refs _ p (List.mem_reverse.1 hp)

end LivePages.Markdown
