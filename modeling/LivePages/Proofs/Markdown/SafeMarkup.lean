import Mathlib.Tactic.IntervalCases
import LivePages.Proofs.Markdown.Conversion
import LivePages.Proofs.Markup.SafeLanguage
import LivePages.Proofs.Result

/-! Rendered documents are markup of the safe language. Whatever strings a document holds, its tags
are those of the same document with all its strings blanked. -/

namespace LivePages.Markdown

open Markup (Attributes Lexeme Safe Sound Token outline outlineOf outlineOf_append outlineOf_cons
  outlineOf_element outlineOf_empty outline_text unvalued unvalued_append unvalued_cons)

/-! ### Documents -/

/-- Headings have one of the six levels. -/
def Kind.IsLevelled : Kind → Prop
  | .heading level => 1 ≤ level ∧ level ≤ 6
  | _ => True

theorem Construct.IsLevelled.kind {c : Construct} {k : Kind} (hk : c.Becomes k)
    (h : c.IsLevelled) : k.IsLevelled := by
  cases hk <;> exact h

/-- A node as it is rendered: with page attributes and no others. -/
def IsRendered (k : Kind) (a : Attributes) : Prop :=
  k.IsLevelled ∧ a = decorated k []

/-- A document as it is read: with levelled headings and without attributes. -/
def Node.IsPlain (n : Node) : Prop :=
  n.Every fun k a => k.IsLevelled ∧ a = []

theorem isPlain_of_tree {t : Tree} {n : Node} (ht : t.Every Construct.IsLevelled)
    (hn : Node.ofTree? t = .ok n) : n.IsPlain :=
  (becomes_of_convertAt hn).every (fun _ _ hk hc => ⟨hc.kind hk, rfl⟩) ht

theorem Node.IsPlain.decorate {n : Node} (h : n.IsPlain) : n.decorate.Every IsRendered := by
  rw [Node.decorate_eq_map]
  exact Node.Every.map (fun k a h => ⟨h.1, by rw [h.2]⟩) h

theorem permitted_nil (tag : String) : Attributes.Permitted tag [] :=
  ⟨by simp [Attributes.keys], by simp [Attributes.keys], by simp⟩

theorem mem_pairedTags_heading {level : Nat} (h : 1 ≤ level ∧ level ≤ 6) :
    "h" ++ toString level ∈ Markup.pairedTags := by
  obtain ⟨h1, h6⟩ := h
  interval_cases level <;> decide

theorem permitted_quote : Attributes.Permitted "blockquote" (decorated .blockQuote []) :=
  ⟨by decide, by decide, fun h => absurd h (by decide)⟩

theorem permitted_start (ordered : Bool) (start : Nat) :
    Attributes.Permitted (if ordered then "ol" else "ul")
      (if ordered && start != 1 then [("start", toString start)] else []) := by
  cases ordered with
  | false => exact permitted_nil _
  | true =>
    by_cases h : start = 1
    · simpa [h] using permitted_nil "ol"
    · simp only [if_true, Bool.true_and, bne_iff_ne, ne_eq, h, not_false_eq_true]
      exact ⟨by simp [Attributes.keys, Markup.permittedKeys], by simp [Attributes.keys], by simp⟩

theorem isLanguageClass_of_language? {info w : String} (h : language? info = some w) :
    Markup.IsLanguageClass ("language-" ++ w) := by
  refine ⟨w, rfl, ?_⟩
  unfold language? at h
  split at h
  · cases h
  · rename_i hw
    cases h
    rw [String.toList_ofList]
    refine ⟨hw, fun c hc => ?_⟩
    simpa using List.all_eq_true.1 List.all_takeWhile c hc

theorem permitted_language (info : String) :
    Attributes.Permitted "code" ((language? info).elim [] fun w => [("class", "language-" ++ w)]) := by
  cases h : language? info with
  | none => exact permitted_nil _
  | some w =>
    refine ⟨by simp [Attributes.keys, Markup.permittedKeys], by simp [Attributes.keys], ?_⟩
    intro _ p hp
    rw [List.mem_singleton.1 hp]
    exact isLanguageClass_of_language? h

theorem permitted_link (url title : String) (url' title' : String) :
    Attributes.Permitted "a"
      (("href", url) :: titleAttribute title ++ decorated (.link url' title') []) := by
  unfold titleAttribute
  split <;>
    exact ⟨by simp [Attributes.keys, Markup.permittedKeys, decorated, pageAttributes, Attributes.set],
      by simp [Attributes.keys, decorated, pageAttributes, Attributes.set], by simp⟩

theorem permitted_image (url alt title : String) :
    Attributes.Permitted "img" (("src", url) :: ("alt", alt) :: titleAttribute title) := by
  unfold titleAttribute
  split <;> exact ⟨by simp [Attributes.keys, Markup.permittedKeys], by simp [Attributes.keys], by simp⟩

mutual

theorem sound_tokens : ∀ (n : Node) (tight : Bool), n.Every IsRendered → Sound (tokens tight n)
  | .mk kind attrs cs, tight, h => by
    obtain ⟨⟨hl, rfl⟩, below⟩ := h
    have hcs := fun tight => sound_tokensAll cs tight below
    cases kind <;> rw [tokens]
    case document => exact hcs tight
    case paragraph =>
      cases tight with
      | true => exact hcs true
      | false => exact (Sound.wrapped (by decide) (permitted_nil _) (hcs false)).append Sound.lineFeed
    case heading level =>
      exact (Sound.wrapped (mem_pairedTags_heading hl) (permitted_nil _) (hcs tight)).append
        Sound.lineFeed
    case blockQuote =>
      exact (Sound.wrapped (by decide) permitted_quote (Sound.lineFeed.append (hcs false))).append
        Sound.lineFeed
    case list ordered start listTight =>
      have ha := permitted_start ordered start
      refine (Sound.wrapped ?_ ?_ (Sound.lineFeed.append (hcs listTight))).append Sound.lineFeed
      · cases ordered <;> decide
      · rw [show decorated (.list ordered start listTight) [] = [] from rfl, List.append_nil]
        exact ha
    case item => exact (Sound.wrapped (by decide) (permitted_nil _) (hcs tight)).append Sound.lineFeed
    case codeBlock info literal =>
      exact (Sound.wrapped (by decide) (permitted_nil _)
        (Sound.wrapped (by decide) (permitted_language info) (Sound.text literal))).append Sound.lineFeed
    case thematicBreak => exact (Sound.empty (by decide) (permitted_nil _)).append Sound.lineFeed
    case rawHtml => exact Sound.comment
    case text s => exact Sound.text s
    case code s => exact Sound.wrapped (by decide) (permitted_nil _) (Sound.text s)
    case softBreak => exact Sound.lineFeed
    case lineBreak => exact (Sound.empty (by decide) (permitted_nil _)).append Sound.lineFeed
    case emph => exact Sound.wrapped (by decide) (permitted_nil _) (hcs tight)
    case strong => exact Sound.wrapped (by decide) (permitted_nil _) (hcs tight)
    case link url title => exact Sound.wrapped (by decide) (permitted_link _ _ _ _) (hcs tight)
    case image url title =>
      rw [show decorated (.image url title) [] = [] from rfl, List.append_nil]
      exact Sound.empty (by decide) (permitted_image _ _ _)

theorem sound_tokensAll : ∀ (ns : List Node) (tight : Bool), (∀ n ∈ ns, n.Every IsRendered) →
    Sound (tokensAll tight ns)
  | [], _, _ => Sound.nil
  | n :: r, tight, h => by
    rw [tokensAll]
    exact (sound_tokens n tight (h n List.mem_cons_self)).append
      (sound_tokensAll r tight fun m hm => h m (List.mem_cons_of_mem _ hm))

end

/-! ### Blanked strings -/

/-- A kind with its strings blanked: of a title and of a code block's language it is kept only
whether there is one. -/
def Kind.blanked : Kind → Kind
  | .text _ => .text ""
  | .code _ => .code ""
  | .codeBlock info _ => .codeBlock ((language? info).elim "" fun _ => "x") ""
  | .link _ title => .link "" (if title.isEmpty then "" else "x")
  | .image _ title => .image "" (if title.isEmpty then "" else "x")
  | k => k

def blanking (k : Kind) (a : Attributes) : Kind × Attributes :=
  (k.blanked, a)

def Node.blanked (n : Node) : Node :=
  n.map blanking

theorem outlineOf_wrapped (tag : String) (a : Attributes) (ts : List Token) :
    outlineOf (wrapped tag a ts) = .opening tag (unvalued a) :: (outlineOf ts ++ [.closing tag]) :=
  outlineOf_element tag a ts

theorem unvalued_titleAttribute (title : String) :
    unvalued (titleAttribute (if title.isEmpty then "" else "x")) = unvalued (titleAttribute title) := by
  by_cases h : title.isEmpty = true
  · simp [titleAttribute, h]
  · simp only [titleAttribute, h]
    rfl

theorem unvalued_language (info : String) :
    unvalued ((language? ((language? info).elim "" fun _ => "x")).elim []
      fun w => [("class", "language-" ++ w)]) =
    unvalued ((language? info).elim [] fun w => [("class", "language-" ++ w)]) := by
  have hx : language? "x" = some "x" := by decide
  cases language? info with
  | none => rfl
  | some w => simp [hx, unvalued]

mutual

theorem outlineOf_blanked : ∀ (n : Node) (tight : Bool),
    outlineOf (tokens tight n.blanked) = outlineOf (tokens tight n)
  | .mk kind attrs cs, tight => by
    have hcs := outlineOf_blankedAll cs
    rw [Node.blanked, Node.map]
    cases kind <;> simp only [blanking, Kind.blanked] <;> rw [tokens, tokens]
    case document => exact hcs tight
    case paragraph =>
      cases tight with
      | true => exact hcs true
      | false => simp only [outlineOf_append, outlineOf_wrapped, hcs, Bool.false_eq_true, if_false]
    case codeBlock info literal =>
      simp only [outlineOf_append, outlineOf_wrapped, outlineOf_cons, outline_text, unvalued_language]
    case link url title =>
      rw [outlineOf_wrapped, outlineOf_wrapped, hcs]
      simp only [List.cons_append, unvalued_cons, unvalued_append, unvalued_titleAttribute]
    case image url title =>
      rw [outlineOf_empty, outlineOf_empty]
      simp only [List.cons_append, unvalued_cons, unvalued_append, unvalued_titleAttribute]
    all_goals simp only [outlineOf_append, outlineOf_wrapped, outlineOf_cons, outline_text, hcs]

theorem outlineOf_blankedAll : ∀ (ns : List Node) (tight : Bool),
    outlineOf (tokensAll tight (Node.mapAll blanking ns)) =
      outlineOf (tokensAll tight ns)
  | [], _ => rfl
  | n :: r, tight => by
    have hn := outlineOf_blanked n tight
    rw [Node.blanked] at hn
    rw [Node.mapAll, tokensAll, tokensAll, outlineOf_append, outlineOf_append, hn,
      outlineOf_blankedAll r tight]

end

theorem decorate_blanked (n : Node) : n.blanked.decorate = n.decorate.blanked := by
  rw [Node.decorate_eq_map, Node.decorate_eq_map, Node.blanked, Node.blanked, Node.map_map,
    Node.map_map]
  congr 1
  funext k a
  cases k <;> rfl

theorem isLevelled_blanked (k : Kind) : k.blanked.IsLevelled ↔ k.IsLevelled := by
  cases k <;> rfl

/-- Being plain is not a matter of strings. -/
theorem Node.IsPlain.of_blanked {n m : Node} (hn : n.IsPlain) (h : m.blanked = n.blanked) :
    m.IsPlain := by
  have hb : n.blanked.IsPlain :=
    Node.Every.map (fun k a hk => ⟨(isLevelled_blanked k).2 hk.1, hk.2⟩) hn
  rw [← h] at hb
  exact Node.Every.of_map (fun k a hk => ⟨(isLevelled_blanked k).1 hk.1, hk.2⟩) hb

/-- Strings do not show in the outline. -/
theorem outline_eq_of_blanked {n m : Node} (h : m.blanked = n.blanked) :
    outlineOf (tokens false m.decorate) = outlineOf (tokens false n.decorate) := by
  rw [← outlineOf_blanked n.decorate, ← outlineOf_blanked m.decorate, ← decorate_blanked,
    ← decorate_blanked, h]

/-! ### Rendered texts -/

/-- What is written for a document is of the safe language, and its tags are those of every document
that differs from it in strings only. -/
def IsSafelyWritten (document : Node) : Prop :=
  ∃ ls, Safe document.decorate.toHtml ls ∧
    ∀ m : Node, m.blanked = document.blanked →
      ∃ ls', Safe m.decorate.toHtml ls' ∧ outline ls' = outline ls

theorem Node.IsPlain.isSafelyWritten {n : Node} (hn : n.IsPlain) : IsSafelyWritten n := by
  have hread : ∀ m : Node, m.IsPlain →
      Safe m.decorate.toHtml ((tokens false m.decorate).flatMap Token.lexemes) :=
    fun m hm => (sound_tokens m.decorate false hm.decorate).read
  refine ⟨_, hread n hn, fun m hm => ⟨_, hread m (hn.of_blanked hm), ?_⟩⟩
  exact outline_eq_of_blanked hm

/-- What is rendered of a text is what is written for its plain document. -/
theorem plain_of_tryRender {source html : String} (h : tryRender source = .ok html) :
    ∃ n, read source = .ok n ∧ n.decorate.toHtml = html ∧ n.IsPlain := by
  obtain ⟨n, hn, hhtml⟩ := exists_read_of_tryRender h
  exact ⟨n, hn, hhtml, isPlain_of_tree (isLevelled_readTree _ _) hn⟩

/-- Whatever strings a tree of supported constructs holds, its document is safely written; the
document of a text is made of such a tree. -/
theorem rendering_is_safe :
    (∀ t n, Tree.Every Construct.IsLevelled t → Node.ofTree? t = .ok n → IsSafelyWritten n) ∧
    ∀ source html, tryRender source = .ok html →
      ∃ n, read source = .ok n ∧ n.decorate.toHtml = html ∧ IsSafelyWritten n := by
  refine ⟨fun t n ht hn => (isPlain_of_tree ht hn).isSafelyWritten, fun source html h => ?_⟩
  obtain ⟨n, hn, hhtml, hplain⟩ := plain_of_tryRender h
  exact ⟨n, hn, hhtml, hplain.isSafelyWritten⟩

/-- A tree and a text whose strings try to end the tags around them. -/
theorem rendering_is_safe_quotes :
    (∃ n, Node.ofTree? (.mk .document [.mk (.link "a\"b" "<b>") [Tree.text "\"></a>".toList]]) =
        .ok n ∧ IsSafelyWritten n) ∧
    ∃ n, read "# a <b> \"&\n" = .ok n ∧
      n.decorate.toHtml = "<h1>a <!-- raw HTML omitted --> &quot;&amp;</h1>\n" ∧ IsSafelyWritten n := by
  have htext : (Tree.text "\"></a>".toList).Every Construct.IsLevelled :=
    .mk trivial (List.forall_mem_nil _)
  have hlink : (Tree.mk (.link "a\"b" "<b>") [Tree.text "\"></a>".toList]).Every
      Construct.IsLevelled := .mk trivial (List.forall_mem_singleton.2 htext)
  have hdocument : (Tree.mk .document [.mk (.link "a\"b" "<b>") [Tree.text "\"></a>".toList]]).Every
      Construct.IsLevelled := .mk trivial (List.forall_mem_singleton.2 hlink)
  refine ⟨⟨_, rfl, rendering_is_safe.1 _ _ hdocument rfl⟩, ?_⟩
  exact rendering_is_safe.2 _ _ (eq_ok_of_toOption (by decide +kernel))

end LivePages.Markdown
