import Mathlib.Data.List.Induction
import LivePages.Proofs.Markdown.Conversion
import LivePages.Proofs.Markdown.PageAttributes
import LivePages.Proofs.Markdown.Writing
import LivePages.Proofs.Result

/-! Paragraphs that stand tight. The writer hands one flag down the document, which every quote and
every list sets anew; for the documents that reading gives, the flag says of a paragraph just
whether it stands in an item of a tight list. -/

namespace LivePages.Markdown

open Markup (Attributes Token attributesText)

/-! ### Where nodes stand -/

/-- Where paragraphs, quotes, lists and items may stand. -/
def Kind.MayHold (parent : Kind) : Kind → Prop
  | .paragraph | .blockQuote | .list _ _ _ =>
    parent = .document ∨ parent = .blockQuote ∨ parent = .item
  | .item => ∃ ordered start tight, parent = .list ordered start tight
  | _ => True

/-- Where a document may stand that is part of another. -/
def Kind.MayHoldDocument (parent : Kind) : Kind → Prop
  | .document => parent = .document ∨ parent = .blockQuote
  | _ => True

/-- The path leads to a child of an item of a tight list. -/
def Node.InTightItem (n : Node) (path : List Nat) : Prop :=
  ∃ above i j list item, path = above ++ [i, j] ∧
    n.at? above = some list ∧ (∃ ordered start, list.kind = .list ordered start true) ∧
    n.at? (above ++ [i]) = some item ∧ item.kind = .item

theorem Node.Nested.and {R S : Kind → Kind → Prop} {n : Node} (hR : n.Nested R) (hS : n.Nested S) :
    n.Nested fun parent child => R parent child ∧ S parent child := by
  induction hR with
  | mk hereR _ ih =>
    obtain ⟨hereS, belowS⟩ := hS
    exact .mk (fun c hc => ⟨hereR c hc, hereS c hc⟩) fun c hc => ih c hc (belowS c hc)

theorem Node.nested_mk_iff {R : Kind → Kind → Prop} {kind : Kind} {attrs : Attributes}
    {cs : List Node} :
    (Node.mk kind attrs cs).Nested R ↔ ∀ c ∈ cs, R kind c.kind ∧ c.Nested R := by
  constructor
  · rintro ⟨here, below⟩
    exact fun c hc => ⟨here c hc, below c hc⟩
  · intro h
    exact .mk (fun c hc => (h c hc).1) fun c hc => (h c hc).2

namespace Node

variable {n m parent : Node} {path p : List Nat} {i : Nat}

/-! ### Paths -/

theorem at?_cons_eq_some_iff :
    n.at? (i :: p) = some m ↔ ∃ c, n.children[i]? = some c ∧ c.at? p = some m := by
  obtain ⟨kind, attrs, cs⟩ := n
  rw [at?, children]
  cases cs[i]? <;> simp

/-- The last step of a path leads from a node to one of its children. -/
theorem at?_concat_eq_some_iff :
    n.at? (p ++ [i]) = some m ↔ ∃ parent, n.at? p = some parent ∧ parent.children[i]? = some m := by
  induction p generalizing n with
  | nil => simp [at?_cons_eq_some_iff, at?]
  | cons j p ih =>
    simp only [List.cons_append, at?_cons_eq_some_iff, ih]
    constructor
    · rintro ⟨c, hc, parent, hparent, hm⟩
      exact ⟨parent, ⟨c, hc, hparent⟩, hm⟩
    · rintro ⟨parent, ⟨c, hc, hparent⟩, hm⟩
      exact ⟨c, hc, parent, hparent, hm⟩

theorem modifyAt_of_at? (h : n.at? p = some m) : n.modifyAt (fun _ => m) p = n := by
  induction p generalizing n with
  | nil =>
    obtain rfl := Option.some.inj h
    rfl
  | cons i p ih =>
    obtain ⟨kind, attrs, cs⟩ := n
    obtain ⟨c, hc, hm⟩ := at?_cons_eq_some_iff.1 h
    rw [modifyAt]
    congr 1
    refine List.ext_getElem? fun j => ?_
    rw [List.getElem?_modify]
    by_cases hij : i = j
    · subst hij
      rw [show cs[i]? = some c from hc]
      simp [ih hm]
    · simp [hij]

section Nested

variable {R : Kind → Kind → Prop}

theorem Nested.at? (h : n.Nested R) (hm : n.at? p = some m) : m.Nested R := by
  induction p generalizing n with
  | nil =>
    obtain rfl := Option.some.inj hm
    exact h
  | cons i p ih =>
    obtain ⟨c, hc, hpath⟩ := at?_cons_eq_some_iff.1 hm
    obtain ⟨-, below⟩ := h
    exact ih (below c (List.mem_of_getElem? hc)) hpath

theorem Nested.of_child (h : n.Nested R) (hparent : n.at? p = some parent)
    (hm : parent.children[i]? = some m) : R parent.kind m.kind := by
  obtain ⟨here, -⟩ := h.at? hparent
  exact here m (List.mem_of_getElem? hm)

end Nested

end Node

/-! ### The flag on the way down -/

/-- The flag with which the node is written that a path leads to. -/
def Node.tightAt (tight : Bool) : List Nat → Node → Bool
  | [], _ => tight
  | i :: is, .mk kind _ cs =>
    match cs[i]? with
    | some c => c.tightAt (kind.tightBelow tight) is
    | none => tight

namespace Node

variable {n m parent : Node} {path p : List Nat} {i : Nat}

theorem tightAt_cons {c : Node} (hc : n.children[i]? = some c) (tight : Bool) :
    n.tightAt tight (i :: p) = c.tightAt (n.kind.tightBelow tight) p := by
  obtain ⟨kind, attrs, cs⟩ := n
  rw [tightAt, show cs[i]? = some c from hc]
  rfl

theorem tightAt_concat (hparent : n.at? p = some parent) (hm : parent.children[i]? = some m)
    (tight : Bool) : n.tightAt tight (p ++ [i]) = parent.kind.tightBelow (n.tightAt tight p) := by
  induction p generalizing n tight with
  | nil =>
    obtain rfl := Option.some.inj hparent
    exact tightAt_cons hm tight
  | cons j p ih =>
    obtain ⟨c, hc, hparent⟩ := at?_cons_eq_some_iff.1 hparent
    rw [List.cons_append, tightAt_cons hc, tightAt_cons hc, ih hparent]

/-- A document whose blocks stand where reading puts them. -/
structure IsPage (n : Node) : Prop where
  root : n.kind = .document
  blocks : n.Nested Kind.MayHold
  documents : n.Nested Kind.MayHoldDocument

/-- No document in a page stands tight. -/
theorem IsPage.tightAt_document (h : n.IsPage) (hm : n.at? p = some m)
    (hkind : m.kind = .document) : n.tightAt false p = false := by
  induction p using List.reverseRecOn generalizing m with
  | nil => rfl
  | append_singleton p i ih =>
    obtain ⟨parent, hparent, hchild⟩ := at?_concat_eq_some_iff.1 hm
    have hholds := h.documents.of_child hparent hchild
    rw [hkind] at hholds
    rw [tightAt_concat hparent hchild]
    rcases hholds with hdocument | hquote
    · rw [hdocument]
      exact ih hparent hdocument
    · rw [hquote]
      rfl

/-- An item stands as tight as its list. -/
theorem IsPage.tightAt_item (h : n.IsPage) (hm : n.at? p = some m) (hkind : m.kind = .item) :
    ∃ above i list ordered start tight, p = above ++ [i] ∧ n.at? above = some list ∧
      list.kind = .list ordered start tight ∧ n.tightAt false p = tight := by
  cases p using List.reverseRecOn with
  | nil =>
    obtain rfl := Option.some.inj hm
    rw [h.root] at hkind
    cases hkind
  | append_singleton p i =>
    obtain ⟨parent, hparent, hchild⟩ := at?_concat_eq_some_iff.1 hm
    have hholds := h.blocks.of_child hparent hchild
    rw [hkind] at hholds
    obtain ⟨ordered, start, tight, hlist⟩ := hholds
    refine ⟨p, i, parent, ordered, start, tight, rfl, hparent, hlist, ?_⟩
    rw [tightAt_concat hparent hchild, hlist]
    rfl

theorem Nested.decorate {R : Kind → Kind → Prop} (h : n.Nested R) : n.decorate.Nested R := by
  induction h with
  | mk here _ ih =>
    rw [decorate_mk, nested_mk_iff]
    intro d hd
    obtain ⟨c, hc, rfl⟩ := List.mem_map.1 hd
    refine ⟨?_, ih c hc⟩
    rw [kind_decorate]
    exact here c hc

theorem IsPage.decorate (h : n.IsPage) : n.decorate.IsPage := by
  refine ⟨?_, h.blocks.decorate, h.documents.decorate⟩
  rw [kind_decorate]
  exact h.root

/-- What reading gives is a page. -/
theorem isPage_of_read {source : String} (h : Markdown.read source = .ok n) : n.IsPage := by
  refine ⟨?_, ?_, ?_⟩
  · have hroot := (becomes_of_convertAt h).kind
    rw [construct_readTree] at hroot
    generalize n.kind = kind at hroot
    cases hroot
    rfl
  · refine nested_of_read h fun c k d l hc hd hholds => ?_
    cases hd <;> first | trivial | cases hc <;> simp_all [Construct.MayHold, Kind.MayHold,
      Construct.IsBlock, Construct.IsInline]
  · refine nested_of_read h fun c k d l hc hd hholds => ?_
    cases hd <;> first | trivial | cases hc <;> simp_all [Construct.MayHold,
      Construct.IsBlock, Construct.IsInline]

/-- Whether a path leads into a tight item is said by the node above and the one above that. -/
theorem inTightItem_concat_iff (hparent : n.at? p = some parent) :
    n.InTightItem (p ++ [i]) ↔ parent.kind = .item ∧ ∃ above j list ordered start,
      p = above ++ [j] ∧ n.at? above = some list ∧ list.kind = .list ordered start true := by
  constructor
  · rintro ⟨above, j, i', list, item, hpath, hlist, ⟨ordered, start, hkind⟩, hitem, hinside⟩
    have hsplit : p ++ [i] = (above ++ [j]) ++ [i'] := by simpa using hpath
    obtain ⟨rfl, -⟩ := List.append_inj' hsplit rfl
    rw [hparent] at hitem
    obtain rfl := Option.some.inj hitem
    exact ⟨hinside, above, j, list, ordered, start, rfl, hlist, hkind⟩
  · rintro ⟨hinside, above, j, list, ordered, start, rfl, hlist, hkind⟩
    exact ⟨above, j, i, list, parent, by simp, hlist, ⟨ordered, start, hkind⟩, hparent, hinside⟩

/-- A paragraph stands tight just when its parent is an item of a tight list. -/
theorem IsPage.tightAt_paragraph (h : n.IsPage) (hm : n.at? path = some m)
    (hkind : m.kind = .paragraph) : n.tightAt false path = true ↔ n.InTightItem path := by
  cases path using List.reverseRecOn with
  | nil =>
    obtain rfl := Option.some.inj hm
    rw [h.root] at hkind
    cases hkind
  | append_singleton p j =>
    obtain ⟨parent, hparent, hchild⟩ := at?_concat_eq_some_iff.1 hm
    have hholds := h.blocks.of_child hparent hchild
    rw [hkind] at hholds
    rw [tightAt_concat hparent hchild, inTightItem_concat_iff hparent]
    rcases hholds with hdocument | hquote | hinside
    · have hfalse := h.tightAt_document hparent hdocument
      simp [hdocument, Kind.tightBelow, hfalse]
    · simp [hquote, Kind.tightBelow]
    · obtain ⟨above, i, list, ordered, start, tight, rfl, hlist, hlistKind, htight⟩ :=
        h.tightAt_item hparent hinside
      have hflag : parent.kind.tightBelow (n.tightAt false (above ++ [i])) = tight := by
        rw [hinside]
        exact htight
      rw [hflag]
      constructor
      · rintro rfl
        exact ⟨hinside, above, i, list, ordered, start, rfl, hlist, hlistKind⟩
      · rintro ⟨-, above', i', list', ordered', start', hpath, hlist', hkind'⟩
        obtain ⟨rfl, -⟩ := List.append_inj' hpath rfl
        rw [hlist] at hlist'
        obtain rfl := Option.some.inj hlist'
        rw [hlistKind] at hkind'
        cases hkind'
        rfl

end Node

/-! ### What is written around a paragraph -/

/-- Kinds that stand above paragraphs. -/
def Kind.IsHolder : Kind → Prop
  | .document | .blockQuote | .list _ _ _ | .item => True
  | _ => False

/-- Kinds that stand below holders only. -/
def Kind.IsBlock (k : Kind) : Prop :=
  k.IsHolder ∨ k = .paragraph

theorem Kind.isHolder_of_mayHold {parent child : Kind} (hblocks : parent.MayHold child)
    (hdocuments : parent.MayHoldDocument child) (hchild : child.IsBlock) : parent.IsHolder := by
  have hthree : parent = .document ∨ parent = .blockQuote ∨ parent = .item → parent.IsHolder := by
    rintro (rfl | rfl | rfl) <;> trivial
  rcases hchild with hholder | rfl
  · cases child
    case document => exact hthree (hdocuments.imp_right Or.inl)
    case blockQuote => exact hthree hblocks
    case list => exact hthree hblocks
    case item =>
      obtain ⟨ordered, start, tight, rfl⟩ := hblocks
      trivial
    all_goals cases hholder
  · exact hthree hblocks

theorem tokensAll_congr {tight tight' : Bool} {cs : List Node}
    (h : ∀ c ∈ cs, tokens tight c = tokens tight' c) :
    tokensAll tight cs = tokensAll tight' cs := by
  induction cs with
  | nil => rfl
  | cons c cs ih =>
    obtain ⟨hc, hcs⟩ := List.forall_mem_cons.1 h
    rw [tokensAll, tokensAll, hc, ih hcs]

theorem tokensAll_append (tight : Bool) (ns ms : List Node) :
    tokensAll tight (ns ++ ms) = tokensAll tight ns ++ tokensAll tight ms := by
  induction ns with
  | nil => rfl
  | cons n ns ih => rw [List.cons_append, tokensAll, tokensAll, ih, List.append_assoc]

/-- A changed child is written between its elder and its younger siblings. -/
theorem tokensAll_modify {cs : List Node} {i : Nat} {c : Node} (hc : cs[i]? = some c) (tight : Bool)
    (f : Node → Node) : tokensAll tight (cs.modify i f) =
      tokensAll tight (cs.take i) ++ tokens tight (f c) ++ tokensAll tight (cs.drop (i + 1)) := by
  obtain ⟨hi, rfl⟩ := List.getElem?_eq_some_iff.1 hc
  rw [List.modify_eq_take_cons_drop hi, tokensAll_append, tokensAll, List.append_assoc]

/-- A holder is written around what is written for its children. -/
theorem tokens_holder {kind : Kind} (hkind : kind.IsHolder) (attrs : Attributes) (tight : Bool) :
    ∃ pre post, ∀ cs,
      tokens tight (.mk kind attrs cs) = pre ++ tokensAll (kind.tightBelow tight) cs ++ post := by
  cases kind
  case document =>
    refine ⟨[], [], fun cs => ?_⟩
    rw [tokens, List.append_nil]
    rfl
  case blockQuote =>
    refine ⟨[.opening "blockquote" attrs, Markup.lineFeed],
      [.closing "blockquote", Markup.lineFeed], fun cs => ?_⟩
    simp [tokens, wrapped, Kind.tightBelow]
  case list ordered start listTight =>
    let own := (Kind.list ordered start listTight).ownAttributes
    let tag := if ordered then "ol" else "ul"
    refine ⟨[.opening tag (own ++ attrs), Markup.lineFeed], [.closing tag, Markup.lineFeed],
      fun cs => ?_⟩
    rw [tokens, ownAttributes_list ordered start listTight]
    simp [wrapped, Kind.tightBelow, own, tag]
  case item =>
    refine ⟨[.opening "li" attrs], [.closing "li", Markup.lineFeed], fun cs => ?_⟩
    simp [tokens, wrapped, Kind.tightBelow]
  all_goals cases hkind

section Around

variable {n m : Node} {path : List Nat}

/-- Below nodes that are not blocks there are no blocks, and nothing there depends on the flag. -/
theorem tokens_of_not_isBlock (hblocks : n.Nested Kind.MayHold)
    (hdocuments : n.Nested Kind.MayHoldDocument) (hkind : ¬ n.kind.IsBlock) (tight tight' : Bool) :
    tokens tight n = tokens tight' n := by
  have hboth := hblocks.and hdocuments
  clear hblocks hdocuments
  induction hboth with
  | @mk kind attrs cs here _ ih =>
    have hcs : tokensAll tight cs = tokensAll tight' cs := by
      refine tokensAll_congr fun c hc => ih c hc fun hblock => hkind ?_
      exact .inl (Kind.isHolder_of_mayHold (here c hc).1 (here c hc).2 hblock)
    cases kind <;> simp only [tokens, hcs]
    exact absurd (.inr rfl) hkind

/-- All nodes above a block are holders, and what is written around the block does not depend on
it. -/
theorem tokens_around (hblocks : n.Nested Kind.MayHold) (hdocuments : n.Nested Kind.MayHoldDocument)
    (hm : n.at? path = some m) (hblock : m.kind.IsBlock) (tight : Bool) :
    n.kind.IsBlock ∧ ∃ before after, ∀ new,
      tokens tight (n.modifyAt (fun _ => new) path) =
        before ++ tokens (n.tightAt tight path) new ++ after := by
  induction path generalizing n tight with
  | nil =>
    obtain rfl := Option.some.inj hm
    exact ⟨hblock, [], [], fun new => (List.append_nil _).symm⟩
  | cons i path ih =>
    obtain ⟨kind, attrs, cs⟩ := n
    obtain ⟨c, hc, hm⟩ := Node.at?_cons_eq_some_iff.1 hm
    obtain ⟨hereBlocks, belowBlocks⟩ := hblocks
    obtain ⟨hereDocuments, belowDocuments⟩ := hdocuments
    have hmem : c ∈ cs := List.mem_of_getElem? hc
    obtain ⟨hchild, before, after, haround⟩ :=
      ih (belowBlocks c hmem) (belowDocuments c hmem) hm (kind.tightBelow tight)
    have hholder : kind.IsHolder :=
      Kind.isHolder_of_mayHold (hereBlocks c hmem) (hereDocuments c hmem) hchild
    obtain ⟨pre, post, hwritten⟩ := tokens_holder hholder attrs tight
    let elder := tokensAll (kind.tightBelow tight) (cs.take i)
    let younger := tokensAll (kind.tightBelow tight) (cs.drop (i + 1))
    refine ⟨.inl hholder, pre ++ elder ++ before, after ++ younger ++ post, fun new => ?_⟩
    rw [Node.modifyAt, hwritten, tokensAll_modify (show cs[i]? = some c from hc), haround,
      Node.tightAt_cons hc]
    simp only [elder, younger, List.append_assoc, Node.kind]

end Around

/-! ### Paragraphs -/

/-- A paragraph is written with its tags and a line feed, or as its children are. -/
theorem write_paragraph (attrs : Attributes) {cs : List Node}
    (hcs : ∀ c ∈ cs, ∀ tight tight', tokens tight c = tokens tight' c) (tight : Bool) :
    Markup.write (tokens tight (.mk .paragraph attrs cs)) =
      if tight then (Node.mk .document [] cs).toHtml
      else "<p" ++ attributesText attrs ++ ">" ++ (Node.mk .document [] cs).toHtml ++ "</p>\n" := by
  have hdocument : (Node.mk .document [] cs).toHtml = Markup.write (tokensAll false cs) := by
    rw [Node.toHtml, tokens]
  rw [hdocument]
  cases tight with
  | true =>
    rw [tokens, if_pos rfl, if_pos rfl]
    exact congrArg Markup.write (tokensAll_congr fun c hc => hcs c hc true false)
  | false =>
    have hend : Markup.write [.closing "p", Markup.lineFeed] = "</p>\n" := by decide
    have hstart : Markup.write [.opening "p" attrs] = "<p" ++ attributesText attrs ++ ">" := by
      simp [Markup.write, Token.write, String.join]
    have htokens : tokens false (.mk .paragraph attrs cs) =
        [.opening "p" attrs] ++ tokensAll false cs ++ [.closing "p", Markup.lineFeed] := by
      simp [tokens, wrapped]
    rw [if_neg Bool.false_ne_true, htokens, Markup.write_append, Markup.write_append, hstart, hend]

/-- A paragraph is written bare in an item of a tight list, else inside its tags and with a line
feed; what surrounds it stays. -/
def Node.WritesParagraph (n : Node) (path : List Nat) (attrs : Attributes) (cs : List Node) :
    Prop :=
  let inside := (Node.mk .document [] cs).toHtml
  ∃ before after,
    (∀ s, (n.modifyAt (fun _ => .mk (.text s) [] []) path).toHtml? =
      .ok (before ++ Text.escapeXml s ++ after)) ∧
    (n.InTightItem path → n.toHtml? = .ok (before ++ inside ++ after)) ∧
    (¬ n.InTightItem path → n.toHtml? =
      .ok (before ++ ("<p" ++ attributesText attrs ++ ">" ++ inside ++ "</p>\n") ++ after))

theorem Node.IsPage.writesParagraph {n : Node} (h : n.IsPage) {path : List Nat}
    {attrs : Attributes} {cs : List Node} (hpath : n.at? path = some (.mk .paragraph attrs cs)) :
    n.WritesParagraph path attrs cs := by
  obtain ⟨-, before, after, haround⟩ :=
    tokens_around h.blocks h.documents hpath (.inr rfl) false
  have hwrite : ∀ new, (n.modifyAt (fun _ => new) path).toHtml? =
      .ok (Markup.write before ++ Markup.write (tokens (n.tightAt false path) new) ++
        Markup.write after) := by
    intro new
    rw [Node.toHtml?_eq, Node.toHtml, haround, Markup.write_append, Markup.write_append]
  have hcs : ∀ c ∈ cs, ∀ tight tight', tokens tight c = tokens tight' c := by
    intro c hc
    obtain ⟨hereBlocks, belowBlocks⟩ := h.blocks.at? hpath
    obtain ⟨hereDocuments, belowDocuments⟩ := h.documents.at? hpath
    refine tokens_of_not_isBlock (belowBlocks c hc) (belowDocuments c hc) fun hblock => ?_
    exact Kind.isHolder_of_mayHold (hereBlocks c hc) (hereDocuments c hc) hblock
  have hflag := h.tightAt_paragraph hpath rfl
  have hself := hwrite (.mk .paragraph attrs cs)
  rw [Node.modifyAt_of_at? hpath, write_paragraph attrs hcs] at hself
  refine ⟨Markup.write before, Markup.write after, fun s => ?_, fun hin => ?_, fun hout => ?_⟩
  · have htext : Markup.write [.text s] = Text.escapeXml s := by
      simp [Markup.write, Token.write, String.join]
    rw [hwrite, tokens, htext]
  · rw [hself, if_pos (hflag.2 hin)]
  · rw [hself, if_neg (mt hflag.1 hout)]

/-- In every page, however deep its lists and quotes, the paragraphs without tags are those right
below the items of tight lists. -/
theorem paragraph_stands_bare_in_tight_items :
    (∀ n : Node, n.IsPage → ∀ path attrs cs, n.at? path = some (.mk .paragraph attrs cs) →
      n.WritesParagraph path attrs cs) ∧
    ∀ source n, read source = .ok n → n.IsPage ∧ n.decorate.IsPage := by
  refine ⟨fun n h path attrs cs hpath => h.writesParagraph hpath, fun source n h => ?_⟩
  exact ⟨Node.isPage_of_read h, (Node.isPage_of_read h).decorate⟩

/-- A tight list whose item holds a quote and a loose list with a tight one in it. -/
def mixedPage : Node :=
  let paragraph (s : String) : Node := .mk .paragraph [] [.mk (.text s) [] []]
  let list (tight : Bool) (cs : List Node) : Node := .mk (.list false 1 tight) [] [.mk .item [] cs]
  .mk .document [] [list true [.mk .blockQuote [] [paragraph "quoted"],
    list false [paragraph "loose", list true [paragraph "tight"]]]]

/-- The quote's paragraph and the one of the innermost list; and a text that is read. -/
theorem paragraph_stands_bare_in_tight_items_mixed :
    mixedPage.IsPage ∧ ¬ mixedPage.InTightItem [0, 0, 0, 0] ∧
      mixedPage.WritesParagraph [0, 0, 0, 0] [] [.mk (.text "quoted") [] []] ∧
      mixedPage.InTightItem [0, 0, 1, 0, 1, 0, 0] ∧
      mixedPage.WritesParagraph [0, 0, 1, 0, 1, 0, 0] [] [.mk (.text "tight") [] []] ∧
      ∃ n, read "- > a\n" = .ok n ∧ n.IsPage := by
  have hpage : mixedPage.IsPage := by
    refine ⟨rfl, ?_, ?_⟩ <;>
      simp [mixedPage, Node.nested_mk_iff, Node.kind, Kind.MayHold, Kind.MayHoldDocument]
  obtain ⟨hwrites, hread⟩ := paragraph_stands_bare_in_tight_items
  have hsome : (read "- > a\n").toOption.isSome = true := by decide +kernel
  obtain ⟨n, hn⟩ := Option.isSome_iff_exists.1 hsome
  replace hn := eq_ok_of_toOption hn
  refine ⟨hpage, ?_, hwrites _ hpage _ _ _ rfl, ?_, hwrites _ hpage _ _ _ rfl, n, hn,
    (hread _ n hn).1⟩
  · rw [← hpage.tightAt_paragraph (m := .mk .paragraph [] [.mk (.text "quoted") [] []]) rfl rfl]
    decide
  · exact ⟨[0, 0, 1, 0, 1], 0, 0, _, _, rfl, rfl, ⟨false, 1, rfl⟩, rfl, rfl⟩

/-- A document with another one in an item of a tight list. -/
def documentInItem : Node :=
  .mk .document [] [.mk (.list false 1 true) [] [.mk .item [] [.mk .document []
    [.mk .paragraph [] [.mk (.text "x") [] []]]]]]

/-- Where a document stands in a tight item, its paragraphs have lost their tags too. -/
theorem document_in_tight_item_bares_its_paragraphs :
    documentInItem.kind = .document ∧ documentInItem.Nested Kind.MayHold ∧
      documentInItem.at? [0, 0, 0, 0] = some (.mk .paragraph [] [.mk (.text "x") [] []]) ∧
      ¬ documentInItem.InTightItem [0, 0, 0, 0] ∧
      documentInItem.toHtml? = .ok "<ul>\n<li>x</li>\n</ul>\n" ∧
      ¬ documentInItem.WritesParagraph [0, 0, 0, 0] [] [.mk (.text "x") [] []] := by
  have hout : ¬ documentInItem.InTightItem [0, 0, 0, 0] := by
    rw [show [0, 0, 0, 0] = [0, 0, 0] ++ [0] from rfl, Node.inTightItem_concat_iff rfl]
    rintro ⟨hitem, -⟩
    cases hitem
  have hhtml : documentInItem.toHtml? = .ok "<ul>\n<li>x</li>\n</ul>\n" := by
    rw [Node.toHtml?_eq]
    decide
  refine ⟨rfl, ?_, rfl, hout, hhtml, ?_⟩
  · simp [documentInItem, Node.nested_mk_iff, Node.kind, Kind.MayHold]
  · rintro ⟨before, after, haround, -, htags⟩
    have htext : documentInItem.toHtml? = .ok (before ++ Text.escapeXml "x" ++ after) := by
      rw [hhtml, ← haround "x", Node.toHtml?_eq]
      decide
    have hsame := congrArg String.length (Except.ok.inj (htext.symm.trans (htags hout)))
    have hx : (Text.escapeXml "x").length = 1 := by decide
    have hp : ("<p" ++ attributesText [] ++ ">" ++
        (Node.mk .document [] [.mk (.text "x") [] []]).toHtml ++ "</p>\n").length = 9 := by decide
    simp only [String.length_append] at hsame hp
    omega

end LivePages.Markdown
