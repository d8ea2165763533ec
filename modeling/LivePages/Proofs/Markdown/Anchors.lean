import LivePages.Proofs.Markdown.Conversion
import LivePages.Proofs.Markdown.PageAttributes
import LivePages.Proofs.Markdown.Writing
import LivePages.Proofs.Result

/-! What page attributes change in the markup. A document made of a tree has no attributes, so that
its links and quotes get theirs at the end of their start tags, and nothing else is written
differently. Each link of a text is one element, but for those that describe a picture. -/

namespace LivePages.Markup

/-- The attributes of a start tag on a page, from those that it has without page attributes. -/
def pagedAttributes (tag : String) (attrs : Attributes) : Attributes :=
  if tag = "a" then attrs ++ [("target", "_blank"), ("rel", "noopener noreferrer")]
  else if tag = "blockquote" then
    attrs ++ [("class", "border-start border-primary border-3 ps-2")]
  else attrs

def Token.paged : Token → Token
  | .opening tag attrs => .opening tag (pagedAttributes tag attrs)
  | t => t

def Lexeme.paged : Lexeme → Lexeme
  | .opening tag attrs => .opening tag (pagedAttributes tag attrs)
  | l => l

/-- The attributes of an element that makes a link. -/
def Lexeme.anchor? : Lexeme → Option Attributes
  | .opening tag attrs => if tag = "a" then some attrs else none
  | _ => none

theorem lexemes_paged (t : Token) : t.paged.lexemes = t.lexemes.map Lexeme.paged := by
  cases t with
  | text s =>
    change s.toList.map Lexeme.char = (s.toList.map Lexeme.char).map Lexeme.paged
    rw [List.map_map]
    rfl
  | _ => rfl

theorem isPlain_paged {t : Token} (h : t.IsPlain) : t.paged.IsPlain := by
  cases t with
  | opening tag attrs =>
    obtain ⟨htag, hattrs⟩ := h
    refine ⟨htag, ?_⟩
    unfold pagedAttributes
    split_ifs
    · exact List.forall_mem_append.2 ⟨hattrs, by decide⟩
    · exact List.forall_mem_append.2 ⟨hattrs, by decide⟩
    · exact hattrs
  | _ => exact h

end LivePages.Markup

namespace LivePages.Markdown

open Markup (Attributes Lexeme Token pagedAttributes)

/-! ### What is written -/

mutual

/-- Page attributes are not part of a document's text. -/
theorem textContent_decorate : ∀ n : Node, n.decorate.textContent = n.textContent
  | .mk kind attrs cs => by
    have hcs := textContents_decorate cs
    rw [Node.decorate_mk]
    cases kind <;> simp only [Node.textContent, hcs]

theorem textContents_decorate : ∀ cs : List Node,
    Node.textContents (cs.map Node.decorate) = Node.textContents cs
  | [] => rfl
  | n :: r => by
    rw [List.map_cons, Node.textContents, Node.textContents, textContent_decorate n,
      textContents_decorate r]

end

theorem map_paged_wrapped (tag : String) (attrs : Attributes) (inside : List Token) :
    (wrapped tag attrs inside).map Token.paged =
      wrapped tag (pagedAttributes tag attrs) (inside.map Token.paged) := by
  simp [wrapped, Token.paged]

theorem heading_ne {tag : String} (htag : tag.toList.head? ≠ some 'h') (level : Nat) :
    "h" ++ toString level ≠ tag := by
  rintro rfl
  simp at htag

theorem pagedAttributes_heading (level : Nat) (attrs : Attributes) :
    pagedAttributes ("h" ++ toString level) attrs = attrs := by
  rw [pagedAttributes, if_neg (heading_ne (by decide) level),
    if_neg (heading_ne (by decide) level)]

mutual

/-- Links and quotes get their page attributes after their own, and all else is written as
before. -/
theorem tokens_decorate : ∀ (n : Node) (tight : Bool), n.IsBare →
    tokens tight n.decorate = (tokens tight n).map Token.paged
  | .mk kind attrs cs, tight, h => by
    obtain ⟨rfl, below⟩ := h
    have hcs := fun tight => tokensAll_decorate cs tight below
    rw [Node.decorate_mk]
    cases kind <;> rw [tokens, tokens]
    case document => exact hcs tight
    case paragraph =>
      cases tight with
      | true => exact hcs true
      | false =>
        rw [if_neg Bool.false_ne_true, if_neg Bool.false_ne_true, List.map_append,
          map_paged_wrapped, hcs]
        rfl
    case heading level =>
      rw [List.map_append, map_paged_wrapped, pagedAttributes_heading, hcs]
      rfl
    case blockQuote =>
      rw [List.map_append, map_paged_wrapped, List.map_cons, hcs]
      rfl
    case list ordered start listTight =>
      rw [List.map_append, map_paged_wrapped, List.map_cons, hcs]
      cases ordered <;> rfl
    case item =>
      rw [List.map_append, map_paged_wrapped, hcs]
      rfl
    case codeBlock info literal =>
      rw [List.map_append, map_paged_wrapped, map_paged_wrapped]
      rfl
    case code s =>
      rw [map_paged_wrapped]
      rfl
    case emph =>
      rw [map_paged_wrapped, hcs]
      rfl
    case strong =>
      rw [map_paged_wrapped, hcs]
      rfl
    case link url title =>
      rw [map_paged_wrapped, hcs, List.append_nil]
      rfl
    case image url title =>
      rw [textContents_decorate cs]
      rfl
    all_goals rfl

theorem tokensAll_decorate : ∀ (ns : List Node) (tight : Bool), (∀ n ∈ ns, n.IsBare) →
    tokensAll tight (ns.map Node.decorate) = (tokensAll tight ns).map Token.paged
  | [], _, _ => rfl
  | n :: r, tight, h => by
    obtain ⟨hn, hr⟩ := List.forall_mem_cons.1 h
    rw [List.map_cons, tokensAll, tokensAll, List.map_append, tokens_decorate n tight hn,
      tokensAll_decorate r tight hr]

end

theorem areReadable_of_isBare {n : Node} (h : n.IsBare) (tight : Bool) :
    AreReadable (tokens tight n) := by
  refine areReadable_tokens n tight (Node.Every.mono (fun k attrs hattrs => ?_) h)
  rw [hattrs]
  exact List.forall_mem_nil _

theorem lexemesOf_paged (ts : List Token) :
    lexemesOf (ts.map Token.paged) = (lexemesOf ts).map Lexeme.paged := by
  rw [lexemesOf, lexemesOf, List.flatMap_map, List.map_flatMap]
  simp only [Markup.lexemes_paged]

/-- A document without attributes is written with and without page attributes, and what was written
is read back. -/
theorem read_toHtml_of_isBare {n : Node} (h : n.IsBare) :
    Markup.read n.toHtml = some (n.lexemes false) ∧
      Markup.read n.decorate.toHtml = some ((n.lexemes false).map Lexeme.paged) := by
  have hreadable := areReadable_of_isBare h false
  have hpaged : AreReadable ((tokens false n).map Token.paged) := by
    intro t ht
    obtain ⟨u, hu, rfl⟩ := List.mem_map.1 ht
    exact Markup.isPlain_paged (hreadable u hu)
  rw [← lexemesOf_tokens]
  constructor
  · rw [Node.toHtml, Markup.read_write hreadable]
    rfl
  · rw [Node.toHtml, tokens_decorate n false h, Markup.read_write hpaged, ← lexemesOf_paged]
    rfl

/-! ### Links -/

/-- Address and title of a link. -/
def Kind.link? : Kind → Option (String × String)
  | .link url title => some (url, title)
  | _ => none

/-- Kinds that are written on their own, whatever stands below. -/
def Kind.hides : Kind → Bool
  | .codeBlock _ _ => true
  | .code _ => true
  | .text _ => true
  | .softBreak => true
  | .lineBreak => true
  | .thematicBreak => true
  | .rawHtml => true
  | .image _ _ => true
  | _ => false

def Kind.isImage : Kind → Bool
  | .image _ _ => true
  | _ => false

mutual

/-- The links of a document, in document order, but for those below nodes of some kinds. -/
def Node.links (hides : Kind → Bool) : Node → List (String × String)
  | .mk kind _ cs => kind.link?.toList ++ if hides kind then [] else linksAll hides cs

def linksAll (hides : Kind → Bool) : List Node → List (String × String)
  | [] => []
  | n :: r => n.links hides ++ linksAll hides r

end

/-- What is written in the start tag of a link. -/
def linkAttributes (link : String × String) : Attributes :=
  ("href", sanitizeUrl link.1) :: if link.2 = "" then [] else [("title", link.2)]

theorem hides_eq (kind : Kind) (attrs : Attributes) (description : String) :
    kind.hides = (kind.alone? attrs description).isSome := by
  cases kind <;> rfl

/-- The lexemes hold one element for each of the links, in order. -/
structure HasAnchors (ls : List Lexeme) (links : List (String × String)) : Prop where
  starts : ls.filterMap Lexeme.anchor? = links.map linkAttributes
  ends : ls.count (.closing "a") = links.length

namespace HasAnchors

variable {ls ms : List Lexeme} {links more : List (String × String)}

theorem nil : HasAnchors [] [] :=
  ⟨rfl, rfl⟩

theorem append (h : HasAnchors ls links) (hm : HasAnchors ms more) :
    HasAnchors (ls ++ ms) (links ++ more) := by
  refine ⟨?_, ?_⟩
  · rw [List.filterMap_append, h.starts, hm.starts, List.map_append]
  · rw [List.count_append, h.ends, hm.ends, List.length_append]

/-- Lexemes among which there is no tag of a link. -/
theorem of_forall (h : ∀ l ∈ ls, l.anchor? = none ∧ l ≠ .closing "a") : HasAnchors ls [] := by
  refine ⟨List.filterMap_eq_nil_iff.2 fun l hl => (h l hl).1, ?_⟩
  exact List.count_eq_zero.2 fun hmem => (h _ hmem).2 rfl

theorem said (s : String) : HasAnchors (said s) [] := by
  refine of_forall fun l hl => ?_
  obtain ⟨c, -, rfl⟩ := List.mem_map.1 hl
  exact ⟨rfl, nofun⟩

theorem feedIf (b : Bool) : HasAnchors (feedIf b) [] := by
  cases b
  · exact nil
  · exact said "\n"

theorem link (link : String × String) (h : HasAnchors ls links) :
    HasAnchors (.opening "a" (linkAttributes link) :: ls ++ [.closing "a"]) (link :: links) := by
  refine ⟨?_, ?_⟩
  · simp [List.filterMap_append, Lexeme.anchor?, h.starts]
  · simp [List.count_append, h.ends]

theorem element {tag : String} (htag : tag ≠ "a") (attrs : Attributes) (h : HasAnchors ls links) :
    HasAnchors (.opening tag attrs :: ls ++ [.closing tag]) links := by
  refine ⟨?_, ?_⟩
  · simp [List.filterMap_append, Lexeme.anchor?, htag, h.starts]
  · simp [List.count_append, htag, h.ends]

end HasAnchors

/-- What is written for a node on its own holds no link. -/
theorem hasAnchors_alone {kind : Kind} {attrs : Attributes} {description : String}
    {ls : List Lexeme} (h : kind.alone? attrs description = some ls) : HasAnchors ls [] := by
  have hfeed := HasAnchors.feedIf true
  have hempty : ∀ (tag : String) (attrs : Attributes), HasAnchors [.empty tag attrs] [] :=
    fun tag attrs => .of_forall (List.forall_mem_singleton.2 ⟨rfl, nofun⟩)
  cases kind <;> cases h
  case codeBlock info literal =>
    have hcode := (HasAnchors.said literal).element (show "code" ≠ "a" by decide)
      ((language? info).elim [] fun w => [("class", "language-" ++ w)])
    have hpre := (hcode.element (show "pre" ≠ "a" by decide) attrs).append hfeed
    simpa only [List.cons_append, List.append_assoc, List.nil_append] using hpre
  case code s => exact (HasAnchors.said s).element (by decide) attrs
  case text s => exact .said s
  case softBreak => exact hfeed
  case lineBreak => exact (hempty "br" []).append hfeed
  case thematicBreak => exact (hempty "hr" attrs).append hfeed
  case rawHtml => exact .of_forall (List.forall_mem_singleton.2 ⟨rfl, nofun⟩)
  case image url title => exact hempty _ _

/-- Only links have the tag of links. -/
theorem tag_ne_of_link?_eq_none {kind : Kind} {tight : Bool} {tag : String}
    (h : kind.tag? tight = some tag) (hlink : kind.link? = none) : tag ≠ "a" := by
  cases kind
  case paragraph =>
    cases tight with
    | true => cases h
    | false =>
      cases h
      decide
  case heading level =>
    cases h
    exact heading_ne (by decide) level
  case list ordered start listTight =>
    cases h
    cases ordered <;> decide
  case link => cases hlink
  all_goals first | cases h; decide | cases h

mutual

/-- What is written for a document has an element for each link that is shown. -/
theorem hasAnchors_lexemes : ∀ (n : Node) (tight : Bool), n.IsBare →
    HasAnchors (n.lexemes tight) (n.links Kind.hides)
  | .mk kind attrs cs, tight, h => by
    obtain ⟨rfl, below⟩ := h
    have hcs := hasAnchors_lexemesAll cs (kind.tightBelow tight) below
    rw [Node.lexemes, Node.links, hides_eq kind [] (Node.textContent (.mk kind [] cs))]
    cases halone : kind.alone? [] (Node.textContent (.mk kind [] cs)) with
    | some ls =>
      have hlink : kind.link? = none := by
        cases kind <;> first | rfl | cases halone
      rw [hlink]
      exact hasAnchors_alone halone
    | none =>
      rw [Option.isSome_none, if_neg Bool.false_ne_true, List.append_nil]
      cases hlink : kind.link? with
      | none =>
        cases htag : kind.tag? tight with
        | none => exact hcs
        | some tag =>
          have hinside := (HasAnchors.feedIf kind.feedsInside).append hcs
          have helement := hinside.element (tag_ne_of_link?_eq_none htag hlink) kind.ownAttributes
          simpa using helement.append (.feedIf kind.feedsAfter)
      | some link =>
        obtain ⟨url, title⟩ := link
        obtain rfl : kind = .link url title := by
          cases kind <;> cases hlink
          rfl
        simpa [Kind.tag?, Kind.ownAttributes, linkAttributes, Kind.feedsInside, Kind.feedsAfter,
          feedIf] using hcs.link (url, title)

theorem hasAnchors_lexemesAll : ∀ (ns : List Node) (tight : Bool), (∀ n ∈ ns, n.IsBare) →
    HasAnchors (Node.lexemesAll tight ns) (linksAll Kind.hides ns)
  | [], _, _ => .nil
  | n :: r, tight, h => by
    obtain ⟨hn, hr⟩ := List.forall_mem_cons.1 h
    rw [Node.lexemesAll, linksAll]
    exact (hasAnchors_lexemes n tight hn).append (hasAnchors_lexemesAll r tight hr)

end

theorem filterMap_anchor?_paged (ls : List Lexeme) :
    (ls.map Lexeme.paged).filterMap Lexeme.anchor? = (ls.filterMap Lexeme.anchor?).map
      (· ++ [("target", "_blank"), ("rel", "noopener noreferrer")]) := by
  rw [List.filterMap_map, List.map_filterMap]
  congr 1
  funext l
  cases l with
  | opening tag attrs =>
    by_cases htag : tag = "a" <;> simp [Lexeme.paged, Lexeme.anchor?, pagedAttributes, htag]
  | _ => rfl

theorem count_closing_paged (ls : List Lexeme) (tag : String) :
    (ls.map Lexeme.paged).count (.closing tag) = ls.count (.closing tag) := by
  rw [List.count, List.countP_map]
  refine List.countP_congr fun l _ => ?_
  cases l <;> simp [Lexeme.paged]

/-! ### Links of a text -/

theorem linksAll_congr {hides hides' : Kind → Bool} {cs : List Node}
    (h : ∀ c ∈ cs, c.links hides = c.links hides') : linksAll hides cs = linksAll hides' cs := by
  induction cs with
  | nil => rfl
  | cons c r ih =>
    obtain ⟨hc, hr⟩ := List.forall_mem_cons.1 h
    rw [linksAll, linksAll, hc, ih hr]

/-- Kinds that have nothing below them hide nothing. -/
theorem links_congr {hides hides' : Kind → Bool} {n : Node}
    (h : n.Nested fun parent _ => hides parent = hides' parent) :
    n.links hides = n.links hides' := by
  induction h with
  | @mk kind attrs cs here _ ih =>
    rw [Node.links, Node.links, linksAll_congr ih]
    cases cs with
    | nil => simp [linksAll]
    | cons c r => rw [here c List.mem_cons_self]

/-- In a text that is read, links are hidden by pictures only. -/
theorem links_of_read {source : String} {n : Node} (h : read source = .ok n) :
    n.links Kind.hides = n.links Kind.isImage := by
  refine links_congr (nested_of_read h fun c k d l hc hd hholds => ?_)
  cases hc <;> first | rfl | exact absurd hholds id

/-- Page attributes add a target and a relation to each link, a class to each quote and nothing
else, and every link of a page gets them. -/
theorem links_open_in_new_tabs :
    (∀ t n, Node.ofTree? t = .ok n → n.IsBare) ∧
    (∀ n : Node, n.IsBare →
      n.toHtml? = .ok (Markup.write (tokens false n)) ∧
      n.decorate.toHtml? = .ok (Markup.write ((tokens false n).map Token.paged)) ∧
      ∃ ls, Markup.read n.toHtml = some ls ∧
        Markup.read n.decorate.toHtml = some (ls.map Lexeme.paged) ∧
        HasAnchors ls (n.links Kind.hides)) ∧
    ∀ source html, tryRender source = .ok html → ∃ n ls, read source = .ok n ∧
      Markup.read html = some ls ∧
      ls.filterMap Lexeme.anchor? = (n.links Kind.isImage).map (fun link =>
        linkAttributes link ++ [("target", "_blank"), ("rel", "noopener noreferrer")]) ∧
      ls.count (.closing "a") = (n.links Kind.isImage).length := by
  refine ⟨fun t n h => (becomes_of_convertAt h).isBare, fun n h => ?_, fun source html h => ?_⟩
  · obtain ⟨hplain, hpage⟩ := read_toHtml_of_isBare h
    refine ⟨n.toHtml?_eq, ?_, n.lexemes false, hplain, hpage, hasAnchors_lexemes n false h⟩
    rw [Node.toHtml?_eq, Node.toHtml, tokens_decorate n false h]
  · obtain ⟨n, hn, rfl⟩ := exists_read_of_tryRender h
    have hbare := (becomes_of_convertAt hn).isBare
    obtain ⟨hstarts, hends⟩ := hasAnchors_lexemes n false hbare
    rw [links_of_read hn] at hstarts hends
    refine ⟨n, _, hn, (read_toHtml_of_isBare hbare).2, ?_, ?_⟩
    · rw [filterMap_anchor?_paged, hstarts, List.map_map]
      rfl
    · rw [count_closing_paged, hends]

/-- A quote around a link. -/
def quotedLink : Tree :=
  .mk .document [.mk .blockQuote [.mk .paragraph [.mk (.link "x" "") [Tree.text "y".toList]]]]

/-- A quote around a link; and a text with a link and, in a picture's description, another. -/
theorem links_open_in_new_tabs_quote :
    (∃ n, Node.ofTree? quotedLink = .ok n ∧ n.IsBare ∧
      n.toHtml? = .ok "<blockquote>\n<p><a href=\"x\">y</a></p>\n</blockquote>\n" ∧
      n.decorate.toHtml? = .ok ("<blockquote " ++
        "class=\"border-start border-primary border-3 ps-2\">\n<p><a href=\"x\" " ++
        "target=\"_blank\" rel=\"noopener noreferrer\">y</a></p>\n</blockquote>\n")) ∧
    ∃ n ls, read "[a](b) ![[c](d)](e)\n" = .ok n ∧
      Markup.read ("<p><a href=\"b\" target=\"_blank\" rel=\"noopener noreferrer\">a</a> " ++
        "<img src=\"e\" alt=\"c\"/></p>\n") = some ls ∧
      ls.count (.closing "a") = (n.links Kind.isImage).length := by
  obtain ⟨hbare, hwritten, hrendered⟩ := links_open_in_new_tabs
  constructor
  · have hquoted := hbare quotedLink _ rfl
    obtain ⟨hplain, hpage, -⟩ := hwritten _ hquoted
    refine ⟨_, rfl, hquoted, ?_, ?_⟩
    · rw [hplain]
      decide
    · rw [hpage]
      decide
  · have hhtml : tryRender "[a](b) ![[c](d)](e)\n" =
        .ok ("<p><a href=\"b\" target=\"_blank\" rel=\"noopener noreferrer\">a</a> " ++
          "<img src=\"e\" alt=\"c\"/></p>\n") := eq_ok_of_toOption (by decide +kernel)
    obtain ⟨n, ls, hn, hread, -, hends⟩ := hrendered _ _ hhtml
    exact ⟨n, ls, hn, hread, hends⟩

end LivePages.Markdown
