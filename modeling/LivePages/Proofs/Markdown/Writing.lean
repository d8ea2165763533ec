import LivePages.Markdown.Html
import LivePages.Proofs.Markdown.Decoration
import LivePages.Proofs.Markup.Reading
import LivePages.Proofs.Text.Utf8

/-! A document is written whole. Writing never fails, and a reader of what was written meets what the
tree says, in document order: each element with its attributes, each text as it is, and a line feed
where one belongs. -/

namespace LivePages.Markup

/-- Memory takes all tokens and holds the octets of their text. -/
theorem writeTo_memory (held : List UInt8) (ts : List Token) :
    writeTo memory held ts = .ok ((Text.Utf8.encode (write ts).toList).reverse ++ held) := by
  have hwrite : ∀ ts : List Token, (write ts).toList = ts.flatMap fun t => t.write.toList := by
    intro ts
    rw [write, String.toList_join, List.flatMap_map]
  induction ts generalizing held with
  | nil => simp [writeTo, hwrite, Text.Utf8.encode]
  | cons t ts ih =>
    rw [writeTo, memory]
    dsimp only
    rw [ih, hwrite, hwrite, List.flatMap_cons, Text.Utf8.encode, Text.Utf8.encode,
      List.flatMap_append, List.reverse_append, List.append_assoc, List.reverseAux_eq]
    rfl

theorem write_append (ts us : List Token) : write (ts ++ us) = write ts ++ write us := by
  rw [write, List.map_append, String.join_append]
  rfl

end LivePages.Markup

namespace LivePages.Markdown

open Markup (Attributes IsPlainName Lexeme Token)

/-- Every document is written, and its octets are UTF-8. -/
theorem Node.toHtml?_eq (n : Node) : n.toHtml? = .ok n.toHtml := by
  unfold Node.toHtml?
  rw [Markup.writeTo_memory, List.append_nil]
  dsimp only
  rw [List.reverse_reverse, Text.Utf8.decode?_encode]
  dsimp only
  rw [String.ofList_toList, Node.toHtml]

/-! ### What a tree says -/

/-- A text as a reader meets it. -/
def said (s : String) : List Lexeme :=
  s.toList.map .char

def feedIf (b : Bool) : List Lexeme :=
  if b then said "\n" else []

/-- The element around the children of a node. A document has none, nor has a paragraph that stands
tight. -/
def Kind.tag? (tight : Bool) : Kind → Option String
  | .paragraph => if tight then none else some "p"
  | .heading level => some ("h" ++ toString level)
  | .blockQuote => some "blockquote"
  | .list ordered _ _ => some (if ordered then "ol" else "ul")
  | .item => some "li"
  | .emph => some "em"
  | .strong => some "strong"
  | .link _ _ => some "a"
  | _ => none

/-- The attributes that the element of a kind has in front of those of the node. -/
def Kind.ownAttributes : Kind → Attributes
  | .list ordered start _ => if ordered ∧ start ≠ 1 then [("start", toString start)] else []
  | .link url title => ("href", sanitizeUrl url) :: if title = "" then [] else [("title", title)]
  | _ => []

/-- Whether a line feed follows the start tag. -/
def Kind.feedsInside : Kind → Bool
  | .blockQuote => true
  | .list _ _ _ => true
  | _ => false

/-- Whether a line feed follows the end tag. -/
def Kind.feedsAfter : Kind → Bool
  | .paragraph => true
  | .heading _ => true
  | .blockQuote => true
  | .list _ _ _ => true
  | .item => true
  | _ => false

/-- Whether paragraphs right below a node stand tight. -/
def Kind.tightBelow (tight : Bool) : Kind → Bool
  | .blockQuote => false
  | .list _ _ listTight => listTight
  | _ => tight

/-- What a node says that is written on its own, whatever stands below it; a picture is described by
the text below it. -/
def Kind.alone? (attrs : Attributes) (description : String) : Kind → Option (List Lexeme)
  | .codeBlock info literal =>
    let language := (language? info).elim [] fun w => [("class", "language-" ++ w)]
    some (.opening "pre" attrs :: .opening "code" language ::
      said literal ++ .closing "code" :: .closing "pre" :: feedIf true)
  | .code s => some (.opening "code" attrs :: said s ++ [.closing "code"])
  | .text s => some (said s)
  | .softBreak => some (feedIf true)
  | .lineBreak => some (.empty "br" [] :: feedIf true)
  | .thematicBreak => some (.empty "hr" attrs :: feedIf true)
  | .rawHtml => some [.comment " raw HTML omitted "]
  | .image url title =>
    some [.empty "img" (("src", sanitizeUrl url) :: ("alt", description) ::
      (if title = "" then [] else [("title", title)]) ++ attrs)]
  | _ => none

mutual

/-- What a reader meets of a node, where `tight` says whether paragraphs stand tight. -/
def Node.lexemes (tight : Bool) : Node → List Lexeme
  | .mk kind attrs cs =>
    match kind.alone? attrs (Node.textContent (.mk kind attrs cs)) with
    | some ls => ls
    | none =>
      let below := Node.lexemesAll (kind.tightBelow tight) cs
      match kind.tag? tight with
      | none => below
      | some tag => .opening tag (kind.ownAttributes ++ attrs) :: feedIf kind.feedsInside ++ below ++
          .closing tag :: feedIf kind.feedsAfter

def Node.lexemesAll (tight : Bool) : List Node → List Lexeme
  | [] => []
  | n :: r => n.lexemes tight ++ Node.lexemesAll tight r

end

/-! ### Reading it back -/

/-- The lexemes of some tokens. -/
def lexemesOf (ts : List Token) : List Lexeme :=
  ts.flatMap Token.lexemes

theorem lexemesOf_append (ts us : List Token) : lexemesOf (ts ++ us) = lexemesOf ts ++ lexemesOf us :=
  List.flatMap_append

theorem lexemesOf_cons (t : Token) (ts : List Token) : lexemesOf (t :: ts) = t.lexemes ++ lexemesOf ts :=
  List.flatMap_cons

theorem lexemesOf_wrapped (tag : String) (attrs : Attributes) (inside : List Token) :
    lexemesOf (wrapped tag attrs inside) = .opening tag attrs :: lexemesOf inside ++ [.closing tag] := by
  rw [wrapped, lexemesOf_append, lexemesOf_cons]
  rfl

theorem lexemesOf_text (s : String) : lexemesOf [.text s] = said s :=
  List.append_nil (said s)

section Element

variable {attrs : Attributes} {cs : List Node} {tight : Bool} {tag : String}
  {inside after : List Token}

/-- A node that is written on its own. -/
theorem lexemesOf_alone (kind : Kind) {ts : List Token}
    (h : kind.alone? attrs (Node.textContent (.mk kind attrs cs)) = some (lexemesOf ts)) :
    lexemesOf ts = Node.lexemes tight (.mk kind attrs cs) := by
  rw [Node.lexemes, h]

/-- A node whose children stand inside its element. -/
theorem lexemesOf_element (kind : Kind)
    (h : kind.alone? attrs (Node.textContent (.mk kind attrs cs)) = none)
    (ht : kind.tag? tight = some tag)
    (hinside : lexemesOf inside =
      feedIf kind.feedsInside ++ Node.lexemesAll (kind.tightBelow tight) cs)
    (hafter : lexemesOf after = feedIf kind.feedsAfter) :
    lexemesOf (wrapped tag (kind.ownAttributes ++ attrs) inside ++ after) =
      Node.lexemes tight (.mk kind attrs cs) := by
  rw [Node.lexemes, h]
  dsimp only
  rw [ht]
  dsimp only
  rw [lexemesOf_append, lexemesOf_wrapped, hinside, hafter, List.append_assoc]
  simp only [List.cons_append, List.append_assoc, List.nil_append]

end Element

theorem titleAttribute_eq (title : String) :
    titleAttribute title = if title = "" then [] else [("title", title)] := by
  unfold titleAttribute
  by_cases h : title = ""
  · rw [if_pos h, if_pos (String.isEmpty_iff.2 h)]
  · rw [if_neg h, if_neg (mt String.isEmpty_iff.1 h)]

theorem ownAttributes_list (ordered : Bool) (start : Nat) (listTight : Bool) :
    (if ordered && start != 1 then [("start", toString start)] else []) =
      (Kind.list ordered start listTight).ownAttributes := by
  simp [Kind.ownAttributes]

mutual

/-- The tokens that are written for a node stand for what it says. -/
theorem lexemesOf_tokens : ∀ (n : Node) (tight : Bool), lexemesOf (tokens tight n) = n.lexemes tight
  | .mk kind attrs cs, tight => by
    have hcs := lexemesOf_tokensAll cs
    cases kind <;> rw [tokens]
    case document => exact hcs tight
    case paragraph =>
      cases tight with
      | true => exact hcs true
      | false => exact lexemesOf_element .paragraph rfl rfl (hcs false) rfl
    case heading level => exact lexemesOf_element (.heading level) rfl rfl (hcs tight) rfl
    case blockQuote =>
      exact lexemesOf_element .blockQuote rfl rfl (congrArg (feedIf true ++ ·) (hcs false)) rfl
    case list ordered start listTight =>
      rw [ownAttributes_list ordered start listTight]
      exact lexemesOf_element (.list ordered start listTight) rfl rfl
        (congrArg (feedIf true ++ ·) (hcs listTight)) rfl
    case item => exact lexemesOf_element .item rfl rfl (hcs tight) rfl
    case emph =>
      rw [← List.append_nil (wrapped _ _ _)]
      exact lexemesOf_element .emph rfl rfl (hcs tight) rfl
    case strong =>
      rw [← List.append_nil (wrapped _ _ _)]
      exact lexemesOf_element .strong rfl rfl (hcs tight) rfl
    case link url title =>
      rw [titleAttribute_eq, ← List.append_nil (wrapped _ _ _)]
      exact lexemesOf_element (.link url title) rfl rfl (hcs tight) rfl
    case codeBlock info literal =>
      refine lexemesOf_alone (.codeBlock info literal) (congrArg some ?_)
      rw [lexemesOf_append, lexemesOf_wrapped, lexemesOf_wrapped, lexemesOf_text]
      simp only [List.cons_append, List.append_assoc, List.nil_append]
      rfl
    case code s =>
      refine lexemesOf_alone (.code s) (congrArg some ?_)
      rw [lexemesOf_wrapped, lexemesOf_text]
    case image url title =>
      rw [titleAttribute_eq]
      exact lexemesOf_alone (.image url title) rfl
    case thematicBreak => exact lexemesOf_alone .thematicBreak rfl
    case rawHtml => exact lexemesOf_alone .rawHtml rfl
    case text s => exact lexemesOf_alone (.text s) (congrArg some (lexemesOf_text s).symm)
    case softBreak => exact lexemesOf_alone .softBreak rfl
    case lineBreak => exact lexemesOf_alone .lineBreak rfl

theorem lexemesOf_tokensAll : ∀ (ns : List Node) (tight : Bool),
    lexemesOf (tokensAll tight ns) = Node.lexemesAll tight ns
  | [], _ => rfl
  | n :: r, tight => by
    rw [tokensAll, Node.lexemesAll, lexemesOf_append, lexemesOf_tokens n, lexemesOf_tokensAll r]

end

/-- Attributes whose names can be read. -/
def ArePlain (a : Attributes) : Prop :=
  ∀ p ∈ a, IsPlainName p.1

instance (a : Attributes) : Decidable (ArePlain a) :=
  inferInstanceAs (Decidable (∀ p ∈ a, IsPlainName p.1))

/-- Tokens that can be read back. -/
def AreReadable (ts : List Token) : Prop :=
  ∀ t ∈ ts, t.IsPlain

theorem arePlain_append {a b : Attributes} (ha : ArePlain a) (hb : ArePlain b) : ArePlain (a ++ b) :=
  List.forall_mem_append.2 ⟨ha, hb⟩

theorem arePlain_titleAttribute (title : String) : ArePlain (titleAttribute title) := by
  unfold titleAttribute
  split
  · exact List.forall_mem_nil _
  · exact List.forall_mem_singleton.2 (show IsPlainName "title" by decide)

namespace AreReadable

variable {ts us : List Token} {tag : String} {attrs : Attributes}

theorem append (ht : AreReadable ts) (hu : AreReadable us) : AreReadable (ts ++ us) :=
  List.forall_mem_append.2 ⟨ht, hu⟩

theorem wrapped (ht : IsPlainName tag) (ha : ArePlain attrs) (h : AreReadable ts) :
    AreReadable (Markdown.wrapped tag attrs ts) :=
  append (List.forall_mem_cons.2 ⟨⟨ht, ha⟩, h⟩) (List.forall_mem_singleton.2 ht)

theorem text (s : String) : AreReadable [.text s] :=
  List.forall_mem_singleton.2 trivial

theorem empty (ht : IsPlainName tag) (ha : ArePlain attrs) : AreReadable [.empty tag attrs] :=
  List.forall_mem_singleton.2 ⟨ht, ha⟩

theorem lineFeed : AreReadable [Markup.lineFeed] :=
  text "\n"

end AreReadable

theorem isNameChar_of_isDigit {c : Char} (h : c.isDigit = true) : Markup.isNameChar c = true := by
  have hmark : ("\"'<>/=!".toList.all fun d => !d.isDigit) = true := by decide
  have hbounds : 48 ≤ c.toNat ∧ c.toNat ≤ 57 := by
    simpa [Char.isDigit, UInt32.le_iff_toNat_le] using h
  have hc : "\"'<>/=!".toList.contains c = false := by
    rw [← Bool.not_eq_true, List.contains_iff_mem]
    intro hm
    have hdigit := List.all_eq_true.1 hmark c hm
    rw [h] at hdigit
    cases hdigit
  simp only [Markup.isNameChar, hc, Bool.and_eq_true, bne_iff_ne, decide_eq_true_eq, Bool.not_false,
    and_true]
  omega

theorem isPlainName_heading (level : Nat) : IsPlainName ("h" ++ toString level) := by
  refine ⟨by simp, fun c hc => ?_⟩
  rw [String.toList_append, List.mem_append] at hc
  rcases hc with hc | hc
  · obtain rfl : c = 'h' := by simpa using hc
    decide
  · rw [Nat.toString_eq_repr, Nat.toList_repr] at hc
    exact isNameChar_of_isDigit (Nat.isDigit_of_mem_toDigits (by decide) (by decide) hc)

mutual

theorem areReadable_tokens : ∀ (n : Node) (tight : Bool), n.Every (fun _ a => ArePlain a) →
    AreReadable (tokens tight n)
  | .mk kind attrs cs, tight, h => by
    obtain ⟨ha, below⟩ := h
    have hcs := fun tight => areReadable_tokensAll cs tight below
    have hnil : ArePlain [] := List.forall_mem_nil _
    cases kind <;> rw [tokens]
    case document => exact hcs tight
    case paragraph =>
      cases tight with
      | true => exact hcs true
      | false => exact (AreReadable.wrapped (by decide) ha (hcs false)).append .lineFeed
    case heading level =>
      exact (AreReadable.wrapped (isPlainName_heading level) ha (hcs tight)).append .lineFeed
    case blockQuote =>
      exact (AreReadable.wrapped (by decide) ha (AreReadable.lineFeed.append (hcs false))).append
        .lineFeed
    case list ordered start listTight =>
      refine (AreReadable.wrapped ?_ (arePlain_append ?_ ha)
        (AreReadable.lineFeed.append (hcs listTight))).append .lineFeed
      · cases ordered <;> decide
      · split
        · exact List.forall_mem_singleton.2 (show IsPlainName "start" by decide)
        · exact hnil
    case item => exact (AreReadable.wrapped (by decide) ha (hcs tight)).append .lineFeed
    case codeBlock info literal =>
      refine (AreReadable.wrapped (by decide) ha
        (AreReadable.wrapped (by decide) ?_ (.text literal))).append .lineFeed
      cases language? info with
      | none => exact hnil
      | some w => exact List.forall_mem_singleton.2 (show IsPlainName "class" by decide)
    case thematicBreak => exact (AreReadable.empty (by decide) ha).append .lineFeed
    case rawHtml => exact List.forall_mem_singleton.2 ⟨by decide, by decide⟩
    case text s => exact .text s
    case code s => exact .wrapped (by decide) ha (.text s)
    case softBreak => exact .lineFeed
    case lineBreak => exact (AreReadable.empty (by decide) hnil).append .lineFeed
    case emph => exact .wrapped (by decide) ha (hcs tight)
    case strong => exact .wrapped (by decide) ha (hcs tight)
    case link url title =>
      refine .wrapped (by decide) ?_ (hcs tight)
      exact List.forall_mem_cons.2 ⟨show IsPlainName "href" by decide,
        arePlain_append (arePlain_titleAttribute title) ha⟩
    case image url title =>
      refine .empty (by decide) ?_
      exact List.forall_mem_cons.2 ⟨show IsPlainName "src" by decide,
        List.forall_mem_cons.2 ⟨show IsPlainName "alt" by decide,
          arePlain_append (arePlain_titleAttribute title) ha⟩⟩

theorem areReadable_tokensAll : ∀ (ns : List Node) (tight : Bool),
    (∀ n ∈ ns, n.Every fun _ a => ArePlain a) → AreReadable (tokensAll tight ns)
  | [], _, _ => List.forall_mem_nil _
  | n :: r, tight, h => by
    obtain ⟨hn, hr⟩ := List.forall_mem_cons.1 h
    rw [tokensAll]
    exact (areReadable_tokens n tight hn).append (areReadable_tokensAll r tight hr)

end

/-- Every document whose attributes have plain names is written, and what was written is read back as
what the document says: nothing is lost, doubled or changed. -/
theorem document_is_read_back (n : Node) (h : n.Every fun _ a => ArePlain a) :
    ∃ html, n.toHtml? = .ok html ∧ Markup.read html = some (n.lexemes false) := by
  refine ⟨n.toHtml, n.toHtml?_eq, ?_⟩
  rw [Node.toHtml, Markup.read_write (areReadable_tokens n false h)]
  exact congrArg some (lexemesOf_tokens n false)

/-- A picture and a text whose strings look like markup and like escapes. -/
theorem document_is_read_back_escapes :
    ∃ html, (Node.mk .paragraph [("id", "a\"b")] [.mk (.text "<b> &amp;") [] [],
        .mk (.image "x'y" "\">") [("width", "1")] [.mk .emph [] [.mk (.text "&lt;") [] []]]]).toHtml? =
          .ok html ∧
      Markup.read html = some (.opening "p" [("id", "a\"b")] :: "<b> &amp;".toList.map .char ++
        [.empty "img" [("src", "x'y"), ("alt", "&lt;"), ("title", "\">"), ("width", "1")],
          .closing "p", .char '\n']) := by
  have hleaf : ∀ k : Kind, (Node.mk k [] []).Every fun _ a => ArePlain a :=
    fun k => .mk (by decide) (List.forall_mem_nil _)
  have hemph : (Node.mk .emph [] [.mk (.text "&lt;") [] []]).Every fun _ a => ArePlain a :=
    .mk (by decide) (List.forall_mem_singleton.2 (hleaf _))
  exact document_is_read_back _ (.mk (by decide) (List.forall_mem_cons.2 ⟨hleaf _,
    List.forall_mem_singleton.2 (.mk (by decide) (List.forall_mem_singleton.2 hemph))⟩))

end LivePages.Markdown
