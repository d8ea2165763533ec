import Mathlib.Tactic.SplitIfs
import LivePages.Proofs.Markup.Reading

/-! The language of rendered documents: balanced tags of a fixed list, with attributes of a fixed
list. Tokens that are sound are read back as markup of this language, and putting sound tokens
together or between a pair of tags leaves them sound. -/

namespace LivePages.Markup

/-! ### The safe language -/

/-- Tags that stand in pairs. -/
def pairedTags : List String :=
  ["p", "h1", "h2", "h3", "h4", "h5", "h6", "blockquote", "ol", "ul", "li", "pre", "code", "em",
    "strong", "a"]

/-- Tags that close themselves. -/
def lonelyTags : List String :=
  ["hr", "br", "img"]

def permittedKeys (tag : String) : List String :=
  if tag = "a" then ["href", "title", "target", "rel"]
  else if tag = "img" then ["src", "alt", "title"]
  else if tag = "blockquote" then ["class"]
  else if tag = "ol" then ["start"]
  else if tag = "code" then ["class"]
  else []

/-- A class that names one language. -/
def IsLanguageClass (v : String) : Prop :=
  ∃ w : String, v = "language-" ++ w ∧ w.toList ≠ [] ∧ ∀ c ∈ w.toList, Text.isBlank c = false

structure Attributes.Permitted (tag : String) (a : Attributes) : Prop where
  known : ∀ k ∈ a.keys, k ∈ permittedKeys tag
  once : a.keys.Nodup
  language : tag = "code" → ∀ p ∈ a, IsLanguageClass p.2

def Lexeme.Permitted : Lexeme → Prop
  | .char _ => True
  | .opening tag a => tag ∈ pairedTags ∧ a.Permitted tag
  | .closing tag => tag ∈ pairedTags
  | .empty tag a => tag ∈ lonelyTags ∧ a.Permitted tag
  | .comment s => s = " raw HTML omitted "

/-- The tags left open, innermost first, if each end tag closes the innermost one. -/
def leftOpen : List String → List Lexeme → Option (List String)
  | tags, [] => some tags
  | tags, .opening tag _ :: r => leftOpen (tag :: tags) r
  | tag :: tags, .closing tag' :: r => if tag' = tag then leftOpen tags r else none
  | [], .closing _ :: _ => none
  | tags, .char _ :: r => leftOpen tags r
  | tags, .empty _ _ :: r => leftOpen tags r
  | tags, .comment _ :: r => leftOpen tags r

/-- `html` is markup of the safe language with these lexemes. -/
structure Safe (html : String) (ls : List Lexeme) : Prop where
  reads : read html = some ls
  permitted : ∀ l ∈ ls, l.Permitted
  balanced : leftOpen [] ls = some []

/-- A tag without the values of its attributes. -/
def Lexeme.tag? : Lexeme → Option Lexeme
  | .char _ => none
  | .opening tag a => some (.opening tag (a.map fun p => (p.1, "")))
  | .closing tag => some (.closing tag)
  | .empty tag a => some (.empty tag (a.map fun p => (p.1, "")))
  | .comment s => some (.comment s)

/-- The tags and comments in order, without values and text. -/
def outline (ls : List Lexeme) : List Lexeme :=
  ls.filterMap Lexeme.tag?

/-! ### Sound token lists -/

theorem leftOpen_chars (tags : List String) (cs : List Char) (r : List Lexeme) :
    leftOpen tags (cs.map .char ++ r) = leftOpen tags r := by
  induction cs with
  | nil => rfl
  | cons c cs ih => cases tags <;> exact ih

theorem isPlainName_of_mem_pairedTags {tag : String} (h : tag ∈ pairedTags) : IsPlainName tag := by
  revert tag
  decide

theorem isPlainName_of_mem_lonelyTags {tag : String} (h : tag ∈ lonelyTags) : IsPlainName tag := by
  revert tag
  decide

def attributeKeys : List String :=
  ["href", "title", "target", "rel", "src", "alt", "class", "start"]

theorem permittedKeys_subset (tag : String) : permittedKeys tag ⊆ attributeKeys := by
  unfold permittedKeys
  split_ifs <;> decide

theorem isPlainName_of_mem_permittedKeys {tag k : String} (h : k ∈ permittedKeys tag) :
    IsPlainName k := by
  have hplain : ∀ k ∈ attributeKeys, IsPlainName k := by decide
  exact hplain k (permittedKeys_subset tag h)

/-- Tokens that can be read back, are permitted, and close every tag that they open. -/
structure Sound (ts : List Token) : Prop where
  plain : ∀ t ∈ ts, t.IsPlain
  permitted : ∀ l ∈ ts.flatMap Token.lexemes, l.Permitted
  balanced : ∀ tags r, leftOpen tags (ts.flatMap Token.lexemes ++ r) = leftOpen tags r

namespace Sound

theorem nil : Sound [] :=
  ⟨by simp, by simp, fun _ _ => rfl⟩

theorem append {ts us : List Token} (ht : Sound ts) (hu : Sound us) : Sound (ts ++ us) := by
  refine ⟨?_, ?_, ?_⟩
  · intro t h
    rcases List.mem_append.1 h with h | h
    · exact ht.plain t h
    · exact hu.plain t h
  · intro l h
    rw [List.flatMap_append] at h
    rcases List.mem_append.1 h with h | h
    · exact ht.permitted l h
    · exact hu.permitted l h
  · intro tags r
    rw [List.flatMap_append, List.append_assoc, ht.balanced, hu.balanced]

theorem text (s : String) : Sound [.text s] := by
  refine ⟨?_, ?_, ?_⟩
  · intro t h
    rw [List.mem_singleton.1 h]
    trivial
  · intro l h
    simp only [List.flatMap_singleton, Token.lexemes, List.mem_map] at h
    obtain ⟨c, -, rfl⟩ := h
    trivial
  · intro tags r
    rw [List.flatMap_singleton]
    exact leftOpen_chars tags s.toList r

theorem comment : Sound [.comment " raw HTML omitted "] := by
  refine ⟨?_, ?_, ?_⟩
  · intro t h
    rw [List.mem_singleton.1 h, Token.IsPlain]
    decide
  · intro l h
    rw [List.flatMap_singleton, Token.lexemes, List.mem_singleton] at h
    rw [h]
    rfl
  · intro tags r
    cases tags <;> rfl

theorem empty {tag : String} {a : Attributes} (ht : tag ∈ lonelyTags) (ha : a.Permitted tag) :
    Sound [.empty tag a] := by
  refine ⟨?_, ?_, ?_⟩
  · intro t h
    rw [List.mem_singleton.1 h]
    refine ⟨isPlainName_of_mem_lonelyTags ht, fun p hp => ?_⟩
    exact isPlainName_of_mem_permittedKeys (ha.known p.1 (List.mem_map_of_mem hp))
  · intro l h
    rw [List.flatMap_singleton, Token.lexemes, List.mem_singleton] at h
    rw [h]
    exact ⟨ht, ha⟩
  · intro tags r
    cases tags <;> rfl

theorem wrapped {tag : String} {a : Attributes} {ts : List Token} (ht : tag ∈ pairedTags)
    (ha : a.Permitted tag) (h : Sound ts) : Sound (.opening tag a :: ts ++ [.closing tag]) := by
  have hn := isPlainName_of_mem_pairedTags ht
  refine ⟨?_, ?_, ?_⟩
  · intro t hm
    simp only [List.cons_append, List.mem_cons, List.mem_append,
      List.not_mem_nil, or_false] at hm
    rcases hm with rfl | hm | rfl
    · refine ⟨hn, fun p hp => ?_⟩
      exact isPlainName_of_mem_permittedKeys (ha.known p.1 (List.mem_map_of_mem hp))
    · exact h.plain t hm
    · exact hn
  · intro l hm
    simp only [List.cons_append, List.flatMap_cons, List.flatMap_append,
      Token.lexemes, List.flatMap_nil, List.append_nil, List.nil_append, List.mem_cons,
      List.mem_append, List.not_mem_nil, or_false] at hm
    rcases hm with rfl | hm | rfl
    · exact ⟨ht, ha⟩
    · exact h.permitted l hm
    · exact ht
  · intro tags r
    simp only [List.cons_append, List.flatMap_cons, List.flatMap_append,
      Token.lexemes, List.flatMap_nil, List.append_nil, List.nil_append, List.append_assoc,
      leftOpen, h.balanced, if_true]

theorem lineFeed : Sound [Markup.lineFeed] :=
  text "\n"

theorem read {ts : List Token} (h : Sound ts) : Safe (write ts) (ts.flatMap Token.lexemes) :=
  ⟨read_write h.plain, h.permitted, by simpa [leftOpen] using h.balanced [] []⟩

end Sound

/-! ### Outlines of tokens -/

/-- The outline of what is written for some tokens. -/
def outlineOf (ts : List Token) : List Lexeme :=
  outline (ts.flatMap Token.lexemes)

theorem outlineOf_append (ts us : List Token) :
    outlineOf (ts ++ us) = outlineOf ts ++ outlineOf us := by
  simp [outlineOf, outline]

theorem outlineOf_cons (t : Token) (ts : List Token) :
    outlineOf (t :: ts) = outline t.lexemes ++ outlineOf ts := by
  simp [outlineOf, outline]

@[simp] theorem outline_text (s : String) : outline (Token.lexemes (.text s)) = [] := by
  rw [outline, List.filterMap_eq_nil_iff]
  intro l hl
  obtain ⟨c, -, rfl⟩ := List.mem_map.1 hl
  rfl

/-- A list of attributes without the values. -/
def unvalued (a : Attributes) : Attributes :=
  a.map fun p => (p.1, "")

theorem outlineOf_element (tag : String) (a : Attributes) (ts : List Token) :
    outlineOf (.opening tag a :: ts ++ [.closing tag]) =
      .opening tag (unvalued a) :: (outlineOf ts ++ [.closing tag]) := by
  simp [outlineOf, outline, Token.lexemes, Lexeme.tag?, unvalued]

theorem unvalued_cons (k v : String) (a : Attributes) :
    unvalued ((k, v) :: a) = (k, "") :: unvalued a :=
  rfl

theorem unvalued_append (a b : Attributes) : unvalued (a ++ b) = unvalued a ++ unvalued b :=
  List.map_append

theorem outlineOf_empty (tag : String) (a : Attributes) (ts : List Token) :
    outlineOf (.empty tag a :: ts) = .empty tag (unvalued a) :: outlineOf ts :=
  rfl

end LivePages.Markup
