import LivePages.Markup.Token
import LivePages.Proofs.Text.Split

/-! A strict reader of markup, and its agreement with the writer. Every `<` has to begin a whole
tag or comment, and a value ends at the first `"` after its opening one. `read_write` says that
tokens with plain names are read back as they were written, whatever strings they carry: a string
never ends its token early, nor runs into the next. -/

namespace LivePages.Markup

/-- What a reader meets: a decoded character of text, a tag with decoded values, or a comment. -/
inductive Lexeme
  | char (c : Char)
  | opening (tag : String) (attrs : Attributes)
  | closing (tag : String)
  | empty (tag : String) (attrs : Attributes)
  | comment (s : String)
  deriving DecidableEq, Repr

/-- The lexemes that a token stands for. -/
def Token.lexemes : Token → List Lexeme
  | .opening tag attrs => [.opening tag attrs]
  | .closing tag => [.closing tag]
  | .empty tag attrs => [.empty tag attrs]
  | .text s => s.toList.map .char
  | .comment s => [.comment s]

/-! ### The reader -/

/-- Replaces the five escapes, once. An `&` that begins none of them is refused. -/
def decode? : List Char → Option (List Char)
  | [] => some []
  | '&' :: 'l' :: 't' :: ';' :: r => (decode? r).map ('<' :: ·)
  | '&' :: 'g' :: 't' :: ';' :: r => (decode? r).map ('>' :: ·)
  | '&' :: 'a' :: 'm' :: 'p' :: ';' :: r => (decode? r).map ('&' :: ·)
  | '&' :: 'a' :: 'p' :: 'o' :: 's' :: ';' :: r => (decode? r).map ('\'' :: ·)
  | '&' :: 'q' :: 'u' :: 'o' :: 't' :: ';' :: r => (decode? r).map ('"' :: ·)
  | c :: r => if c = '&' then none else (decode? r).map (c :: ·)

/-- Characters of tag and attribute names. -/
def isNameChar (c : Char) : Bool :=
  0x20 < c.toNat && c.toNat != 0x7F && !"\"'<>/=!".toList.contains c

/-- A name at the front of a text, and the rest. -/
def name? (s : List Char) : Option (String × List Char) :=
  match s.takeWhile isNameChar with
  | [] => none
  | w => some (String.ofList w, s.dropWhile isNameChar)

/-- A value after its opening quote, and the rest after the first quote that follows. -/
def value? (s : List Char) : Option (String × List Char) :=
  match s.dropWhile (· != '"') with
  | [] => none
  | _ :: r => (decode? (s.takeWhile (· != '"'))).map fun v => (String.ofList v, r)

/-- An attribute after the space in front of it. -/
def attribute? (s : List Char) : Option ((String × String) × List Char) :=
  match name? s with
  | some (k, '=' :: '"' :: r) => (value? r).map fun (v, r) => ((k, v), r)
  | _ => none

/-- Attributes up to the end of a tag: whether it closes itself, and the rest. At most `n` of them
are read. -/
def attributes? : Nat → List Char → Option (Attributes × Bool × List Char)
  | _, '>' :: r => some ([], false, r)
  | _, '/' :: '>' :: r => some ([], true, r)
  | n + 1, ' ' :: r =>
    match attribute? r with
    | some (p, r') => (attributes? n r').map fun (a, end_) => (p :: a, end_)
    | none => none
  | _, _ => none

/-- A comment's text after its opening, and the rest. -/
def commentText? : List Char → Option (List Char × List Char)
  | [] => none
  | '-' :: '-' :: '>' :: r => some ([], r)
  | c :: r => (commentText? r).map fun (s, r) => (c :: s, r)

/-- What a `<` begins, from the text after it, and the rest. -/
def markup? : List Char → Option (Lexeme × List Char)
  | '!' :: '-' :: '-' :: r => (commentText? r).map fun (s, r) => (.comment (String.ofList s), r)
  | '/' :: r =>
    match name? r with
    | some (tag, '>' :: r) => some (.closing tag, r)
    | _ => none
  | s =>
    match name? s with
    | none => none
    | some (tag, r) =>
      (attributes? r.length r).map fun (a, closed, r) =>
        (if closed then .empty tag a else .opening tag a, r)

def characters? (s : List Char) : Option (List Lexeme) :=
  (decode? s).map (·.map .char)

/-- The text between a `<` and the next: what it begins, and characters. -/
def piece? (s : List Char) : Option (List Lexeme) :=
  match markup? s with
  | none => none
  | some (l, r) => (characters? r).map (l :: ·)

/-- Pieces in order, each of which a `<` begins. -/
def pieces? : List (List Char) → Option (List Lexeme)
  | [] => some []
  | p :: ps => (piece? p).bind fun l => (pieces? ps).map (l ++ ·)

def readChars (s : List Char) : Option (List Lexeme) :=
  match Text.splitOn '<' s with
  | [] => some []
  | p :: ps => (characters? p).bind fun l => (pieces? ps).map (l ++ ·)

/-- The lexemes of a text, if all of it is markup. -/
def read (s : String) : Option (List Lexeme) :=
  readChars s.toList

/-! ### Escaped text -/

/-- A character as it is written in text and values. -/
def escapedChar (c : Char) : List Char :=
  (Text.xmlEscapes c).elim [c] String.toList

def escaped (s : List Char) : List Char :=
  s.flatMap escapedChar

theorem toList_escapeXml (s : String) : (Text.escapeXml s).toList = escaped s.toList := by
  rw [Text.escapeXml, Text.escapeWith, String.toList_ofList]
  rfl

theorem escapedChar_cases (c : Char) :
    (c = '<' ∧ escapedChar c = ['&', 'l', 't', ';']) ∨ (c = '>' ∧ escapedChar c = ['&', 'g', 't', ';']) ∨
    (c = '&' ∧ escapedChar c = ['&', 'a', 'm', 'p', ';']) ∨
    (c = '\'' ∧ escapedChar c = ['&', 'a', 'p', 'o', 's', ';']) ∨
    (c = '"' ∧ escapedChar c = ['&', 'q', 'u', 'o', 't', ';']) ∨
    (c ≠ '<' ∧ c ≠ '&' ∧ c ≠ '"' ∧ escapedChar c = [c]) := by
  unfold escapedChar Text.xmlEscapes
  split <;> simp_all

theorem decode?_escapedChar (c : Char) (u : List Char) :
    decode? (escapedChar c ++ u) = (decode? u).map (c :: ·) := by
  rcases escapedChar_cases c with
    ⟨rfl, h⟩ | ⟨rfl, h⟩ | ⟨rfl, h⟩ | ⟨rfl, h⟩ | ⟨rfl, h⟩ | ⟨-, hand, -, h⟩ <;> rw [h]
  · rfl
  · rfl
  · rfl
  · rfl
  · rfl
  · rw [List.singleton_append, decode?]
    · rw [if_neg hand]
    all_goals intro r hc; exact absurd hc hand

theorem decode?_escaped (s u : List Char) :
    decode? (escaped s ++ u) = (decode? u).map (s ++ ·) := by
  induction s with
  | nil => simp [escaped]
  | cons c r ih =>
    rw [escaped, List.flatMap_cons, List.append_assoc, decode?_escapedChar]
    rw [escaped] at ih
    rw [ih]
    cases decode? u <;> rfl

theorem not_mem_escaped {d : Char} (hd : d = '<' ∨ d = '"') (s : List Char) : d ∉ escaped s := by
  intro h
  obtain ⟨c, -, hc⟩ := List.mem_flatMap.1 h
  rcases escapedChar_cases c with
    ⟨-, e⟩ | ⟨-, e⟩ | ⟨-, e⟩ | ⟨-, e⟩ | ⟨-, e⟩ | ⟨hlt, -, hq, e⟩ <;> rw [e] at hc
  case inr.inr.inr.inr.inr =>
    rw [List.mem_singleton] at hc
    rcases hd with rfl | rfl
    · exact hlt hc.symm
    · exact hq hc.symm
  all_goals rcases hd with rfl | rfl <;> revert hc <;> decide

/-! ### Names, values and attributes -/

/-- A name that can stand in a tag. -/
def IsPlainName (s : String) : Prop :=
  s.toList ≠ [] ∧ ∀ c ∈ s.toList, isNameChar c = true

instance (k : String) : Decidable (IsPlainName k) :=
  decidable_of_iff (k.toList ≠ [] ∧ k.toList.all isNameChar = true)
    (by rw [IsPlainName, List.all_eq_true])

theorem name?_append {k : String} (hk : IsPlainName k) {d : Char} (hd : isNameChar d = false)
    (r : List Char) : name? (k.toList ++ d :: r) = some (k, d :: r) := by
  have hrest : ∀ c ∈ (d :: r).head?, isNameChar c = false := by simpa using hd
  rw [name?, Text.takeWhile_append_rest hk.2 hrest, Text.dropWhile_append_rest hk.2 hrest]
  split
  · exact absurd ‹_› hk.1
  · rw [String.ofList_toList]

theorem value?_escaped (v : String) (r : List Char) :
    value? (escaped v.toList ++ '"' :: r) = some (v, r) := by
  have hv : ∀ c ∈ escaped v.toList, (c != '"') = true :=
    Text.bne_of_not_mem (not_mem_escaped (Or.inr rfl) v.toList)
  have hd : decode? (escaped v.toList) = some v.toList := by
    have := decode?_escaped v.toList []
    simpa [decode?] using this
  rw [value?, Text.takeWhile_append_rest hv (by simp), Text.dropWhile_append_rest hv (by simp)]
  simp [hd]

/-- An attribute as it is written, without the space in front of it. -/
def attributeChars (p : String × String) : List Char :=
  p.1.toList ++ '=' :: '"' :: (escaped p.2.toList ++ ['"'])

def attributesChars (a : Attributes) : List Char :=
  a.flatMap fun p => ' ' :: attributeChars p

theorem toList_attributesText (a : Attributes) : (attributesText a).toList = attributesChars a := by
  rw [attributesText, String.toList_join, attributesChars, List.flatMap_map]
  congr 1
  funext p
  simp [attributeText, attributeChars, toList_escapeXml]

theorem attribute?_attributeChars {p : String × String} (hp : IsPlainName p.1) (r : List Char) :
    attribute? (attributeChars p ++ r) = some (p, r) := by
  have hn : name? (attributeChars p ++ r) =
      some (p.1, '=' :: '"' :: (escaped p.2.toList ++ '"' :: r)) := by
    rw [attributeChars, List.append_assoc]
    simpa using name?_append hp (d := '=') (by decide) ('"' :: (escaped p.2.toList ++ '"' :: r))
  rw [attribute?, hn]
  simp only
  rw [value?_escaped]
  rfl

theorem attributes?_attributesChars {a : Attributes} (ha : ∀ p ∈ a, IsPlainName p.1)
    {n : Nat} (hn : a.length ≤ n) (r : List Char) :
    attributes? n (attributesChars a ++ '>' :: r) = some (a, false, r) ∧
    attributes? n (attributesChars a ++ '/' :: '>' :: r) = some (a, true, r) := by
  induction a generalizing n with
  | nil => cases n <;> exact ⟨rfl, rfl⟩
  | cons p a ih =>
    obtain ⟨m, rfl⟩ : ∃ m, n = m + 1 := ⟨n - 1, by simp at hn; omega⟩
    have hp := ha p List.mem_cons_self
    obtain ⟨ih1, ih2⟩ := ih (fun q hq => ha q (List.mem_cons_of_mem _ hq)) (n := m) (by simpa using hn)
    simp only [attributesChars, List.flatMap_cons, List.cons_append, List.append_assoc] at ih1 ih2 ⊢
    constructor
    · rw [attributes?, attribute?_attributeChars hp]
      simp only [ih1, Option.map_some]
    · rw [attributes?, attribute?_attributeChars hp]
      simp only [ih2, Option.map_some]

/-! ### Tokens -/

/-- A token whose names are plain, and whose comment keeps clear of its own end. -/
def Token.IsPlain : Token → Prop
  | .opening tag attrs => IsPlainName tag ∧ ∀ p ∈ attrs, IsPlainName p.1
  | .empty tag attrs => IsPlainName tag ∧ ∀ p ∈ attrs, IsPlainName p.1
  | .closing tag => IsPlainName tag
  | .text _ => True
  | .comment s => '<' ∉ s.toList ∧ '-' ∉ s.toList

theorem IsPlainName.not_mem {s : String} (h : IsPlainName s) : '<' ∉ s.toList :=
  fun hm => absurd (h.2 _ hm) (by decide)

theorem not_mem_attributesChars {a : Attributes} (ha : ∀ p ∈ a, IsPlainName p.1) :
    '<' ∉ attributesChars a := by
  intro h
  obtain ⟨p, hp, hc⟩ := List.mem_flatMap.1 h
  have hk := (ha p hp).not_mem
  have hv := not_mem_escaped (Or.inl rfl) p.2.toList
  simp [attributeChars, hk, hv] at hc

theorem length_le_attributesChars (a : Attributes) (r : List Char) :
    a.length ≤ (attributesChars a ++ r).length := by
  induction a with
  | nil => simp
  | cons p a ih =>
    simp only [attributesChars, List.flatMap_cons, List.length_append, List.length_cons] at ih ⊢
    omega

theorem commentText?_append {s : List Char} (hs : '-' ∉ s) (r : List Char) :
    commentText? (s ++ '-' :: '-' :: '>' :: r) = some (s, r) := by
  induction s with
  | nil => rfl
  | cons c s ih =>
    rw [List.cons_append, commentText?, ih fun h => hs (List.mem_cons_of_mem _ h)]
    · rfl
    · intro u hc
      exact absurd (hc ▸ List.mem_cons_self) hs

theorem markup?_tag {tag : String} (ht : IsPlainName tag) (u : List Char) :
    markup? (tag.toList ++ u) = (name? (tag.toList ++ u)).bind fun (tag, r) =>
      (attributes? r.length r).map fun (a, closed, r) =>
        (if closed then .empty tag a else .opening tag a, r) := by
  obtain ⟨c, cs, hc⟩ : ∃ c cs, tag.toList = c :: cs := List.exists_cons_of_ne_nil ht.1
  have hname := ht.2 c (hc ▸ List.mem_cons_self)
  rw [hc, List.cons_append, markup?]
  · cases name? (c :: (cs ++ u)) <;> rfl
  · intro r h
    obtain ⟨rfl, -⟩ := List.cons.inj h
    exact absurd hname (by decide)
  · intro r h
    obtain ⟨rfl, -⟩ := List.cons.inj h
    exact absurd hname (by decide)

/-- A tag's name ends where its attributes begin, or at the tag's end. -/
theorem name?_tag {tag : String} (ht : IsPlainName tag) (a : Attributes) {d : Char}
    (hd : isNameChar d = false) (r : List Char) :
    name? (tag.toList ++ (attributesChars a ++ d :: r)) = some (tag, attributesChars a ++ d :: r) := by
  cases a with
  | nil => exact name?_append ht hd r
  | cons p a =>
    exact name?_append ht (d := ' ') (by decide) (attributeChars p ++ attributesChars a ++ d :: r)

theorem markup?_opening {tag : String} {a : Attributes} (ht : IsPlainName tag)
    (ha : ∀ p ∈ a, IsPlainName p.1) (r : List Char) :
    markup? (tag.toList ++ (attributesChars a ++ '>' :: r)) = some (.opening tag a, r) := by
  rw [markup?_tag ht, name?_tag ht a (by decide)]
  simp only [Option.bind_some]
  rw [(attributes?_attributesChars ha (length_le_attributesChars a _) r).1]
  rfl

theorem markup?_empty {tag : String} {a : Attributes} (ht : IsPlainName tag)
    (ha : ∀ p ∈ a, IsPlainName p.1) (r : List Char) :
    markup? (tag.toList ++ (attributesChars a ++ '/' :: '>' :: r)) = some (.empty tag a, r) := by
  rw [markup?_tag ht, name?_tag ht a (by decide)]
  simp only [Option.bind_some]
  rw [(attributes?_attributesChars ha (length_le_attributesChars a _) r).2]
  rfl

theorem markup?_closing {tag : String} (ht : IsPlainName tag) (r : List Char) :
    markup? ('/' :: (tag.toList ++ '>' :: r)) = some (.closing tag, r) := by
  rw [markup?, name?_append ht (by decide)]
  rfl

theorem markup?_comment {s : String} (hs : '-' ∉ s.toList) (r : List Char) :
    markup? ('!' :: '-' :: '-' :: (s.toList ++ '-' :: '-' :: '>' :: r)) = some (.comment s, r) := by
  rw [markup?, commentText?_append hs]
  simp

/-! ### Pieces -/

theorem characters?_escaped (a p : List Char) :
    characters? (escaped a ++ p) = (characters? p).map (a.map .char ++ ·) := by
  rw [characters?, decode?_escaped, characters?]
  cases decode? p <;> simp

theorem readChars_text (a s : List Char) :
    readChars (escaped a ++ s) = (readChars s).map (a.map .char ++ ·) := by
  obtain ⟨p, ps, hs⟩ := Text.splitOn_eq_cons '<' s
  rw [readChars, readChars, hs, Text.splitOn_append (not_mem_escaped (Or.inl rfl) a) hs]
  simp only [characters?_escaped]
  cases characters? p <;> cases pieces? ps <;> simp

/-- Markup without a `<` of its own is one piece with the text after it. -/
theorem readChars_markup {body : List Char} {l : Lexeme} (hb : '<' ∉ body)
    (hm : ∀ r, markup? (body ++ r) = some (l, r)) (s : List Char) :
    readChars ('<' :: (body ++ s)) = (readChars s).map (l :: ·) := by
  obtain ⟨p, ps, hs⟩ := Text.splitOn_eq_cons '<' s
  rw [readChars, readChars, hs, Text.splitOn, if_pos rfl, Text.splitOn_append hb hs]
  have hp : piece? (body ++ p) = (characters? p).map (l :: ·) := by rw [piece?, hm]
  have he : characters? [] = some [] := rfl
  simp only [he, pieces?, hp, Option.bind_some]
  cases characters? p <;> cases pieces? ps <;> simp

/-- Each token is read off the front of what is written. -/
theorem readChars_token {t : Token} (ht : t.IsPlain) (s : List Char) :
    readChars (t.write.toList ++ s) = (readChars s).map (t.lexemes ++ ·) := by
  cases t with
  | text a =>
    simpa only [Token.write, Token.lexemes, toList_escapeXml] using readChars_text a.toList s
  | opening tag a =>
    obtain ⟨hn, ha⟩ := ht
    have hb : '<' ∉ tag.toList ++ (attributesChars a ++ ['>']) := by
      simp [hn.not_mem, not_mem_attributesChars ha]
    have hm := readChars_markup hb (fun r => by simpa using markup?_opening hn ha r) s
    simpa [Token.write, Token.lexemes, toList_attributesText] using hm
  | empty tag a =>
    obtain ⟨hn, ha⟩ := ht
    have hb : '<' ∉ tag.toList ++ (attributesChars a ++ ['/', '>']) := by
      simp [hn.not_mem, not_mem_attributesChars ha]
    have hm := readChars_markup hb (fun r => by simpa using markup?_empty hn ha r) s
    simpa [Token.write, Token.lexemes, toList_attributesText] using hm
  | closing tag =>
    have hn : IsPlainName tag := ht
    have hb : '<' ∉ '/' :: (tag.toList ++ ['>']) := by simp [hn.not_mem]
    have hm := readChars_markup hb (fun r => by simpa using markup?_closing hn r) s
    simpa [Token.write, Token.lexemes] using hm
  | comment c =>
    obtain ⟨hlt, hdash⟩ := ht
    have hb : '<' ∉ '!' :: '-' :: '-' :: (c.toList ++ ['-', '-', '>']) := by simp [hlt]
    have hm := readChars_markup hb (fun r => by simpa using markup?_comment hdash r) s
    simpa [Token.write, Token.lexemes] using hm

/-- What is written is read back as the lexemes of its tokens. -/
theorem read_write {ts : List Token} (h : ∀ t ∈ ts, t.IsPlain) :
    read (write ts) = some (ts.flatMap Token.lexemes) := by
  have hw : (write ts).toList = ts.flatMap (fun t => t.write.toList) := by
    rw [write, String.toList_join, List.flatMap_map]
  rw [read, hw]
  clear hw
  induction ts with
  | nil => rfl
  | cons t ts ih =>
    rw [List.flatMap_cons, readChars_token (h t List.mem_cons_self),
      ih fun u hu => h u (List.mem_cons_of_mem _ hu)]
    rfl

end LivePages.Markup
