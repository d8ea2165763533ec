import Mathlib.Data.List.TakeWhile
import LivePages.Proofs.Markdown.SafeMarkup

/-! Addresses as a browser reads them, against the addresses that are blanked. A browser drops tabs
and line ends anywhere and controls in front, so an address whose scheme is veiled by such a
character is kept although it names a scheme that could run a script; every other one is blanked. -/

namespace LivePages.Markdown

/-! ### Two readings of an address -/

/-- Characters that a browser does not drop wherever they stand. -/
def isKept (c : Char) : Bool :=
  c != '\t' && c != '\n' && c != '\r'

/-- Controls and the space, which a browser drops in front. -/
def isControl (c : Char) : Bool :=
  c ≤ ' '

def cleaned (s : List Char) : List Char :=
  (s.filter isKept).dropWhile isControl

def browserReading (url : String) : List Char :=
  (cleaned url.toList).map Char.toLower

def beginsWithOne (words : List String) (s : List Char) : Bool :=
  words.any fun w => w.toList.isPrefixOf s

/-- Whether a browser finds a scheme that could run a script. -/
def namesScript (url : String) : Bool :=
  beginsWithOne ["javascript:", "vbscript:", "file:"] (browserReading url) ||
    (beginsWithOne ["data:"] (browserReading url) &&
      !beginsWithOne ["data:image/png", "data:image/gif", "data:image/jpeg", "data:image/webp"]
        (browserReading url))

/-- Whether, after blanks in front, a control or space stands before the first colon. -/
def isVeiled (url : String) : Bool :=
  ((Text.dropBlank url.toList).takeWhile (· != ':')).any isControl

theorem beginsWithOne_iff {words : List String} {s : List Char} :
    beginsWithOne words s = true ↔ ∃ w ∈ words, w.toList <+: s := by
  simp [beginsWithOne]

/-- The first of a list of words and the first of another cannot both stand in front. -/
theorem not_beginsWithOne {words others : List String} {s : List Char}
    (hne : ∀ w ∈ words, ∀ v ∈ others, ¬ w.toList <+: v.toList ∧ ¬ v.toList <+: w.toList)
    (h : beginsWithOne words s = true) : beginsWithOne others s = false := by
  rw [Bool.eq_false_iff]
  intro h'
  obtain ⟨w, hw, hws⟩ := beginsWithOne_iff.1 h
  obtain ⟨v, hv, hvs⟩ := beginsWithOne_iff.1 h'
  rcases List.prefix_or_prefix_of_prefix hws hvs with hp | hp
  · exact (hne w hw v hv).1 hp
  · exact (hne w hw v hv).2 hp

/-- Only addresses given in place have safe forms. -/
theorem namesScript_iff {url : String} :
    namesScript url = true ↔ beginsWithOne unsafeSchemes (browserReading url) = true ∧
      beginsWithOne safeData (browserReading url) = false := by
  have hsplit : beginsWithOne unsafeSchemes (browserReading url) =
      (beginsWithOne ["javascript:", "vbscript:", "file:"] (browserReading url) ||
        beginsWithOne ["data:"] (browserReading url)) := by
    simp [beginsWithOne, unsafeSchemes, Bool.or_assoc]
  have hscript : beginsWithOne ["javascript:", "vbscript:", "file:"] (browserReading url) = true →
      beginsWithOne safeData (browserReading url) = false :=
    not_beginsWithOne (by decide)
  rw [hsplit, namesScript, ← safeData]
  cases hs : beginsWithOne ["javascript:", "vbscript:", "file:"] (browserReading url) with
  | true => simp [hscript hs]
  | false => simp

/-! ### Letters and controls -/

/-- Only a capital letter is changed, and becomes another letter. -/
theorem toLower_cases (c : Char) :
    c.toLower = c ∨ (0x41 ≤ c.toNat ∧ c.toNat ≤ 0x5A ∧ c.toLower.toNat = c.toNat + 32) := by
  unfold Char.toLower
  split
  · rename_i h
    have h1 : 0x41 ≤ c.val.toNat := h.1
    have h2 : c.val.toNat ≤ 0x5A := h.2
    refine .inr ⟨h1, h2, ?_⟩
    change (c.val + ('a'.val - 'A'.val)).toNat = c.val.toNat + 32
    rw [UInt32.toNat_add, show ('a'.val - 'A'.val).toNat = 32 from rfl]
    omega
  · exact .inl rfl

theorem toLower_eq_colon {c : Char} : c.toLower = ':' ↔ c = ':' := by
  rcases toLower_cases c with h | ⟨h1, h2, h3⟩
  · rw [h]
  · have hcolon : (':').toNat = 0x3A := rfl
    constructor
    · intro h
      rw [h] at h3
      omega
    · rintro rfl
      rfl

theorem isControl_iff {c : Char} : isControl c = true ↔ c.toNat ≤ 0x20 := by
  simp only [isControl, decide_eq_true_eq, Char.le_def, UInt32.le_iff_toNat_le]
  rfl

theorem isControl_toLower (c : Char) : isControl c.toLower = isControl c := by
  rcases toLower_cases c with h | ⟨h1, h2, h3⟩
  · rw [h]
  · rw [Bool.eq_iff_iff, isControl_iff, isControl_iff]
    omega

theorem toLower_of_isBlank {c : Char} (h : Text.isBlank c = true) : c.toLower = c := by
  rcases toLower_cases c with hc | ⟨h1, h2, -⟩
  · exact hc
  · simp only [Text.isBlank, Bool.or_eq_true, Bool.and_eq_true, beq_iff_eq, decide_eq_true_eq] at h
    omega

theorem isKept_of_not_isControl {c : Char} (h : isControl c = false) : isKept c = true := by
  unfold isKept
  simp only [Bool.and_eq_true, bne_iff_ne]
  refine ⟨⟨?_, ?_⟩, ?_⟩ <;> rintro rfl <;> exact absurd h (by decide)

/-! ### Cleaned text -/

/-- Text without controls in front stays, up to the tabs and line ends after it. -/
theorem cleaned_append {x : List Char} (hne : x ≠ []) (hx : ∀ c ∈ x, isControl c = false)
    (r : List Char) : cleaned (x ++ r) = x ++ r.filter isKept := by
  have hkept : x.filter isKept = x :=
    List.filter_eq_self.2 fun c hc => isKept_of_not_isControl (hx c hc)
  cases x with
  | nil => exact absurd rfl hne
  | cons c x =>
    rw [cleaned, List.filter_append, hkept, List.cons_append, List.dropWhile_cons_of_neg]
    simp [hx c List.mem_cons_self]

theorem cleaned_of_clear {s : List Char} (h : ∀ c ∈ s, isControl c = false) : cleaned s = s := by
  by_cases hs : s = []
  · rw [hs]
    rfl
  · simpa using cleaned_append hs h []

theorem cleaned_cons_of_isControl {c : Char} (h : isControl c = true) (s : List Char) :
    cleaned (c :: s) = cleaned s := by
  unfold cleaned
  rw [List.filter_cons]
  split
  · rw [List.dropWhile_cons_of_pos h]
  · rfl

/-- Both readings drop the blanks in front, but for those that are no controls. -/
theorem cleaned_dropBlank (s : List Char) :
    cleaned s = cleaned (Text.dropBlank s) ∨
      ∃ c r, cleaned s = c :: r ∧ Text.isBlank c = true ∧ isControl c = false := by
  induction s with
  | nil => exact .inl rfl
  | cons c s ih =>
    cases hb : Text.isBlank c with
    | false =>
      left
      rw [Text.dropBlank, List.dropWhile_cons_of_neg]
      simp [hb]
    | true =>
      have hdrop : Text.dropBlank (c :: s) = Text.dropBlank s := List.dropWhile_cons_of_pos hb
      cases hc : isControl c with
      | true =>
        rw [cleaned_cons_of_isControl hc, hdrop]
        exact ih
      | false =>
        refine .inr ⟨c, s.filter isKept, ?_, hb, hc⟩
        exact cleaned_append (List.cons_ne_nil c []) (List.forall_mem_singleton.2 hc) s

/-! ### Words in front of a text -/

/-- Words without controls, such as the schemes. -/
def IsWord (w : List Char) : Prop :=
  w ≠ [] ∧ ∀ c ∈ w, isControl c = false

instance (w : List Char) : Decidable (IsWord w) :=
  decidable_of_iff (w ≠ [] ∧ w.all (fun c => !isControl c) = true) (by simp [IsWord])

/-- What stands in front of a text in one reading does so in the other. -/
theorem prefix_cleaned {w s : List Char} (hw : IsWord w) (h : w <+: s.map Char.toLower) :
    w <+: (cleaned s).map Char.toLower := by
  obtain ⟨r, hr⟩ := h
  obtain ⟨x, y, rfl, hx, rfl⟩ := List.map_eq_append_iff.1 hr.symm
  have hcontrol : ∀ c ∈ x, isControl c = false := by
    intro c hc
    rw [← isControl_toLower]
    exact hw.2 _ (hx ▸ List.mem_map_of_mem hc)
  have hne : x ≠ [] := by
    rintro rfl
    exact hw.1 hx.symm
  rw [cleaned_append hne hcontrol, List.map_append, hx]
  exact List.prefix_append _ _

theorem takeWhile_map_toLower (s : List Char) :
    (s.map Char.toLower).takeWhile (· != ':') = (s.takeWhile (· != ':')).map Char.toLower := by
  rw [List.takeWhile_map]
  congr 2
  funext c
  simp only [Function.comp_apply, bne, beq_eq_decide, toLower_eq_colon]

theorem takeWhile_colon {x : List Char} (hx : ':' ∉ x) (r : List Char) :
    (x ++ ':' :: r).takeWhile (· != ':') = x :=
  Text.takeWhile_append_rest (Text.bne_of_not_mem hx) (by simp)

/-- A word and a colon stand in front of a text if the text up to its first colon is the word. -/
theorem word_prefix_iff {w s : List Char} (hw : ':' ∉ w) :
    w ++ [':'] <+: s ↔ s.takeWhile (· != ':') = w ∧ ':' ∈ s := by
  constructor
  · rintro ⟨r, rfl⟩
    rw [List.append_assoc, List.singleton_append]
    exact ⟨takeWhile_colon hw r, by simp⟩
  · rintro ⟨rfl, hmem⟩
    obtain ⟨x, r, rfl, hx⟩ := List.eq_append_cons_of_mem hmem
    rw [takeWhile_colon hx]
    exact ⟨r, by simp⟩

section Scheme

variable {w s : List Char} (hw : ':' ∉ w)

include hw

/-- A scheme that stands in front as written is not veiled. -/
theorem not_veiled_of_prefix (hword : IsWord w)
    (h : w ++ [':'] <+: s.map Char.toLower) : (s.takeWhile (· != ':')).any isControl = false := by
  obtain ⟨htake, -⟩ := (word_prefix_iff hw).1 h
  rw [takeWhile_map_toLower] at htake
  rw [List.any_eq_false]
  intro c hc
  have hlower := hword.2 _ (htake ▸ List.mem_map_of_mem hc)
  rw [isControl_toLower] at hlower
  simp [hlower]

/-- A scheme that a browser finds and nothing veils stands in front as written. -/
theorem prefix_of_not_veiled (hveil : (s.takeWhile (· != ':')).any isControl = false)
    (h : w ++ [':'] <+: (cleaned s).map Char.toLower) : w ++ [':'] <+: s.map Char.toLower := by
  have hclear : ∀ c ∈ s.takeWhile (· != ':'), isControl c = false := by
    intro c hc
    simpa using List.any_eq_false.1 hveil c hc
  by_cases hmem : ':' ∈ s
  · obtain ⟨x, r, rfl, hx⟩ := List.eq_append_cons_of_mem hmem
    rw [takeWhile_colon hx] at hclear
    have hfront : ∀ c ∈ x ++ [':'], isControl c = false :=
      List.forall_mem_append.2 ⟨hclear, List.forall_mem_singleton.2 (by decide)⟩
    have hcleaned : cleaned (x ++ ':' :: r) = x ++ ':' :: r.filter isKept := by
      have happend := cleaned_append (by simp) hfront r
      rwa [List.append_assoc, List.append_assoc, List.singleton_append, List.singleton_append]
        at happend
    rw [hcleaned] at h
    obtain ⟨htake, -⟩ := (word_prefix_iff hw).1 h
    rw [takeWhile_map_toLower, takeWhile_colon hx] at htake
    rw [← htake]
    exact ⟨r.map Char.toLower, by simp⟩
  · have hall : s.takeWhile (· != ':') = s := by
      rw [List.takeWhile_eq_self_iff]
      intro c hc
      rw [bne_iff_ne]
      rintro rfl
      exact hmem hc
    rw [hall] at hclear
    rwa [cleaned_of_clear hclear] at h

end Scheme

/-! ### Blanked addresses -/

/-- A scheme is a word and the colon after it. -/
theorem scheme_of_mem_unsafeSchemes {v : String} (hv : v ∈ unsafeSchemes) :
    ∃ w, v.toList = w ++ [':'] ∧ ':' ∉ w ∧ IsWord w := by
  refine ⟨v.toList.dropLast, ?_⟩
  revert v
  decide

theorem isWord_of_mem {v : String} (hv : v ∈ unsafeSchemes ++ safeData) : IsWord v.toList := by
  revert v
  decide

/-- Blanks other than controls are in no word. -/
theorem not_mem_word {c : Char} (hb : Text.isBlank c = true) (hc : isControl c = false) {v : String}
    (hv : v ∈ unsafeSchemes ++ safeData) : c ∉ v.toList := by
  have hascii : ∀ v ∈ unsafeSchemes ++ safeData, v.toList.all (·.toNat < 0x7F) = true := by decide
  intro hmem
  have hlow : c.toNat < 0x7F := of_decide_eq_true (List.all_eq_true.1 (hascii v hv) c hmem)
  rw [Bool.eq_false_iff, ne_eq, isControl_iff] at hc
  simp only [Text.isBlank, Bool.or_eq_true, Bool.and_eq_true, beq_iff_eq, decide_eq_true_eq] at hb
  omega

/-- A browser that finds a word reads on from the first character that is no blank. -/
theorem browserReading_of_prefix {url v : String} (hv : v ∈ unsafeSchemes ++ safeData)
    (h : v.toList <+: browserReading url) :
    browserReading url = (cleaned (Text.dropBlank url.toList)).map Char.toLower := by
  rcases cleaned_dropBlank url.toList with hsame | ⟨c, r, hcr, hb, hc⟩
  · rw [browserReading, hsame]
  · exfalso
    rw [browserReading, hcr, List.map_cons, toLower_of_isBlank hb] at h
    obtain ⟨hne, -⟩ := isWord_of_mem hv
    obtain ⟨d, w, hdw⟩ := List.exists_cons_of_ne_nil hne
    rw [hdw, List.cons_prefix_cons] at h
    exact not_mem_word hb hc hv (hdw ▸ h.1 ▸ List.mem_cons_self)

theorem beginsWithAny_eq (words : List String) (url : String) :
    beginsWithAny words url =
      beginsWithOne words ((Text.dropBlank url.toList).map Char.toLower) :=
  rfl

theorem isVeiled_of_kept {url : String} (hnames : namesScript url = true)
    (hkept : beginsWithAny unsafeSchemes url = false ∨ beginsWithAny safeData url = true) :
    isVeiled url = true := by
  obtain ⟨hscheme, hsafe⟩ := namesScript_iff.1 hnames
  obtain ⟨v, hv, hprefix⟩ := beginsWithOne_iff.1 hscheme
  have hreading := browserReading_of_prefix (List.mem_append_left _ hv) hprefix
  rw [hreading] at hprefix hsafe
  rcases hkept with hkept | hkept
  · -- nothing veils the scheme, so it is found as written
    by_contra hveil
    rw [Bool.not_eq_true] at hveil
    obtain ⟨w, hvw, hw, -⟩ := scheme_of_mem_unsafeSchemes hv
    rw [hvw] at hprefix
    have hwritten := prefix_of_not_veiled hw hveil hprefix
    rw [← hvw] at hwritten
    rw [beginsWithAny_eq, beginsWithOne_iff.2 ⟨v, hv, hwritten⟩] at hkept
    cases hkept
  · -- a safe form found as written is found by a browser too
    rw [beginsWithAny_eq] at hkept
    obtain ⟨u, hu, hwritten⟩ := beginsWithOne_iff.1 hkept
    have hfound := prefix_cleaned (isWord_of_mem (List.mem_append_right _ hu)) hwritten
    rw [beginsWithOne_iff.2 ⟨u, hu, hfound⟩] at hsafe
    cases hsafe

theorem not_veiled_of_blanked {url : String} (h : beginsWithAny unsafeSchemes url = true) :
    isVeiled url = false := by
  rw [beginsWithAny_eq] at h
  obtain ⟨v, hv, hwritten⟩ := beginsWithOne_iff.1 h
  obtain ⟨w, hvw, hw, hword⟩ := scheme_of_mem_unsafeSchemes hv
  rw [hvw] at hwritten
  exact not_veiled_of_prefix hw hword hwritten

/-- After blanking, exactly the veiled addresses name a scheme that could run a script. -/
theorem namesScript_sanitizeUrl (url : String) :
    namesScript (sanitizeUrl url) = (namesScript url && isVeiled url) := by
  unfold sanitizeUrl
  split
  · rename_i hblanked
    rw [Bool.and_eq_true] at hblanked
    rw [not_veiled_of_blanked hblanked.1, Bool.and_false]
    decide
  · rename_i hkept
    cases hnames : namesScript url with
    | false => rfl
    | true =>
      rw [isVeiled_of_kept hnames]
      · rfl
      · cases hu : beginsWithAny unsafeSchemes url with
        | false => exact .inl rfl
        | true =>
          rw [hu] at hkept
          simpa using hkept

/-! ### Addresses in markup -/

/-- The values that a browser takes for addresses. -/
def attributeAddresses (a : Markup.Attributes) : List String :=
  (a.filter fun p => p.1 == "href" || p.1 == "src").map (·.2)

def lexemeAddresses : Markup.Lexeme → List String
  | .opening _ a => attributeAddresses a
  | .empty _ a => attributeAddresses a
  | _ => []

def addressesIn (ls : List Markup.Lexeme) : List String :=
  ls.flatMap lexemeAddresses

def Kind.address? : Kind → Option String
  | .link url _ => some url
  | .image url _ => some url
  | _ => none

/-- Kinds that are written with their children. -/
def Kind.showsChildren : Kind → Bool
  | .image _ _ => false
  | .codeBlock _ _ => false
  | .thematicBreak => false
  | .rawHtml => false
  | .text _ => false
  | .code _ => false
  | .softBreak => false
  | .lineBreak => false
  | _ => true

mutual

/-- The addresses of links and images in what is shown of a document. -/
def Node.addresses : Node → List String
  | .mk kind _ cs => kind.address?.toList ++ if kind.showsChildren then addressesAll cs else []

def addressesAll : List Node → List String
  | [] => []
  | n :: r => n.addresses ++ addressesAll r

end

/-- The addresses in what is written for some tokens. -/
def writtenAddresses (ts : List Markup.Token) : List String :=
  addressesIn (ts.flatMap Markup.Token.lexemes)

theorem writtenAddresses_append (ts us : List Markup.Token) :
    writtenAddresses (ts ++ us) = writtenAddresses ts ++ writtenAddresses us := by
  simp [writtenAddresses, addressesIn]

theorem writtenAddresses_text (s : String) : writtenAddresses [.text s] = [] := by
  simp [writtenAddresses, addressesIn, Markup.Token.lexemes, List.flatMap_map, lexemeAddresses]

theorem writtenAddresses_lineFeed : writtenAddresses [Markup.lineFeed] = [] :=
  writtenAddresses_text "\n"

theorem writtenAddresses_wrapped (tag : String) (a : Markup.Attributes) (ts : List Markup.Token) :
    writtenAddresses (wrapped tag a ts) = attributeAddresses a ++ writtenAddresses ts := by
  simp [wrapped, writtenAddresses, addressesIn, Markup.Token.lexemes, lexemeAddresses]

theorem writtenAddresses_empty (tag : String) (a : Markup.Attributes) (ts : List Markup.Token) :
    writtenAddresses (.empty tag a :: ts) = attributeAddresses a ++ writtenAddresses ts := by
  simp [writtenAddresses, addressesIn, Markup.Token.lexemes, lexemeAddresses]

theorem attributeAddresses_append (a b : Markup.Attributes) :
    attributeAddresses (a ++ b) = attributeAddresses a ++ attributeAddresses b := by
  simp [attributeAddresses]

theorem attributeAddresses_titleAttribute (title : String) :
    attributeAddresses (titleAttribute title) = [] := by
  unfold titleAttribute
  split <;> rfl

theorem attributeAddresses_decorated (k : Kind) : attributeAddresses (decorated k []) = [] := by
  cases k <;> rfl

theorem attributeAddresses_start (shown : Bool) (start : Nat) :
    attributeAddresses (if shown then [("start", toString start)] else []) = [] := by
  cases shown <;> rfl

theorem attributeAddresses_language (info : String) :
    attributeAddresses ((language? info).elim [] fun w => [("class", "language-" ++ w)]) = [] := by
  cases language? info <;> rfl

mutual

theorem writtenAddresses_tokens : ∀ (n : Node) (tight : Bool), n.Every IsRendered →
    writtenAddresses (tokens tight n) = n.addresses.map sanitizeUrl
  | .mk kind attrs cs, tight, h => by
    obtain ⟨⟨-, rfl⟩, below⟩ := h
    have hcs := fun tight => writtenAddresses_tokensAll cs tight below
    have hblock : ∀ (tag : String) (k : Kind) (tight : Bool),
        writtenAddresses (wrapped tag (decorated k []) (tokensAll tight cs) ++ [Markup.lineFeed]) =
          (addressesAll cs).map sanitizeUrl := by
      intro tag k tight
      rw [writtenAddresses_append, writtenAddresses_wrapped, attributeAddresses_decorated,
        writtenAddresses_lineFeed, hcs, List.nil_append, List.append_nil]
    have hspan : ∀ (tag : String) (k : Kind) (tight : Bool),
        writtenAddresses (wrapped tag (decorated k []) (tokensAll tight cs)) =
          (addressesAll cs).map sanitizeUrl := by
      intro tag k tight
      rw [writtenAddresses_wrapped, attributeAddresses_decorated, hcs, List.nil_append]
    cases kind <;> rw [tokens, Node.addresses]
    case document => exact hcs tight
    case paragraph =>
      cases tight with
      | true => exact hcs true
      | false => exact hblock "p" .paragraph false
    case heading level => exact hblock _ (.heading level) tight
    case item => exact hblock "li" .item tight
    case emph => exact hspan "em" .emph tight
    case strong => exact hspan "strong" .strong tight
    case blockQuote =>
      rw [writtenAddresses_append, writtenAddresses_wrapped, attributeAddresses_decorated,
        ← List.singleton_append, writtenAddresses_append, writtenAddresses_lineFeed, hcs,
        List.nil_append, List.nil_append, List.append_nil]
      rfl
    case list ordered start listTight =>
      rw [writtenAddresses_append, writtenAddresses_wrapped, attributeAddresses_append,
        attributeAddresses_start, attributeAddresses_decorated, ← List.singleton_append,
        writtenAddresses_append, writtenAddresses_lineFeed, hcs, List.nil_append, List.nil_append,
        List.nil_append, List.append_nil]
      rfl
    case codeBlock info literal =>
      rw [writtenAddresses_append, writtenAddresses_wrapped, attributeAddresses_decorated,
        writtenAddresses_wrapped, attributeAddresses_language, writtenAddresses_text,
        writtenAddresses_lineFeed]
      rfl
    case thematicBreak =>
      rw [writtenAddresses_empty, attributeAddresses_decorated, writtenAddresses_lineFeed]
      rfl
    case rawHtml => rfl
    case text s => exact writtenAddresses_text s
    case code s =>
      rw [writtenAddresses_wrapped, attributeAddresses_decorated, writtenAddresses_text]
      rfl
    case softBreak => exact writtenAddresses_lineFeed
    case lineBreak =>
      rw [writtenAddresses_empty, writtenAddresses_lineFeed]
      rfl
    case link url title =>
      have hattrs : attributeAddresses (("href", sanitizeUrl url) :: titleAttribute title ++
          decorated (.link url title) []) = [sanitizeUrl url] := by
        rw [attributeAddresses_append, attributeAddresses_decorated, List.append_nil,
          ← List.singleton_append, attributeAddresses_append, attributeAddresses_titleAttribute]
        rfl
      rw [writtenAddresses_wrapped, hattrs, hcs]
      rfl
    case image url title =>
      have hattrs : attributeAddresses (("src", sanitizeUrl url) ::
          ("alt", Node.textContents cs) :: titleAttribute title ++ decorated (.image url title) []) =
            [sanitizeUrl url] := by
        have halt : attributeAddresses (("alt", Node.textContents cs) :: titleAttribute title) = [] :=
          attributeAddresses_titleAttribute title
        rw [attributeAddresses_append, attributeAddresses_decorated, List.append_nil,
          ← List.singleton_append, attributeAddresses_append, halt]
        rfl
      rw [writtenAddresses_empty, hattrs]
      rfl

theorem writtenAddresses_tokensAll : ∀ (ns : List Node) (tight : Bool),
    (∀ n ∈ ns, n.Every IsRendered) →
      writtenAddresses (tokensAll tight ns) = (addressesAll ns).map sanitizeUrl
  | [], _, _ => rfl
  | n :: r, tight, h => by
    obtain ⟨hn, hr⟩ := List.forall_mem_cons.1 h
    rw [tokensAll, addressesAll, writtenAddresses_append, writtenAddresses_tokens n tight hn,
      writtenAddresses_tokensAll r tight hr, List.map_append]

end

mutual

theorem addresses_map (f : Kind → Markup.Attributes → Markup.Attributes) :
    ∀ n : Node, (n.map fun k a => (k, f k a)).addresses = n.addresses
  | .mk kind attrs cs => by rw [Node.map, Node.addresses, Node.addresses, addressesAll_map f cs]

theorem addressesAll_map (f : Kind → Markup.Attributes → Markup.Attributes) :
    ∀ ns : List Node, addressesAll (Node.mapAll (fun k a => (k, f k a)) ns) = addressesAll ns
  | [] => rfl
  | n :: r => by rw [Node.mapAll, addressesAll, addressesAll, addresses_map f n, addressesAll_map f r]

end

/-! ### Rendered texts -/

/-- `html` is what is rendered of a document: of a text's, or of that of a tree of supported
constructs. -/
def IsRenderedAs (n : Node) (html : String) : Prop :=
  (∃ source, read source = .ok n ∧ tryRender source = .ok html) ∨
    ∃ t, Tree.Every Construct.IsLevelled t ∧ Node.ofTree? t = .ok n ∧ n.decorate.toHtml = html

/-- No address in some markup names a scheme that could run a script. -/
def NamesNoScript (html : String) : Prop :=
  ∃ ls, Markup.read html = some ls ∧ ∀ url ∈ addressesIn ls, namesScript url = false

instance (html : String) : Decidable (NamesNoScript html) :=
  decidable_of_iff ((Markup.read html).any (fun ls => (addressesIn ls).all (!namesScript ·)) = true)
    (by simp [NamesNoScript, Option.any_eq_true])

theorem mem_map_sanitizeUrl {us : List String} {url : String} (h : namesScript url = true) :
    url ∈ us.map sanitizeUrl ↔ url ∈ us ∧ isVeiled url = true := by
  have hkept : ∀ u, namesScript (sanitizeUrl u) = true → sanitizeUrl u = u ∧ isVeiled u = true := by
    intro u hu
    have hboth := hu
    rw [namesScript_sanitizeUrl, Bool.and_eq_true] at hboth
    refine ⟨?_, hboth.2⟩
    unfold sanitizeUrl at hu ⊢
    split
    · rename_i hblanked
      rw [if_pos hblanked] at hu
      exact absurd hu (by decide)
    · rfl
  constructor
  · intro hmem
    obtain ⟨u, hu, rfl⟩ := List.mem_map.1 hmem
    obtain ⟨hsame, hveiled⟩ := hkept u h
    rw [hsame]
    exact ⟨hu, hveiled⟩
  · rintro ⟨hmem, hveiled⟩
    refine List.mem_map.2 ⟨url, hmem, (hkept url ?_).1⟩
    rw [namesScript_sanitizeUrl, h, hveiled]
    rfl

theorem IsRenderedAs.read_eq {n : Node} {html : String} (h : IsRenderedAs n html) :
    ∃ ls, Markup.read html = some ls ∧ addressesIn ls = n.addresses.map sanitizeUrl := by
  have hplain : n.IsPlain ∧ n.decorate.toHtml = html := by
    rcases h with ⟨source, hn, hhtml⟩ | ⟨t, ht, hn, hhtml⟩
    · obtain ⟨m, hm, hwritten, hplain⟩ := plain_of_tryRender hhtml
      rw [hn] at hm
      cases hm
      exact ⟨hplain, hwritten⟩
    · exact ⟨isPlain_of_tree ht hn, hhtml⟩
  obtain ⟨hplain, rfl⟩ := hplain
  refine ⟨_, (sound_tokens n.decorate false hplain.decorate).read.reads, ?_⟩
  have hwritten := writtenAddresses_tokens n.decorate false hplain.decorate
  rw [Node.decorate_eq_map, addresses_map, ← Node.decorate_eq_map] at hwritten
  exact hwritten

/-- What is rendered names no scheme that could run a script exactly if no such address of the
document is veiled; those that do are the veiled ones. -/
theorem shown_scripts_are_veiled (n : Node) (html : String) (h : IsRenderedAs n html) :
    (NamesNoScript html ↔ ∀ url ∈ n.addresses, namesScript url = true → isVeiled url = false) ∧
    ∃ ls, Markup.read html = some ls ∧ ∀ url, namesScript url = true →
      (url ∈ addressesIn ls ↔ url ∈ n.addresses ∧ isVeiled url = true) := by
  obtain ⟨ls, hread, haddresses⟩ := h.read_eq
  have hshown : ∀ url, namesScript url = true →
      (url ∈ addressesIn ls ↔ url ∈ n.addresses ∧ isVeiled url = true) := by
    intro url hnames
    rw [haddresses]
    exact mem_map_sanitizeUrl hnames
  refine ⟨⟨?_, fun hclear => ⟨ls, hread, ?_⟩⟩, ls, hread, hshown⟩
  · rintro ⟨ls', hread', hnone⟩ url hmem hnames
    rw [hread] at hread'
    cases hread'
    rw [Bool.eq_false_iff]
    intro hveiled
    have hshows := hnone url ((hshown url hnames).2 ⟨hmem, hveiled⟩)
    rw [hnames] at hshows
    cases hshows
  · intro url hmem
    rw [Bool.eq_false_iff]
    intro hnames
    obtain ⟨hin, hveiled⟩ := (hshown url hnames).1 hmem
    rw [hclear url hin hnames] at hveiled
    cases hveiled

/-- A text, and a tree with a line end in a scheme. -/
theorem shown_scripts_are_veiled_line_end :
    (∃ n, read "[a](javascript:x)" = .ok n ∧
      (NamesNoScript
          "<p><a href=\"\" target=\"_blank\" rel=\"noopener noreferrer\">a</a></p>\n" ↔
        ∀ url ∈ n.addresses, namesScript url = true → isVeiled url = false)) ∧
    ∃ n, Node.ofTree? (.mk .document [.mk (.image "jav\nascript:x" "") []]) = .ok n ∧
      ¬ NamesNoScript n.decorate.toHtml := by
  constructor
  · have hrender : tryRender "[a](javascript:x)" =
        .ok "<p><a href=\"\" target=\"_blank\" rel=\"noopener noreferrer\">a</a></p>\n" :=
      eq_ok_of_toOption (by decide +kernel)
    obtain ⟨n, hn, -⟩ := plain_of_tryRender hrender
    exact ⟨n, hn, (shown_scripts_are_veiled n _ (.inl ⟨_, hn, hrender⟩)).1⟩
  · have himage : (Tree.mk (.image "jav\nascript:x" "") []).Every Construct.IsLevelled :=
      .mk trivial (List.forall_mem_nil _)
    have hdocument : (Tree.mk .document [.mk (.image "jav\nascript:x" "") []]).Every
        Construct.IsLevelled := .mk trivial (List.forall_mem_singleton.2 himage)
    refine ⟨_, rfl, fun hnone => ?_⟩
    have hclear := (shown_scripts_are_veiled _ _ (.inr ⟨_, hdocument, rfl, rfl⟩)).1.1 hnone
    exact absurd (hclear "jav\nascript:x" List.mem_cons_self (by decide)) (by decide)

/-- A control in front of the scheme: a browser drops it and runs the script. -/
theorem script_behind_control :
    ∃ html, tryRender "[x](<&#1;javascript:x>)" = .ok html ∧ ¬ NamesNoScript html :=
  ⟨"<p><a href=\"\x01javascript:x\" target=\"_blank\" rel=\"noopener noreferrer\">x</a></p>\n",
    eq_ok_of_toOption (by decide +kernel), by decide +kernel⟩

end LivePages.Markdown
