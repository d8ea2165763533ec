/-!
The lexical forms of markdown: character classes, markup tags, link destinations and titles. A
recogniser takes the text that follows and gives the rest after the form, or nothing.
-/

namespace LivePages.Markdown

/-- The blanks between words: space, tab and line ends, but no other control character. -/
def isSpace (c : Char) : Bool :=
  c == ' ' || c == '\t' || c == '\n' || c == '\r'

/-- The blanks inside markup tags and around destinations; the vertical tab and the form feed are
two of them. -/
def isTagSpace (c : Char) : Bool :=
  isSpace c || c == '\x0b' || c == '\x0c'

def isBlankOrTab (c : Char) : Bool :=
  c == ' ' || c == '\t'

def isLineEnd (c : Char) : Bool :=
  c == '\n' || c == '\r'

/-- The printable ASCII characters that are neither letters, digits nor the space. -/
def isAsciiPunctuation (c : Char) : Bool :=
  let n := c.toNat
  (33 ≤ n && n ≤ 47) || (58 ≤ n && n ≤ 64) || (91 ≤ n && n ≤ 96) || (123 ≤ n && n ≤ 126)

def trimEnd (s : List Char) : List Char :=
  (s.reverse.dropWhile isSpace).reverse

def trim (s : List Char) : List Char :=
  trimEnd (s.dropWhile isSpace)

/-- Whether nothing, or a line end, follows. -/
def atLineEnd (s : List Char) : Bool :=
  s.head?.all isLineEnd

/-- Whether nothing but blanks and tabs stands before the line's end. -/
def blankToLineEnd (s : List Char) : Bool :=
  atLineEnd (s.dropWhile isBlankOrTab)

/-- Removes a word from the front, letters compared without case. -/
def dropWord? : List Char → List Char → Option (List Char)
  | [], s => some s
  | w :: ws, c :: r => if w.toLower == c.toLower then dropWord? ws r else none
  | _ :: _, [] => none

def beginsWith (w : String) (s : List Char) : Bool :=
  w.toList.isPrefixOf s

/-- Whether the word occurs anywhere, letters compared without case. -/
def holds (w : List Char) : List Char → Bool
  | [] => w.isEmpty
  | c :: r => (dropWord? w (c :: r)).isSome || holds w r

/-- Replaces each backslash before ASCII punctuation by what it protects. -/
def unescape : List Char → List Char
  | [] => []
  | [c] => [c]
  | c :: d :: r =>
    if c == '\\' && isAsciiPunctuation d then d :: unescape r else c :: unescape (d :: r)

/-! ### Tags -/

def tagName? : List Char → Option (List Char)
  | c :: r =>
    if c.isAlpha then some (r.dropWhile fun c => c.isAlphanum || c == '-') else none
  | [] => none

def attributeName? : List Char → Option (List Char)
  | c :: r =>
    if c.isAlpha || c == '_' || c == ':' then
      some (r.dropWhile fun c => c.isAlphanum || c == ':' || c == '.' || c == '_' || c == '-')
    else none
  | [] => none

/-- The rest after the closing `q`. -/
def quoted? (q : Char) (r : List Char) : Option (List Char) :=
  match r.dropWhile (· != q) with
  | _ :: r' => some r'
  | [] => none

def isUnquoted (c : Char) : Bool :=
  !(isTagSpace c || c == '"' || c == '\'' || c == '=' || c == '<' || c == '>' || c == '`')

def attributeValue? : List Char → Option (List Char)
  | '\'' :: r => quoted? '\'' r
  | '"' :: r => quoted? '"' r
  | c :: r => if isUnquoted c then some (r.dropWhile isUnquoted) else none
  | [] => none

/-- An optional `=` and value; nothing when the `=` has no value. -/
def valuePart? (s : List Char) : Option (List Char) :=
  match s.dropWhile isTagSpace with
  | '=' :: r => attributeValue? (r.dropWhile isTagSpace)
  | _ => some s

/-- The attributes of a start tag and its end. -/
def attributes? : Nat → List Char → Option (List Char)
  | 0, _ => none
  | n + 1, s =>
    match s.dropWhile isTagSpace with
    | '>' :: r => some r
    | '/' :: '>' :: r => some r
    | t =>
      if t.length < s.length then
        match (attributeName? t).bind valuePart? with
        | some r => attributes? n r
        | none => none
      else none

def openTag? (s : List Char) : Option (List Char) :=
  (tagName? s).bind fun r => attributes? (r.length + 1) r

def closeTag? : List Char → Option (List Char)
  | '/' :: r =>
    match (tagName? r).map (·.dropWhile isTagSpace) with
    | some ('>' :: r') => some r'
    | _ => none
  | _ => none

/-- The rest of a comment after `<!--`. Hyphens are read from the left, one or two together with
the character after them. -/
def commentEnd? : List Char → Option (List Char)
  | [] => none
  | '-' :: '-' :: '>' :: r => some r
  | '-' :: '-' :: _ :: r => commentEnd? r
  | '-' :: _ :: r => commentEnd? r
  | c :: r => if c == '-' then none else commentEnd? r

/-- The rest of a character data section after `<![CDATA[`. One or two closing brackets are read
together with the character after them. -/
def cdataEnd? : List Char → Option (List Char)
  | [] => none
  | ']' :: ']' :: '>' :: r => some r
  | ']' :: ']' :: _ :: r => cdataEnd? r
  | ']' :: _ :: r => cdataEnd? r
  | c :: r => if c == ']' then none else cdataEnd? r

/-- The rest of an instruction after `<?`. A question mark is read together with the character
after it. -/
def instructionEnd? : List Char → Option (List Char)
  | [] => none
  | '?' :: '>' :: r => some r
  | '?' :: _ :: r => instructionEnd? r
  | c :: r => if c == '?' then none else instructionEnd? r

/-- What follows the name of a declaration: capitals, then blanks. -/
def declarationBody? (s : List Char) : Option (List Char) :=
  let r := s.dropWhile Char.isUpper
  let r' := r.dropWhile isTagSpace
  if r.length < s.length && r'.length < r.length then some r' else none

def declarationEnd? (s : List Char) : Option (List Char) :=
  match s.dropWhile (· != '>') with
  | _ :: r => some r
  | [] => none

/-- The forms of inline markup that are read up to a mark of their own. -/
inductive SoughtEnd
  | comment
  | cdata
  | declaration
  | instruction
  deriving DecidableEq, Repr

/-- What stands after a `<`: markup with the rest after it, a form that has no end, or neither. -/
inductive InlineMarkup
  | found (rest : List Char)
  | endless (form : SoughtEnd)
  | absent

def InlineMarkup.ofEnd (form : SoughtEnd) : Option (List Char) → InlineMarkup
  | some rest => .found rest
  | none => .endless form

/-- Markup after its `<`. A form that was endless once is not sought again, and after an endless
comment nothing that begins with `!` is. -/
def inlineMarkup (endless : List SoughtEnd) (s : List Char) : InlineMarkup :=
  match s with
  | '!' :: r =>
    if endless.contains .comment then .absent
    else
      match r with
      | '-' :: '-' :: '>' :: t => .found t
      | '-' :: '-' :: '-' :: '>' :: t => .found t
      | '-' :: '-' :: t => .ofEnd .comment (commentEnd? t)
      | '[' :: t =>
        if endless.contains .cdata || !beginsWith "CDATA[" t then .absent
        else .ofEnd .cdata (cdataEnd? (t.drop 6))
      | _ =>
        match (if endless.contains .declaration then none else declarationBody? r) with
        | some t => .ofEnd .declaration (declarationEnd? t)
        | none => .absent
  | '?' :: r =>
    if endless.contains .instruction then .absent else .ofEnd .instruction (instructionEnd? r)
  | _ =>
    match (openTag? s).orElse fun _ => closeTag? s with
    | some t => .found t
    | none => .absent

/-! ### Addresses in angle brackets -/

def isSchemeChar (c : Char) : Bool :=
  c.isAlphanum || c == '.' || c == '+' || c == '-'

/-- The address up to `>`, with a scheme of 2 to 32 characters. -/
def uriBetweenAngles? (s : List Char) : Option (List Char × List Char) :=
  let scheme := s.takeWhile isSchemeChar
  if scheme.head?.any Char.isAlpha && 2 ≤ scheme.length && scheme.length ≤ 32 then
    match s.dropWhile isSchemeChar with
    | ':' :: r =>
      let good := fun (c : Char) => (32 < c.toNat || c == '\x00') && c != '<' && c != '>'
      match r.dropWhile good with
      | '>' :: r' => some (scheme ++ ':' :: r.takeWhile good, r')
      | _ => none
    | _ => none
  else none

def isMailboxChar (c : Char) : Bool :=
  c.isAlphanum || ".!#$%&'*+/=?^_`\x7b|\x7d~-".toList.contains c

/-- A label of a domain: letters, digits and inner hyphens, at most 63. -/
def isDomainLabel (l : List Char) : Bool :=
  l.head?.any Char.isAlphanum && l.getLast?.any Char.isAlphanum && l.length ≤ 63

def isDomainChar (c : Char) : Bool :=
  c.isAlphanum || c == '-' || c == '.'

def splitDots : List Char → List (List Char)
  | [] => [[]]
  | c :: r =>
    match splitDots r with
    | [] => [[c]]
    | p :: ps => if c == '.' then [] :: p :: ps else (c :: p) :: ps

def mailBetweenAngles? (s : List Char) : Option (List Char × List Char) :=
  let box := s.takeWhile isMailboxChar
  match box, s.dropWhile isMailboxChar with
  | _ :: _, '@' :: r =>
    let domain := r.takeWhile isDomainChar
    match r.dropWhile isDomainChar with
    | '>' :: r' =>
      if (splitDots domain).all isDomainLabel then some (box ++ '@' :: domain, r') else none
    | _ => none
  | _, _ => none

/-! ### Destinations and titles -/

/-- A destination in angle brackets after its `<`. It must not end the text. -/
def pointyDestination? (done : List Char) : List Char → Option (List Char × List Char)
  | [] => none
  | '>' :: r => if r.isEmpty then none else some (done.reverse, r)
  | ['\\'] => none
  | '\\' :: c :: r => pointyDestination? (c :: '\\' :: done) r
  | c :: r => if isLineEnd c || c == '<' then none else pointyDestination? (c :: done) r

/-- Where a destination without brackets ends: at a blank or a control character other than U+0000.
-/
def endsBare (c : Char) : Bool :=
  isSpace c || (c.toNat < 32 && c != '\x00') || c.toNat == 127

/-- A destination up to a blank or control character; its parentheses balance, at most 32 deep. -/
def bareDestination? (depth : Nat) (done : List Char) : List Char → Option (List Char × List Char)
  | [] => if depth == 0 then some (done.reverse, []) else none
  | '\\' :: c :: r =>
    if isAsciiPunctuation c then bareDestination? depth (c :: '\\' :: done) r
    else bareDestination? depth ('\\' :: done) (c :: r)
  | '(' :: r => if depth < 32 then bareDestination? (depth + 1) ('(' :: done) r else none
  | ')' :: r =>
    if depth == 0 then some (done.reverse, ')' :: r)
    else bareDestination? (depth - 1) (')' :: done) r
  | c :: r =>
    if endsBare c then (if depth == 0 then some (done.reverse, c :: r) else none)
    else bareDestination? depth (c :: done) r

def destination? : List Char → Option (List Char × List Char)
  | [] => none
  | '<' :: r => pointyDestination? [] r
  | c :: r => if endsBare c then none else bareDestination? 0 [] (c :: r)

/-- The length of a title whose opening mark was read. A mark after a backslash closes it only if
no later one does. -/
def titleEnd? (mark : Char) (escaped : Bool) (at_ : Nat) (best : Option Nat) :
    List Char → Option Nat
  | [] => best
  | c :: r =>
    if c == mark then
      if escaped then titleEnd? mark false (at_ + 1) (some (at_ + 1)) r else some (at_ + 1)
    else if mark == ')' && c == '(' && !escaped then best
    else titleEnd? mark (c == '\\') (at_ + 1) best r

/-- A quoted or parenthesised title with its marks. -/
def title? (s : List Char) : Option (List Char × List Char) :=
  let closing : Option Char :=
    match s.head? with
    | some '"' => some '"'
    | some '\'' => some '\''
    | some '(' => some ')'
    | _ => none
  match closing with
  | none => none
  | some mark => (titleEnd? mark false 1 none (s.drop 1)).map fun n => (s.take n, s.drop n)

/-! ### Block starts -/

/-- The marker length of a fence: three or more of the mark; no backtick may follow a fence of
backticks on its line. -/
def fenceStart? (s : List Char) : Option (Char × Nat) :=
  match s.head? with
  | none => none
  | some c =>
    let n := (s.takeWhile (· == c)).length
    if n < 3 then none
    else if c == '~' then some ('~', n)
    else if c == '`' && !((s.drop n).takeWhile (fun c => !isLineEnd c)).contains '`' then
      some ('`', n)
    else none

/-- The marker length of a closing fence. -/
def fenceEnd? (mark : Char) (s : List Char) : Option Nat :=
  let n := (s.takeWhile (· == mark)).length
  if 3 ≤ n && blankToLineEnd (s.drop n) then some n else none

/-- The level of a heading marked by `#`, and the rest of its line. -/
def hashHeading? (s : List Char) : Option (Nat × List Char) :=
  let n := (s.takeWhile (· == '#')).length
  let r := s.drop n
  if 1 ≤ n && n ≤ 6 then
    match r with
    | [] => some (n, [])
    | c :: _ =>
      if isLineEnd c then some (n, r)
      else if isBlankOrTab c then some (n, r.dropWhile isBlankOrTab)
      else none
  else none

/-- The level that an underline gives to the paragraph above it. -/
def underline? (s : List Char) : Option Nat :=
  match s.head? with
  | some '=' => if blankToLineEnd (s.dropWhile (· == '=')) then some 1 else none
  | some '-' => if blankToLineEnd (s.dropWhile (· == '-')) then some 2 else none
  | _ => none

/-- Three or more of one mark, with blanks between, up to the line's end. -/
def isThematicBreak (s : List Char) : Bool :=
  match s.head? with
  | none => false
  | some c =>
    let line := s.takeWhile fun c => !isLineEnd c
    (c == '*' || c == '_' || c == '-') && line.all (fun d => d == c || isBlankOrTab d) &&
      3 ≤ line.count c

/-- Tags whose lines begin a block of markup up to a blank line. -/
def blockTags : List String :=
  ["address", "article", "aside", "base", "basefont", "blockquote", "body", "caption", "center",
   "col", "colgroup", "dd", "details", "dialog", "dir", "div", "dl", "dt", "fieldset",
   "figcaption", "figure", "footer", "form", "frame", "frameset", "h1", "h2", "h3", "h4", "h5",
   "h6", "head", "header", "hr", "html", "iframe", "legend", "li", "link", "main", "menu",
   "menuitem", "nav", "noframes", "ol", "optgroup", "option", "p", "param", "search", "section",
   "summary", "table", "tbody", "td", "tfoot", "th", "thead", "title", "tr", "track", "ul"]

/-- Tags whose contents are not markup. -/
def literalTags : List String :=
  ["script", "pre", "textarea", "style"]

/-- The ways a block of markup begins, each with its own end. -/
inductive MarkupBlock
  | literalTag
  | comment
  | instruction
  | declaration
  | cdata
  | blockTag
  | anyTag
  deriving DecidableEq, Repr

def afterWords (words : List String) (s : List Char) (good : List Char → Bool) : Bool :=
  words.any fun w => (dropWord? w.toList s).any good

def startsTagSpace (s : List Char) : Bool :=
  s.head?.any isTagSpace

def markupBlock? (s : List Char) : Option MarkupBlock :=
  match s with
  | '<' :: r =>
    if afterWords literalTags r fun t => startsTagSpace t || t.head? == some '>' then
      some .literalTag
    else if beginsWith "!--" r then some .comment
    else if beginsWith "?" r then some .instruction
    else if (dropWord? "![CDATA[".toList r).isSome then some .cdata
    else if r.head? == some '!' && (r.drop 1).head?.any Char.isAlpha then some .declaration
    else
      let name := if r.head? == some '/' then r.drop 1 else r
      if afterWords blockTags name fun t =>
          startsTagSpace t || t.head? == some '>' || beginsWith "/>" t then
        some .blockTag
      else none
  | _ => none

/-- A complete tag alone on its line. -/
def isTagLine (s : List Char) : Bool :=
  match s with
  | '<' :: r =>
    ((openTag? r).orElse fun _ => closeTag? r).any fun t =>
      atLineEnd (t.dropWhile fun c => isBlankOrTab c || c == '\x0c')
  | _ => false

/-- Whether a line ends a block of markup of a sort. -/
def MarkupBlock.endsIn (m : MarkupBlock) (line : List Char) : Bool :=
  match m with
  | .literalTag => literalTags.any fun w => holds ("</" ++ w ++ ">").toList line
  | .comment => holds "-->".toList line
  | .instruction => holds "?>".toList line
  | .declaration => holds ">".toList line
  | .cdata => holds "]]>".toList line
  | .blockTag => false
  | .anyTag => false

end LivePages.Markdown
