import LivePages.Decimal.Reader
import LivePages.Template.Builtin.Argument
import LivePages.Text.Blank
import LivePages.Text.Case
import LivePages.Text.Escape
import LivePages.Text.Grapheme
import LivePages.Text.Percent
import LivePages.Text.Romanised
import LivePages.Text.Search
import LivePages.Text.Word

/-!
Filters on texts.
-/

namespace LivePages.Template.Builtin

/-- A filter that turns a text into another. -/
def textFilter (name : String) (f : List Char → List Char) : String × Filter :=
  (name, plainFilter fun v _ => do
    let s ← text.value name v
    pure (.str (String.ofList (f s.toList))))

/-- In a pattern, a backslash before `n` or `t` stands for the control character. -/
def controlEscapes (s : String) : List Char :=
  Text.replaceAll ['\\', 't'] ['\t'] (Text.replaceAll ['\\', 'n'] ['\n'] s.toList)

def pattern (filter : String) (args : Arguments) : Except Fault (List Char) := do
  let p ← text.arg filter "pat" ("Filter `" ++ filter ++ "` expected an arg called `pat`") args
  pure (controlEscapes p)

/-- A filter that turns a text and the argument `pat` into another text. -/
def patternFilter (name : String) (f : List Char → List Char → List Char) : String × Filter :=
  (name, plainFilter fun v args => do
    let s ← text.value name v
    let p ← pattern name args
    pure (.str (String.ofList (f p s.toList))))

/-- Cuts a text to so many grapheme clusters, with `end` in place of the rest. -/
def truncate : String × Filter :=
  ("truncate", plainFilter fun v args => do
    let s ← text.value "truncate" v
    let length ← natural.argOr "truncate" "length" 255 args
    let ending ← text.argOr "truncate" "end" "…" args
    let clusters := Text.Grapheme.clusters s.toList
    if clusters.length ≤ length then pure (.str s)
    else pure (.str (String.ofList (clusters.take length).flatten ++ ending)))

/-- The number of blank-separated words. -/
def countWords (inWord : Bool) : List Char → Nat
  | [] => 0
  | c :: r =>
    if Text.isBlank c then countWords false r
    else (if inWord then 0 else 1) + countWords true r

def wordcount : String × Filter :=
  ("wordcount", plainFilter fun v _ => do
    let s ← text.value "wordcount" v
    pure (.int (countWords false s.toList)))

def replace : String × Filter :=
  ("replace", plainFilter fun v args => do
    let s ← text.value "replace" v
    let a ← text.arg "replace" "from" "Filter `replace` expected an arg called `from`" args
    let b ← text.arg "replace" "to" "Filter `replace` expected an arg called `to`" args
    pure (.str (String.ofList (Text.replaceAll a.toList b.toList s.toList))))

def capitalized : List Char → List Char
  | [] => []
  | c :: r => Text.upperChar c ++ Text.lower r

def isTitleChar (c : Char) : Bool :=
  Text.isWord c || c == '\''

/-- A run of word characters and apostrophes: the apostrophes around it are no part of the word. -/
def titleRun (run : List Char) : List Char :=
  let opening := run.takeWhile (· == '\'')
  let rest := run.dropWhile (· == '\'')
  let closing := rest.reverse.takeWhile (· == '\'')
  let word := (rest.reverse.dropWhile (· == '\'')).reverse
  opening ++ capitalized word ++ closing

/-- `run` is the run being read, in reverse. -/
def titleFrom (run : List Char) : List Char → List Char
  | [] => titleRun run.reverse
  | c :: r =>
    if isTitleChar c then titleFrom (c :: run) r
    else titleRun run.reverse ++ c :: titleFrom [] r

def breakLines (s : List Char) : List Char :=
  Text.replaceAll ['\n'] "<br>".toList (Text.replaceAll ['\r', '\n'] "<br>".toList s)

/-- The lines of a text, without their ends; a last line without content is no line. -/
def linesOf (s : List Char) : List (List Char) :=
  let parts := Text.splitOn '\n' s
  let ended := parts.dropLast.map fun l => if l.getLast? == some '\r' then l.dropLast else l
  match parts.getLast? with
  | none => ended
  | some [] => ended
  | some l => ended ++ [l]

def indent : String × Filter :=
  ("indent", plainFilter fun v args => do
    let s ← text.value "indent" v
    let margin ← text.argOr "indent" "prefix" "    " args
    let first ← boolean.argOr "indent" "first" false args
    let blank ← boolean.argOr "indent" "blank" false args
    let indented (l : List Char) : List Char :=
      if blank || !(Text.dropBlank l).isEmpty then margin.toList ++ l else l
    match linesOf s.toList with
    | [] => pure (.str "")
    | l :: ls =>
      let head := if first then margin.toList ++ l else l
      pure (.str (String.ofList (List.intercalate ['\n'] (head :: ls.map indented)))))

/-- The rest after a comment that starts here and ends on the same line. -/
def afterComment? : List Char → Option (List Char)
  | [] => none
  | '\n' :: _ => none
  | '-' :: '-' :: '>' :: r => some r
  | _ :: r => afterComment? r

/-- The rest after a tag or comment that starts here. -/
def afterMarkup? (s : List Char) : Option (List Char) :=
  match s with
  | '<' :: r =>
    let comment := match r with
      | '!' :: '-' :: '-' :: r' => afterComment? r'
      | _ => none
    comment <|>
      (match r.dropWhile (· != '>') with
        | _ :: rest => some rest
        | [] => none)
  | _ => none

def stripTags : Nat → List Char → List Char
  | 0, s => s
  | _, [] => []
  | n + 1, c :: r =>
    match afterMarkup? (c :: r) with
    | some rest => stripTags n rest
    | none => c :: stripTags n r

/-- Drops the blanks between `>` and `<`. -/
def spaceless : Nat → List Char → List Char
  | 0, s => s
  | _, [] => []
  | n + 1, '>' :: r =>
    match Text.dropBlank r with
    | '<' :: rest => if r.head? == some '<' then '>' :: spaceless n r else '>' :: '<' :: spaceless n rest
    | _ => '>' :: spaceless n r
  | n + 1, c :: r => c :: spaceless n r

/-- Characters that stand for themselves in a URL whose slashes are kept. -/
def keptInUrl (c : Char) : Bool :=
  c.isAlphanum || "-._~/%".toList.contains c

def addSlashes (s : List Char) : List Char :=
  s.flatMap fun c => if c == '\\' || c == '"' || c == '\'' then ['\\', c] else [c]

def split : String × Filter :=
  ("split", plainFilter fun v args => do
    let s ← text.value "split" v
    let p ← pattern "split" args
    pure (Json.strs ((Text.partsBetween p s.toList).map String.ofList)))

/-! ### Texts as numbers -/

def digitValue? (base : Nat) (c : Char) : Option Nat :=
  let d :=
    if c.isDigit then some (c.toNat - 48)
    else if c.isLower && c.isAlpha then some (c.toNat - 87)
    else if c.isUpper && c.isAlpha then some (c.toNat - 55)
    else none
  d.bind fun n => if n < base then some n else none

def digitsIn? (base : Nat) (s : List Char) : Option Nat :=
  if s.isEmpty then none
  else s.foldlM (fun n c => (digitValue? base c).map (base * n + ·)) 0

/-- A whole number of 64 bits in some base, with an optional sign. -/
def wholeIn? (base : Nat) (s : List Char) : Option Int :=
  let n :=
    match s with
    | '-' :: r => (digitsIn? base r).map fun n => -(n : Int)
    | '+' :: r => (digitsIn? base r).map Int.ofNat
    | r => (digitsIn? base r).map Int.ofNat
  n.bind fun i => if -Int.pow 2 63 ≤ i && i < Int.pow 2 63 then some i else none

def baseMark : Nat → List Char
  | 2 => ['0', 'b']
  | 8 => ['0', 'o']
  | 16 => ['0', 'x']
  | _ => []

def truncated (x : Float) : Int :=
  if x.isNaN then 0 else x.toInt64.toInt

def int : String × Filter :=
  ("int", plainFilter fun v args => do
    let default ← whole64.argOr "int" "default" 0 args
    let base ← natural32.argOr "int" "base" 10 args
    match v with
    | .str s =>
      let s := Text.dropAllLeading (baseMark base.toNat) (Text.trim s).toList
      match wholeIn? base.toNat s with
      | some i => pure (.int i)
      | none =>
        if s.contains '.' then pure (.int (((Decimal.readFloat? s).map truncated).getD default))
        else pure (.int default)
    | _ =>
      match Number.ofJson? v with
      | some n => pure (.int (truncated n.toFloat))
      | none => .error (.said "Filter `int` received an unexpected type"))

/-- A float that is not finite is no value. -/
def floatValue (x : Float) : Json :=
  if x.isFinite then .float x else .null

def floatFilter : String × Filter :=
  ("float", plainFilter fun v args => do
    let default ← float.argOr "float" "default" 0.0 args
    match v with
    | .str s => pure (floatValue ((Decimal.readFloat? (Text.trim s).toList).getD default))
    | _ =>
      match Number.ofJson? v with
      | some n => pure (floatValue n.toFloat)
      | none => .error (.said "Filter `float` received an unexpected type"))

def textFilters : List (String × Filter) :=
  [textFilter "upper" Text.upper,
   textFilter "lower" Text.lower,
   textFilter "trim" fun s => Text.dropBlankEnd (Text.dropBlank s),
   textFilter "trim_start" Text.dropBlank,
   textFilter "trim_end" Text.dropBlankEnd,
   patternFilter "trim_start_matches" Text.dropAllLeading,
   patternFilter "trim_end_matches" Text.dropAllTrailing,
   truncate,
   wordcount,
   replace,
   textFilter "capitalize" capitalized,
   textFilter "title" (titleFrom []),
   textFilter "linebreaksbr" breakLines,
   indent,
   textFilter "striptags" fun s => stripTags s.length s,
   textFilter "spaceless" fun s => spaceless s.length s,
   textFilter "urlencode" (Text.Percent.encodeKeeping keptInUrl),
   textFilter "urlencode_strict" (Text.Percent.encodeKeeping Char.isAlphanum),
   textFilter "escape" fun s => (Text.escapePage (String.ofList s)).toList,
   textFilter "escape_xml" fun s => (Text.escapeXml (String.ofList s)).toList,
   textFilter "slugify" Text.slug,
   textFilter "addslashes" addSlashes,
   split,
   int,
   floatFilter]

end LivePages.Template.Builtin
