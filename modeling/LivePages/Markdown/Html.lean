import LivePages.Markdown.Tree
import LivePages.Markup.Sink
import LivePages.Text.Blank

/-!
Writing a document tree as markup. Raw markup of the source never reaches the output, and an
address whose scheme could run a script is blanked.
-/

namespace LivePages.Markdown

def unsafeSchemes : List String :=
  ["javascript:", "vbscript:", "file:", "data:"]

def safeData : List String :=
  ["data:image/png", "data:image/gif", "data:image/jpeg", "data:image/webp"]

/-- Whether a text begins with one of some ASCII lower-case words, in any case of its letters and
after any blanks. -/
def beginsWithAny (words : List String) (url : String) : Bool :=
  let lower := (Text.dropBlank url.toList).map Char.toLower
  words.any fun w => w.toList.isPrefixOf lower

/-- Blanks an address with a scheme that could run a script; pictures given in place are kept. -/
def sanitizeUrl (url : String) : String :=
  if beginsWithAny unsafeSchemes url && !beginsWithAny safeData url then "" else url

/-- The first word of a code block's info string. -/
def language? (info : String) : Option String :=
  match (Text.dropBlank info.toList).takeWhile (fun c => !Text.isBlank c) with
  | [] => none
  | w => some (String.ofList w)

def titleAttribute (title : String) : Markup.Attributes :=
  if title.isEmpty then [] else [("title", title)]

open Markup (Token lineFeed)

/-- What stands for raw markup of the source. -/
def omitted : Token :=
  .comment " raw HTML omitted "

/-- An element around other tokens. -/
def wrapped (tag : String) (attrs : Markup.Attributes) (inside : List Token) : List Token :=
  .opening tag attrs :: inside ++ [.closing tag]

mutual

/-- The tokens of a node. `tight` says that paragraphs here stand without their tags. -/
def tokens (tight : Bool) : Node → List Token
  | .mk kind attrs cs =>
    match kind with
    | .document => tokensAll tight cs
    | .paragraph =>
      if tight then tokensAll true cs
      else wrapped "p" attrs (tokensAll false cs) ++ [lineFeed]
    | .heading level => wrapped ("h" ++ toString level) attrs (tokensAll tight cs) ++ [lineFeed]
    | .blockQuote =>
      wrapped "blockquote" attrs (lineFeed :: tokensAll false cs) ++ [lineFeed]
    | .list ordered start listTight =>
      let own := if ordered && start != 1 then [("start", toString start)] else []
      wrapped (if ordered then "ol" else "ul") (own ++ attrs)
        (lineFeed :: tokensAll listTight cs) ++ [lineFeed]
    | .item => wrapped "li" attrs (tokensAll tight cs) ++ [lineFeed]
    | .codeBlock info literal =>
      let own := (language? info).elim [] fun w => [("class", "language-" ++ w)]
      wrapped "pre" attrs (wrapped "code" own [.text literal]) ++ [lineFeed]
    | .thematicBreak => [.empty "hr" attrs, lineFeed]
    | .rawHtml => [omitted]
    | .text s => [.text s]
    | .code s => wrapped "code" attrs [.text s]
    | .softBreak => [lineFeed]
    | .lineBreak => [.empty "br" [], lineFeed]
    | .emph => wrapped "em" attrs (tokensAll tight cs)
    | .strong => wrapped "strong" attrs (tokensAll tight cs)
    | .link url title =>
      wrapped "a" (("href", sanitizeUrl url) :: titleAttribute title ++ attrs) (tokensAll tight cs)
    | .image url title =>
      [.empty "img" (("src", sanitizeUrl url) :: ("alt", Node.textContents cs) ::
        titleAttribute title ++ attrs)]

def tokensAll (tight : Bool) : List Node → List Token
  | [] => []
  | n :: r => tokens tight n ++ tokensAll tight r

end

/-- The text of a document's tokens. -/
def Node.toHtml (n : Node) : String :=
  Markup.write (tokens false n)

/-- Writes a document to memory and reads the octets as text. -/
def Node.toHtml? (n : Node) : Except Refusal String :=
  match Markup.writeTo Markup.memory [] (tokens false n) with
  | .error f => .error (.unwritten f)
  | .ok held =>
    match Text.Utf8.decode? held.reverse with
    | some s => .ok (String.ofList s)
    | none => .error .garbled

end LivePages.Markdown
