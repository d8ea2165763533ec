import LivePages.Markup.Attributes
import LivePages.Text.Escape

/-!
Markup as a sequence of tokens, and its text. Character data and attribute values are escaped, so
a string inside a token never ends it.
-/

namespace LivePages.Markup

inductive Token
  | opening (tag : String) (attrs : Attributes)
  | closing (tag : String)
  | empty (tag : String) (attrs : Attributes)
  | text (s : String)
  | comment (s : String)
  deriving DecidableEq, Repr

def attributeText (p : String × String) : String :=
  " " ++ p.1 ++ "=\"" ++ Text.escapeXml p.2 ++ "\""

def attributesText (a : Attributes) : String :=
  String.join (a.map attributeText)

def Token.write : Token → String
  | .opening tag attrs => "<" ++ tag ++ attributesText attrs ++ ">"
  | .closing tag => "</" ++ tag ++ ">"
  | .empty tag attrs => "<" ++ tag ++ attributesText attrs ++ "/>"
  | .text s => Text.escapeXml s
  | .comment s => "<!--" ++ s ++ "-->"

def write (ts : List Token) : String :=
  String.join (ts.map Token.write)

def lineFeed : Token :=
  .text "\n"

end LivePages.Markup
