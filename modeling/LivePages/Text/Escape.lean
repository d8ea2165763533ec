/-!
Markup escapes: the five characters of XML, and the six that an autoescaped template replaces.
-/

namespace LivePages.Text

/-- Replaces a character that has an escape and keeps every other. -/
def escapeWith (table : Char → Option String) (s : String) : String :=
  String.ofList (s.toList.flatMap fun c => (table c).elim [c] String.toList)

/-- What markup text and quoted attribute values need. -/
def xmlEscapes : Char → Option String
  | '<' => some "&lt;"
  | '>' => some "&gt;"
  | '&' => some "&amp;"
  | '\'' => some "&apos;"
  | '"' => some "&quot;"
  | _ => none

/-- What a template value needs to stand anywhere in a page. -/
def pageEscapes : Char → Option String
  | '&' => some "&amp;"
  | '<' => some "&lt;"
  | '>' => some "&gt;"
  | '"' => some "&quot;"
  | '\'' => some "&#x27;"
  | '/' => some "&#x2F;"
  | _ => none

def escapeXml (s : String) : String :=
  escapeWith xmlEscapes s

def escapePage (s : String) : String :=
  escapeWith pageEscapes s

end LivePages.Text
