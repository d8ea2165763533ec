import LivePages.Decimal.Layout
import LivePages.Json.Value

/-!
JSON text: the compact form without blanks, and the form with one value a line, indented by two.
-/

namespace LivePages.Json

def hexLower (n : Nat) : Char :=
  if n < 10 then Char.ofNat (48 + n) else Char.ofNat (87 + n)

/-- A character inside a quoted string. -/
def quoteChar (c : Char) : List Char :=
  match c with
  | '"' => ['\\', '"']
  | '\\' => ['\\', '\\']
  | '\n' => ['\\', 'n']
  | '\r' => ['\\', 'r']
  | '\t' => ['\\', 't']
  | _ =>
    let n := c.toNat
    if n = 8 then ['\\', 'b']
    else if n = 12 then ['\\', 'f']
    else if n < 32 then ['\\', 'u', '0', '0', hexLower (n / 16), hexLower (n % 16)]
    else [c]

def quote (s : String) : String :=
  String.ofList ('"' :: s.toList.flatMap quoteChar ++ ['"'])

def scalarText : Json → String
  | .bool b => if b then "true" else "false"
  | .int i => toString i
  | .float x => Decimal.Layout.data.write x
  | .str s => quote s
  | _ => "null"

mutual

def compact : Json → String
  | .arr items => "[" ++ String.intercalate "," (compactItems items) ++ "]"
  | .obj fields => "\x7b" ++ String.intercalate "," (compactFields fields) ++ "\x7d"
  | .null => "null"
  | .bool b => scalarText (.bool b)
  | .int i => scalarText (.int i)
  | .float x => scalarText (.float x)
  | .str s => scalarText (.str s)

def compactItems : List Json → List String
  | [] => []
  | v :: r => compact v :: compactItems r

def compactFields : List (String × Json) → List String
  | [] => []
  | (k, v) :: r => (quote k ++ ":" ++ compact v) :: compactFields r

end

def indent (depth : Nat) : String :=
  String.ofList (List.replicate (2 * depth) ' ')

/-- Lines between brackets, one level deeper than the brackets. -/
def block (opening closing : String) (depth : Nat) (lines : List String) : String :=
  if lines.isEmpty then opening ++ closing
  else
    opening ++ "\n" ++
      String.intercalate ",\n" (lines.map (indent (depth + 1) ++ ·)) ++
      "\n" ++ indent depth ++ closing

mutual

def prettyAt (depth : Nat) : Json → String
  | .arr items => block "[" "]" depth (prettyItems (depth + 1) items)
  | .obj fields => block "\x7b" "\x7d" depth (prettyFields (depth + 1) fields)
  | .null => "null"
  | .bool b => scalarText (.bool b)
  | .int i => scalarText (.int i)
  | .float x => scalarText (.float x)
  | .str s => scalarText (.str s)

def prettyItems (depth : Nat) : List Json → List String
  | [] => []
  | v :: r => prettyAt depth v :: prettyItems depth r

def prettyFields (depth : Nat) : List (String × Json) → List String
  | [] => []
  | (k, v) :: r => (quote k ++ ": " ++ prettyAt depth v) :: prettyFields depth r

end

def pretty (v : Json) : String :=
  prettyAt 0 v

/-- A value as text: a string as it is, null as nothing, anything else compact. -/
def plainText : Json → String
  | .null => ""
  | .str s => s
  | v => compact v

end LivePages.Json
