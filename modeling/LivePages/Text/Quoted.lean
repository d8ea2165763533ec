import LivePages.Text.Grapheme.Table
import LivePages.Text.Hidden

/-!
Quoted text for diagnostics: between double quotes, with escapes for quotes, backslashes and all
that would not show.
-/

namespace LivePages.Text

def hexDigits (n : Nat) : List Char :=
  Nat.toDigits 16 n

def quotedChar (c : Char) : List Char :=
  match c with
  | '"' => ['\\', '"']
  | '\\' => ['\\', '\\']
  | '\n' => ['\\', 'n']
  | '\r' => ['\\', 'r']
  | '\t' => ['\\', 't']
  | _ =>
    if c.toNat = 0 then ['\\', '0']
    else if isHidden c || Grapheme.extendRanges.has c then
      ['\\', 'u', '\x7b'] ++ hexDigits c.toNat ++ ['\x7d']
    else [c]

def quoted (s : String) : String :=
  String.ofList ('"' :: s.toList.flatMap quotedChar ++ ['"'])

/-- Quoted texts in brackets. -/
def quotedList (l : List String) : String :=
  "[" ++ String.intercalate ", " (l.map quoted) ++ "]"

end LivePages.Text
