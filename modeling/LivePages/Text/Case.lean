import LivePages.Text.CaseMap
import LivePages.Text.Cased

/-!
Whole texts in upper and lower case. In lower case a sigma at the end of a word has a form of its
own.
-/

namespace LivePages.Text

def upper (s : List Char) : List Char :=
  s.flatMap upperChar

/-- A letter is met before anything else that counts. -/
def meetsCased (s : List Char) : Bool :=
  match s.dropWhile isCaseIgnorable with
  | [] => false
  | c :: _ => isCased c

def sigma : Char := Char.ofNat 0x3A3

/-- `before` holds the text already passed, in reverse. -/
def lowerFrom (before : List Char) : List Char → List Char
  | [] => []
  | c :: r =>
    (if c = sigma then
      (if meetsCased before && !meetsCased r then [Char.ofNat 0x3C2] else [Char.ofNat 0x3C3])
    else lowerChar c) ++ lowerFrom (c :: before) r

def lower (s : List Char) : List Char :=
  lowerFrom [] s

end LivePages.Text
