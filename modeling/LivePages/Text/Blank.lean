/-!
Blank characters: the code points with the Unicode property White_Space, and trimming by them.
Every ASCII blank that `Char.isWhitespace` knows is among them.
-/

namespace LivePages.Text

/-- The 25 code points with the property White_Space. -/
def isBlank (c : Char) : Bool :=
  let n := c.toNat
  (9 ≤ n && n ≤ 13) || n == 0x20 || n == 0x85 || n == 0xA0 || n == 0x1680 ||
    (0x2000 ≤ n && n ≤ 0x200A) || n == 0x2028 || n == 0x2029 || n == 0x202F || n == 0x205F ||
    n == 0x3000

def dropBlank (s : List Char) : List Char :=
  s.dropWhile isBlank

def dropBlankEnd (s : List Char) : List Char :=
  (s.reverse.dropWhile isBlank).reverse

def trimStart (s : String) : String :=
  String.ofList (dropBlank s.toList)

def trimEnd (s : String) : String :=
  String.ofList (dropBlankEnd s.toList)

def trim (s : String) : String :=
  String.ofList (dropBlankEnd (dropBlank s.toList))

def asciiLower (s : String) : String :=
  String.ofList (s.toList.map Char.toLower)

/-- The text before the first `sep` and, if `sep` occurs, the text after it. -/
def cutAt (sep : Char) : List Char → List Char × Option (List Char)
  | [] => ([], none)
  | c :: r =>
    if c = sep then ([], some r)
    else
      let (a, b) := cutAt sep r
      (c :: a, b)

/-- The parts between the occurrences of `sep`; one part when there is none. -/
def splitOn (sep : Char) : List Char → List (List Char)
  | [] => [[]]
  | c :: r =>
    if c = sep then [] :: splitOn sep r
    else
      match splitOn sep r with
      | [] => [[c]]
      | p :: ps => (c :: p) :: ps

end LivePages.Text
