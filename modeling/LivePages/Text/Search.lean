/-!
Finding a text inside another: cutting at every occurrence, from the left and without overlap, and
replacing. The empty text occurs before every character and at the end.
-/

namespace LivePages.Text

/-- Characters up to the next occurrence of `a` and after it; `skip` of them belong to an
occurrence already found. -/
def partsFrom (a : List Char) : Nat → List Char → List (List Char)
  | _, [] => [[]]
  | k + 1, _ :: r => partsFrom a k r
  | 0, c :: r =>
    if a.isPrefixOf (c :: r) then [] :: partsFrom a (a.length - 1) r
    else
      match partsFrom a 0 r with
      | [] => [[c]]
      | p :: ps => (c :: p) :: ps

/-- The parts between the occurrences of `a`. -/
def partsBetween (a s : List Char) : List (List Char) :=
  if a.isEmpty then [] :: (s.map fun c => [c]) ++ [[]]
  else partsFrom a 0 s

/-- Replaces every `a` by `b`. -/
def replaceAll (a b s : List Char) : List Char :=
  List.intercalate b (partsBetween a s)

def holds (a : List Char) : List Char → Bool
  | [] => a.isEmpty
  | c :: r => a.isPrefixOf (c :: r) || holds a r

/-- Drops `a` from the start as long as it stands there. -/
def dropLeading (a : List Char) : Nat → List Char → List Char
  | 0, s => s
  | n + 1, s =>
    if !a.isEmpty && a.isPrefixOf s then dropLeading a n (s.drop a.length) else s

def dropAllLeading (a s : List Char) : List Char :=
  dropLeading a s.length s

def dropAllTrailing (a s : List Char) : List Char :=
  (dropAllLeading a.reverse s.reverse).reverse

end LivePages.Text
