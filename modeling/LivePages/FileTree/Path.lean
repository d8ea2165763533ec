import LivePages.Text.Blank
import LivePages.Text.Utf8

/-!
Paths as text: names between slashes, from the top when the first character is a slash.
-/

namespace LivePages.Path

def isAbsolute (p : String) : Bool :=
  p.toList.head? = some '/'

def endsOpen (p : String) : Bool :=
  p.toList.getLast? = some '/'

/-- `p` as seen from `base`. -/
def join (base p : String) : String :=
  if isAbsolute p then p
  else if base.isEmpty || endsOpen base then base ++ p
  else base ++ "/" ++ p

/-- The names in a path, `.` and `..` among them. -/
def names (p : String) : List String :=
  ((Text.splitOn '/' p.toList).filter (!·.isEmpty)).map String.ofList

/-- The steps to what a path names: after a slash at the end that has to be a folder. -/
def steps (p : String) : List String :=
  if endsOpen p then names p ++ ["."] else names p

/-- The path from the top with the given names. -/
def ofNames (ns : List String) : String :=
  "/" ++ String.intercalate "/" ns

def octetCount (s : String) : Nat :=
  Text.Utf8.size s.toList

/-- A path below `root` without the root and its slash; any other path as it is. -/
def relativeTo (root p : String) : String :=
  let start := (if endsOpen root then root else root ++ "/").toList
  if start.isPrefixOf p.toList then String.ofList (p.toList.drop start.length) else p

/-- A file name cut at its last point; a point at the start is no cut. -/
def cutName (name : String) : String × Option String :=
  let ending := name.toList.reverse.takeWhile (· != '.')
  match name.toList.reverse.dropWhile (· != '.') with
  | [] => (name, none)
  | _ :: before =>
    if before.isEmpty || name = ".." then (name, none)
    else (String.ofList before.reverse, some (String.ofList ending.reverse))

end LivePages.Path
