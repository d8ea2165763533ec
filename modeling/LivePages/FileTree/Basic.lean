/-!
Trees of files and folders. A folder's entries are kept in the order of their names, each name once.
-/

namespace LivePages

inductive FileTree
  | file (octets : List UInt8)
  | folder (entries : List (String × FileTree))
  deriving Inhabited

namespace FileTree

def isFolder : FileTree → Bool
  | .file _ => false
  | .folder _ => true

def entry? (name : String) : FileTree → Option FileTree
  | .file _ => none
  | .folder es => (es.find? (·.1 = name)).map (·.2)

def get? : List String → FileTree → Option FileTree
  | [], t => some t
  | n :: ns, t => (t.entry? n).bind (get? ns)

/-- Adds or replaces an entry, keeping the names in order. -/
def insertEntry (name : String) (t : FileTree) : List (String × FileTree) → List (String × FileTree)
  | [] => [(name, t)]
  | (n, u) :: r =>
    if name = n then (name, t) :: r
    else if name < n then (name, t) :: (n, u) :: r
    else (n, u) :: insertEntry name t r

/-- Puts `t` at the end of a path; what is missing or a file on the way becomes a folder. -/
def set (t : FileTree) : List String → FileTree → FileTree
  | [], _ => t
  | n :: ns, .folder es =>
    let inner := ((es.find? (·.1 = n)).map (·.2)).getD (.folder [])
    .folder (insertEntry n (set t ns inner) es)
  | n :: ns, .file _ => .folder [(n, set t ns (.folder []))]

def erase : List String → FileTree → FileTree
  | [], t => t
  | [n], .folder es => .folder (es.filter (·.1 ≠ n))
  | n :: ns, .folder es =>
    match es.find? (·.1 = n) with
    | none => .folder es
    | some (_, u) => .folder (insertEntry n (erase ns u) es)
  | _, .file bs => .file bs

end FileTree

end LivePages
