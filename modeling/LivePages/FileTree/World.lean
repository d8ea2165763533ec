import LivePages.FileTree.Ask
import LivePages.FileTree.Basic
import LivePages.FileTree.Path

/-!
A tree of files with a working folder: what its paths lead to, what it answers as a disk, and how
it changes.
-/

namespace LivePages

structure World where
  top : FileTree
  here : List String

namespace World

/-- The longest name and the longest path, in octets. -/
def nameLimit : Nat := 255

def pathLimit : Nat := 4095

/-- Where the steps lead from the place `at`. Each step starts in a folder. -/
def walk (t : FileTree) : List String → List String → Except DiskFault (List String)
  | place, [] => .ok place
  | place, s :: r =>
    match t.get? place with
    | some (.folder _) =>
      if s = "." then walk t place r
      else if s = ".." then walk t place.dropLast r
      else if nameLimit < Path.octetCount s then .error .nameTooLong
      else if (t.get? (place ++ [s])).isNone then .error .missing
      else walk t (place ++ [s]) r
    | _ => .error .notAFolder

def checkPath (p : String) : Except DiskFault Unit :=
  if p.toList.contains '\x00' then .error .zeroInPath
  else if p.isEmpty then .error .missing
  else if pathLimit < Path.octetCount p then .error .nameTooLong
  else .ok ()

def start (w : World) (p : String) : List String :=
  if Path.isAbsolute p then [] else w.here

/-- The place that a path leads to. -/
def place (w : World) (p : String) : Except DiskFault (List String) := do
  checkPath p
  walk w.top (w.start p) (Path.steps p)

def find (w : World) (p : String) : Except DiskFault FileTree := do
  let spot ← w.place p
  match w.top.get? spot with
  | some t => pure t
  | none => .error .missing

def text (w : World) (p : String) : Except DiskFault String := do
  match ← w.find p with
  | .folder _ => .error .aFolder
  | .file bs =>
    match Text.Utf8.decode? bs with
    | some s => pure (String.ofList s)
    | none => .error .notText

def entries (w : World) (p : String) : Except DiskFault (List Listed) := do
  match ← w.find p with
  | .file _ => .error .notAFolder
  | .folder es => pure (es.map fun e => ⟨some e.1, !e.2.isFolder⟩)

def isFolder (w : World) (p : String) : Bool :=
  match w.find p with
  | .ok t => t.isFolder
  | .error _ => false

def «exists» (w : World) (p : String) : Bool :=
  match w.find p with
  | .ok _ => true
  | .error _ => false

def disk (w : World) : Disk
  | .text p => w.text p
  | .entries p => w.entries p
  | .isFolder p => w.isFolder p
  | .exists p => w.exists p
  | .canonical p => (w.place p).map Path.ofNames
  | .here => Path.ofNames w.here

/-! ### Changes -/

/-- The folder in which a path's last name stands, and that name. -/
def slot (w : World) (p : String) : Except DiskFault (List String × String) := do
  checkPath p
  match (Path.names p).getLast? with
  | none => .error .aFolder
  | some name =>
    let folder ← walk w.top (w.start p) ((Path.names p).dropLast ++ ["."])
    if name = "." || name = ".." then .error .aFolder
    else if nameLimit < Path.octetCount name then .error .nameTooLong
    else pure (folder, name)

def put (w : World) (place : List String) (t : FileTree) : World :=
  ⟨FileTree.set t place w.top, w.here⟩

/-- Writes a whole file, which may be a new one. -/
def write (w : World) (p : String) (octets : List UInt8) : Except DiskFault World := do
  let (folder, name) ← w.slot p
  if Path.endsOpen p || ((w.top.get? (folder ++ [name])).any FileTree.isFolder) then .error .aFolder
  else pure (w.put (folder ++ [name]) (.file octets))

def makeFolder (w : World) (p : String) : Except DiskFault World := do
  let (folder, name) ← w.slot p
  if (w.top.get? (folder ++ [name])).isSome then .error .exists
  else pure (w.put (folder ++ [name]) (.folder []))

/-- Removes a file, or a folder with all that is in it. -/
def remove (w : World) (p : String) : Except DiskFault World := do
  let spot ← w.place p
  pure ⟨w.top.erase spot, w.here⟩

end World

end LivePages
