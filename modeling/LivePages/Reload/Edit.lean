import LivePages.FileTree.World
import LivePages.Reload.Event

/-!
Edits to a tree of files, each of which takes effect at once, and the event that an edit causes when
it happens below a watched folder.
-/

namespace LivePages.Reload

/-- To replace a file is to move a finished one into its place. -/
inductive Edit
  | replace (path : String) (octets : List UInt8)
  | remove (path : String)
  | makeFolder (path : String)
  | permit (path : String)
  | read (path : String)

namespace Edit

def path : Edit → String
  | replace p _ => p
  | remove p => p
  | makeFolder p => p
  | permit p => p
  | read p => p

def apply (w : World) : Edit → Except DiskFault World
  | replace p octets => w.write p octets
  | remove p => w.remove p
  | makeFolder p => w.makeFolder p
  | permit p => (w.place p).map fun _ => w
  | read p => do
    if w.isFolder p then .error .aFolder else (w.place p).map fun _ => w

/-- The kind of the event, where `w` is the tree before the edit. -/
def kind (w : World) : Edit → Kind
  | replace _ _ => .changed (.name .to)
  | remove p => .removed (if w.isFolder p then .folder else .file)
  | makeFolder _ => .created .folder
  | permit _ => .changed (.detail .any)
  | read _ => .access (.opened .any)

/-- The place that an edit changes. -/
def place? (w : World) (e : Edit) : Option (List String) :=
  match w.slot e.path with
  | .ok (folder, name) => some (folder ++ [name])
  | .error _ => none

/-- A place below a watched folder, as a path that starts with the folder's. -/
def below? (w : World) (place : List String) (watched : String) : Option String :=
  match w.place watched with
  | .error _ => none
  | .ok folder =>
    if folder.isPrefixOf place && folder.length < place.length then
      some ((place.drop folder.length).foldl Path.join watched)
    else none

/-- The event that an edit of `w` causes, if it happens below one of the watched folders. -/
def event? (w : World) (watched : List String) (e : Edit) : Option Event :=
  match e.place? w with
  | none => none
  | some place => (watched.findSome? (below? w place)).map fun p => ⟨e.kind w, [p], false⟩

end Edit

end LivePages.Reload
