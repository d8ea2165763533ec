/-!
Events that a watched file system reports, and which of them mean that a template may have changed.
Reading a file is an event too, and compiling reads every file, so such events do not count.
-/

namespace LivePages.Reload

inductive AccessMode
  | any
  | execute
  | read
  | write
  | other
  deriving DecidableEq, Repr

inductive Access
  | any
  | read
  | opened (mode : AccessMode)
  | closed (mode : AccessMode)
  | other
  deriving DecidableEq, Repr

/-- What came to be or went away. -/
inductive Thing
  | any
  | file
  | folder
  | other
  deriving DecidableEq, Repr

inductive Content
  | any
  | size
  | content
  | other
  deriving DecidableEq, Repr

inductive Detail
  | any
  | accessTime
  | writeTime
  | permissions
  | ownership
  | extended
  | other
  deriving DecidableEq, Repr

/-- Which side of a renaming was seen. -/
inductive Renaming
  | any
  | to
  | «from»
  | both
  | other
  deriving DecidableEq, Repr

inductive Change
  | any
  | content (c : Content)
  | detail (d : Detail)
  | name (r : Renaming)
  | other
  deriving DecidableEq, Repr

inductive Kind
  | any
  | access (a : Access)
  | created (t : Thing)
  | changed (c : Change)
  | removed (t : Thing)
  | other
  deriving DecidableEq, Repr

/-- With `rescan`, events were lost and anything may have changed. -/
structure Event where
  kind : Kind
  paths : List String
  rescan : Bool
  deriving DecidableEq, Repr

def Kind.isChange : Kind → Bool
  | .created _ => true
  | .removed _ => true
  | .changed (.detail _) => false
  | .changed _ => true
  | .access _ => false
  | .any => false
  | .other => false

def Event.counts (e : Event) : Bool :=
  e.kind.isChange || e.rescan

/-! ### Text -/

def AccessMode.text : AccessMode → String
  | .any => "Any"
  | .execute => "Execute"
  | .read => "Read"
  | .write => "Write"
  | .other => "Other"

def inside (outer inner : String) : String :=
  outer ++ "(" ++ inner ++ ")"

def Access.text : Access → String
  | .any => "Any"
  | .read => "Read"
  | .opened m => inside "Open" m.text
  | .closed m => inside "Close" m.text
  | .other => "Other"

def Thing.text : Thing → String
  | .any => "Any"
  | .file => "File"
  | .folder => "Folder"
  | .other => "Other"

def Content.text : Content → String
  | .any => "Any"
  | .size => "Size"
  | .content => "Content"
  | .other => "Other"

def Detail.text : Detail → String
  | .any => "Any"
  | .accessTime => "AccessTime"
  | .writeTime => "WriteTime"
  | .permissions => "Permissions"
  | .ownership => "Ownership"
  | .extended => "Extended"
  | .other => "Other"

def Renaming.text : Renaming → String
  | .any => "Any"
  | .to => "To"
  | .«from» => "From"
  | .both => "Both"
  | .other => "Other"

def Change.text : Change → String
  | .any => "Any"
  | .content c => inside "Data" c.text
  | .detail d => inside "Metadata" d.text
  | .name r => inside "Name" r.text
  | .other => "Other"

def Kind.text : Kind → String
  | .any => "Any"
  | .access a => inside "Access" a.text
  | .created t => inside "Create" t.text
  | .changed c => inside "Modify" c.text
  | .removed t => inside "Remove" t.text
  | .other => "Other"

end LivePages.Reload
