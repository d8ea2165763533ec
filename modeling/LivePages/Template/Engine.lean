import LivePages.Template.Library
import LivePages.Template.Source

/-!
An engine: templates by name with the library they call. A template is added together with a check
that every parent and every imported file is known and that no template is its own ancestor.
-/

namespace LivePages.Template

/-- The sources are in the order of their names, each name once. -/
structure Engine where
  library : Library
  sources : List Source

def Engine.empty (library : Library) : Engine :=
  ⟨library, []⟩

/-- Adds or replaces the source of its name. -/
def putSource (t : Source) : List Source → List Source
  | [] => [t]
  | u :: r =>
    if t.name = u.name then t :: r
    else if t.name < u.name then t :: u :: r
    else u :: putSource t r

def Engine.find? (e : Engine) (name : String) : Option Source :=
  e.sources.find? (·.name = name)

def Engine.names (e : Engine) : List String :=
  e.sources.map (·.name)

/-- The templates above `t`, nearest first, after those in `above`; `start` is where the climb
began. -/
def Engine.climb (e : Engine) (start : String) : Nat → Source → List Source →
    Except Fault (List Source)
  | 0, _, above => .error (.circularParents start (above.map (·.name)))
  | n + 1, t, above =>
    if !above.isEmpty && t.name = start then .error (.circularParents start (above.map (·.name)))
    else
      match t.parent with
      | none => .ok above
      | some p =>
        match e.find? p with
        | none => .error (.missingParent t.name p)
        | some q => e.climb start n q (above ++ [q])

/-- The templates that `t` extends, directly or not, nearest first. -/
def Engine.ancestors (e : Engine) (t : Source) : Except Fault (List Source) :=
  e.climb t.name (e.sources.length + 1) t []

def Engine.checkImports (e : Engine) (t : Source) : Except Fault Unit :=
  t.imports.forM fun (file, _) =>
    match e.find? file with
    | some _ => .ok ()
    | none => .error (.missingImport t.name file)

def Engine.check (e : Engine) : Except Fault Unit := do
  e.sources.forM fun t => (e.ancestors t).map fun _ => ()
  e.sources.forM e.checkImports

/-- Reads sources in order and puts them into the engine. -/
def Engine.put (e : Engine) : List (String × String) → Except Fault Engine
  | [] => .ok e
  | (name, text) :: r =>
    match Source.read name text with
    | .error f => .error f
    | .ok t => Engine.put ⟨e.library, putSource t e.sources⟩ r

/-- Adds templates, later ones replacing earlier ones of the same name. -/
def Engine.add (e : Engine) (texts : List (String × String)) : Except Fault Engine := do
  let e ← e.put texts
  e.check
  pure e

/-! ### Definitions that a template can use -/

/-- The definitions of one template. -/
structure Shelf where
  template : String
  definitions : List Definition

abbrev Shelves := List (String × Shelf)

def Shelves.has (s : Shelves) (name : String) : Bool :=
  s.any (·.1 = name)

def Shelves.set (s : Shelves) (name : String) (shelf : Shelf) : Shelves :=
  (name, shelf) :: s.filter (·.1 ≠ name)

/-- Adds the shelves whose names are still free. -/
def Shelves.fill (s more : Shelves) : Shelves :=
  more.foldl (fun s p => if Shelves.has s p.1 then s else s.set p.1 p.2) s

def ownShelves (t : Source) : Shelves :=
  if t.definitions.isEmpty then [] else [("self", ⟨t.name, t.definitions⟩)]

/-- A template's shelves by the names it uses for them: its own, those it imports and those of its
ancestors, or none with too little depth. -/
def Engine.shelves (e : Engine) : Nat → Source → Option Shelves
  | 0, _ => none
  | n + 1, t => do
    let imported ← t.imports.foldlM
      (fun s (file, library) =>
        match e.find? file with
        | none => some s
        | some u =>
          (e.shelves n u).map (Shelves.fill (Shelves.set s library ⟨file, u.definitions⟩)))
      (ownShelves t)
    let above := match e.ancestors t with
      | .ok l => l
      | .error _ => []
    above.foldlM (fun s u => (e.shelves n u).map (Shelves.fill s)) imported

/-- The definition among the shelves of `template` that `library::name` means, and where it
stands. -/
def definitionIn (shelves : Shelves) (template library name : String) :
    Except Fault (String × Definition) :=
  match named? shelves library with
  | none => .error (.noLibrary library template)
  | some shelf =>
    match shelf.definitions.find? (·.name = name) with
    | none => .error (.noDefinition library name template)
    | some d => .ok (shelf.template, d)

/-- The shelves of the template of that name; an unknown one has none. -/
def Engine.shelvesOf (e : Engine) (depth : Nat) (template : String) : Option Shelves :=
  match e.find? template with
  | none => some []
  | some t => e.shelves depth t

/-- The definition that `template` means by `library::name`, and where it stands. -/
def Engine.definition (e : Engine) (depth : Nat) (template library name : String) :
    Option (Except Fault (String × Definition)) :=
  (e.shelvesOf depth template).map fun s => definitionIn s template library name

end LivePages.Template
