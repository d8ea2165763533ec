import LivePages.Config.Sources
import LivePages.Edition.Basic
import LivePages.FileTree.Ask

/-!
Building an edition from the texts on the disk. The layout and all components are parsed once into a
base; each page is added to a copy of the base, and each component stands in an engine of its own
with the components it requires. The first failure in this order is the failure of the build.

A listing says of each entry whether it is a file, so one question stands for the listing and for the
test of every entry; a disk that changes is seen to change before it or after it, not in between.
-/

namespace LivePages.Edition

open Config (Sources Component engineName)
open Template (Engine Library)

abbrev Building (α : Type) := ExceptT PageFault Ask α

/-- The name under which a failure among all components is reported. -/
def allComponents : String := "components/*.html"

def text (s : Sources) (engineName : String) : Building String := do
  match ← (Ask.text (s.path engineName) : Ask _) with
  | .ok t => pure t
  | .error f => throw (.unreadable (s.path engineName) f)

def added (e : Engine) (name : String) (texts : List (String × String)) : Building Engine :=
  match e.add texts with
  | .ok e => pure e
  | .error f => throw (.unparsable name f)

/-- The name of a component whose text stands in a file. -/
def componentName? (l : Listed) : Option String :=
  match l.name.map Path.cutName with
  | some (name, some ending) => if l.isFile && ending = Config.ending then some name else none
  | _ => none

/-- The texts of all components by their engine names, in the order of the listing. -/
def componentTexts (s : Sources) : Building (List (String × String)) := do
  let folder := s.folder Config.componentsFolder
  match ← (Ask.entries folder : Ask _) with
  | .error f => throw (.unreadable folder f)
  | .ok listed =>
    (listed.filterMap componentName?).mapM fun name => do
      let entry := engineName Config.componentsFolder name
      pure (entry, ← text s entry)

/-- The layout alone, then all components in one step. Of several broken components the one in front
in the listing is the cause; no order among them is promised. -/
def base (s : Sources) (library : Library) (components : List (String × String)) :
    Building Engine := do
  let layout ← text s s.layoutName
  let e ← added (Engine.empty library) s.layoutName [(s.layoutName, layout)]
  added e allComponents components

def page (s : Sources) (base : Engine) (name : String) : Building Page := do
  let entry := engineName Config.pagesFolder name
  let t ← text s entry
  pure ⟨name, entry, ← added base entry [(entry, t)]⟩

/-- The text of a component among those that were read. -/
def required (s : Sources) (components : List (String × String)) (name : String) :
    Building (String × String) :=
  let entry := engineName Config.componentsFolder name
  match components.find? (·.1 = entry) with
  | some (_, t) => pure (entry, t)
  | none => throw (.noComponent (s.path entry))

def component (s : Sources) (library : Library) (components : List (String × String))
    (c : Component) : Building Page := do
  let entry := engineName Config.componentsFolder c.name
  let texts ← (c.requires ++ [c.name]).mapM (required s components)
  pure ⟨c.name, entry, ← added (Engine.empty library) entry texts⟩

/-- The pages of an edition, later ones replacing earlier ones of the same name. -/
def ofPages (number : Nat) (pages : List Page) : Edition :=
  pages.foldl put ⟨number, []⟩

def build (s : Sources) (library : Library) (number : Nat) : Building Edition := do
  let components ← componentTexts s
  let base ← base s library components
  let pages ← s.pages.mapM (page s base)
  let alone ← s.components.mapM (component s library components)
  pure (ofPages number (⟨Config.baseName, s.layoutName, base⟩ :: pages ++ alone))

end LivePages.Edition
