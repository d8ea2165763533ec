import LivePages.Reload.Event

/-!
Surveys of watched folders: what stood where, and when it last changed. Two surveys, one after the
other, give the events between them.
-/

namespace LivePages.Reload

structure Sighting where
  path : String
  isFolder : Bool
  changed : Int
  deriving DecidableEq, Repr

def Sighting.thing (s : Sighting) : Thing :=
  if s.isFolder then .folder else .file

def seen? (l : List Sighting) (path : String) : Option Sighting :=
  l.find? (·.path = path)

/-- What went away, what came to be, and which files have other contents. -/
def between (old new : List Sighting) : List Event :=
  (old.filterMap fun s =>
    if (seen? new s.path).isSome then none else some ⟨.removed s.thing, [s.path], false⟩) ++
  new.filterMap fun s =>
    match seen? old s.path with
    | none => some ⟨.created s.thing, [s.path], false⟩
    | some t =>
      if s.isFolder || s.changed = t.changed then none
      else some ⟨.changed (.content .any), [s.path], false⟩

end LivePages.Reload
