import LivePages.Json.Value

/-!
Records in JSON: an object with the record's fields by name, other fields ignored, or a list of
their values in order, where values at the end may be left out.
-/

namespace LivePages.Json

/-- The values of the named fields, each perhaps missing. -/
def record? (names : List String) : Json → Option (List (Option Json))
  | .obj fields => some (names.map fun n => Fields.get? fields n)
  | .arr items =>
    if items.length ≤ names.length then
      some ((List.range names.length).map fun i => items[i]?)
    else none
  | _ => none

/-- A field that must be there. -/
def required {α : Type} (read? : Json → Option α) (v : Option Json) : Option α :=
  v.bind read?

/-- A field with a value for when it is missing. -/
def orDefault {α : Type} (read? : Json → Option α) (default : α) : Option Json → Option α
  | none => some default
  | some v => read? v

/-- A value that may be null. -/
def orNull {α : Type} (read? : Json → Option α) : Json → Option (Option α)
  | .null => some none
  | v => (read? v).map some

def bool? : Json → Option Bool
  | .bool b => some b
  | _ => none

/-- A list whose items can all be read. -/
def list? {α : Type} (read? : Json → Option α) : Json → Option (List α)
  | .arr items => items.mapM read?
  | _ => none

end LivePages.Json
