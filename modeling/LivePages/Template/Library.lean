import LivePages.Json.Value
import LivePages.Template.Fault

/-!
What templates can call: filters, functions and tests. The result of a safe filter or function is
put into the page as it is, every other text is escaped.
-/

namespace LivePages.Template

abbrev Arguments := List (String × Json)

def Arguments.get? (args : Arguments) (name : String) : Option Json :=
  (args.find? (·.1 = name)).map (·.2)

structure Filter where
  safe : Bool
  apply : Json → Arguments → Except Fault Json

structure Function where
  safe : Bool
  call : Arguments → Except Fault Json

/-- A test is also asked about a path that leads nowhere. -/
abbrev Test := Option Json → List Json → Except Fault Bool

structure Library where
  filter? : String → Option Filter
  function? : String → Option Function
  test? : String → Option Test

/-- What is found by name in a list. -/
def named? {α : Type} (l : List (String × α)) (name : String) : Option α :=
  (l.find? (·.1 = name)).map (·.2)

/-- A library with entries of its own before those of another. -/
def Library.extend (base : Library) (filters : List (String × Filter))
    (functions : List (String × Function)) : Library where
  filter? name := named? filters name <|> base.filter? name
  function? name := named? functions name <|> base.function? name
  test? := base.test?

end LivePages.Template
