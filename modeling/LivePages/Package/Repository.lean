import LivePages.Json.Record

/-!
Package repositories with the conditions that their status reports. A repository is ready when the
first of its conditions of type `Ready` is `True`.
-/

namespace LivePages

structure Condition where
  type : String
  status : String
  reason : Option String
  message : Option String
  deriving DecidableEq, Repr

structure Repository where
  name : String
  conditions : List Condition
  deriving DecidableEq, Repr

open Json

namespace Condition

def read? (v : Json) : Option Condition :=
  match v.record? ["type", "status", "reason", "message"] with
  | some [type, status, reason, message] => do
    pure ⟨← required str? type, ← required str? status,
      ← orDefault (orNull str?) none reason, ← orDefault (orNull str?) none message⟩
  | _ => none

def optionalText (name : String) : Option String → List (String × Json)
  | none => []
  | some s => [(name, .str s)]

def toJson (c : Condition) : Json :=
  ofFields ([("type", .str c.type), ("status", .str c.status)] ++
    optionalText "reason" c.reason ++ optionalText "message" c.message)

end Condition

namespace Repository

def readName? (v : Json) : Option String :=
  match v.record? ["name"] with
  | some [name] => orDefault str? "" name
  | _ => none

def readConditions? (v : Json) : Option (List Condition) :=
  match v.record? ["conditions"] with
  | some [conditions] => orDefault (list? Condition.read?) [] conditions
  | _ => none

def read? (v : Json) : Option Repository :=
  match v.record? ["metadata", "status"] with
  | some [metadata, status] => do
    pure ⟨← orDefault readName? "" metadata, ← orDefault readConditions? [] status⟩
  | _ => none

def ofValue? (v : Option Json) : Option Repository :=
  v.bind read?

def toJson (r : Repository) : Json :=
  ofFields
    [("metadata", ofFields [("name", .str r.name)]),
     ("status", ofFields [("conditions", .arr (r.conditions.map Condition.toJson))])]

/-- The first condition of a type. -/
def find? (r : Repository) (type : String) : Option Condition :=
  r.conditions.find? (·.type = type)

def isReady (r : Repository) : Bool :=
  match r.find? "Ready" with
  | none => false
  | some c => c.status == "True"

end Repository

end LivePages
