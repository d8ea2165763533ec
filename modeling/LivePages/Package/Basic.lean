import LivePages.Json.Record

/-!
Packages as templates see them. A value that is missing, malformed or without a name stands for no
package.
-/

namespace LivePages

/-- Which package, in which version and, if told, from which repository. -/
structure PackageInfo where
  name : String
  version : String
  repository : Option String
  deriving DecidableEq, Repr

structure Package where
  info : PackageInfo
  suspended : Bool
  autoUpdates : Bool
  deriving DecidableEq, Repr

open Json

def PackageInfo.read? (v : Json) : Option PackageInfo :=
  match v.record? ["name", "version", "repositoryName"] with
  | some [name, version, repository] => do
    pure ⟨← required str? name, ← orDefault str? "" version,
      ← orDefault (orNull str?) none repository⟩
  | _ => none

def PackageInfo.toJson (i : PackageInfo) : Json :=
  ofFields
    ([("name", .str i.name), ("version", .str i.version)] ++
      (match i.repository with
        | none => []
        | some r => [("repositoryName", .str r)]))

namespace Package

/-- The part of a package that says what is wanted. -/
def readSpec? (v : Json) : Option (PackageInfo × Bool) :=
  match v.record? ["packageInfo", "suspend"] with
  | some [info, suspend] => do
    pure (← required PackageInfo.read? info, ← orDefault bool? false suspend)
  | _ => none

def read? (v : Json) : Option Package :=
  match v.record? ["spec", "autoUpdatesEnabled"] with
  | some [spec, auto] => do
    let (info, suspended) ← required readSpec? spec
    pure ⟨info, suspended, ← orDefault bool? false auto⟩
  | _ => none

def toJson (p : Package) : Json :=
  ofFields
    [("spec", ofFields [("packageInfo", p.info.toJson), ("suspend", .bool p.suspended)]),
     ("autoUpdatesEnabled", .bool p.autoUpdates)]

/-- The package that a value handed to a helper stands for. -/
def ofValue? (v : Option Json) : Option Package :=
  match v.bind read? with
  | some p => if p.info.name.isEmpty then none else some p
  | none => none

/-- A package, or null for none. -/
def handleJson : Option Package → Json
  | none => .null
  | some p => p.toJson

end Package

end LivePages
