import LivePages.Config.Mirrors
import LivePages.Package.Basic
import LivePages.Package.Version
import LivePages.Text.Percent

/-!
What the template helpers ask others for: where a package's manifest is published, and whether one
version is newer than another.
-/

namespace LivePages

inductive LookupFault
  | missingVersion (package : String)
  | invalidVersion (version : String)
  | failed (reason : String)
  deriving DecidableEq, Repr

def LookupFault.message : LookupFault → String
  | .missingVersion p => "package `" ++ p ++ "` has no version"
  | .invalidVersion v => "invalid version `" ++ v ++ "`"
  | .failed r => "lookup failed: " ++ r

structure Lookups where
  manifestUrl : PackageInfo → Except LookupFault String
  isUpgradable : String → String → Except LookupFault Bool

/-- A URL without the slashes at its end. -/
def withoutEndSlashes (url : String) : String :=
  String.ofList (url.toList.reverse.dropWhile (· == '/')).reverse

/-- The manifest of a package lies below its repository, by name and version. -/
def manifestUrl (m : Config.Mirrors) (p : PackageInfo) : Except LookupFault String :=
  if p.version.isEmpty then .error (.missingVersion p.name)
  else
    .ok (withoutEndSlashes (m.urlFor p.repository) ++ "/" ++ Text.Percent.escape p.name ++ "/" ++
      Text.Percent.escape p.version ++ "/package.yaml")

def Version.read (s : String) : Except LookupFault Version :=
  match Version.parse? s with
  | some v => .ok v
  | none => .error (.invalidVersion s)

/-- Whether `latest` is newer than `current`, which is read first. -/
def isUpgradable (current latest : String) : Except LookupFault Bool := do
  let a ← Version.read current
  let b ← Version.read latest
  pure (Version.compare b a == .gt)

def Lookups.ofMirrors (m : Config.Mirrors) : Lookups :=
  ⟨LivePages.manifestUrl m, LivePages.isUpgradable⟩

/-- Lookups that never succeed. -/
def Lookups.failing (reason : String) : Lookups :=
  ⟨fun _ => .error (.failed reason), fun _ _ => .error (.failed reason)⟩

end LivePages
