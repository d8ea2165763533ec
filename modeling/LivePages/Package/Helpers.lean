import LivePages.Json.Printer
import LivePages.Markdown.Render
import LivePages.Package.Lookup
import LivePages.Package.Repository
import LivePages.Template.Builtin

/-!
The filters and functions for package pages. None of them ever fails: what cannot be read or looked
up gives the empty text or false.
-/

namespace LivePages.Helpers

open Template (Arguments Filter Function Library)

def markdown (v : Json) : Json :=
  match v with
  | .null => .str ""
  | v => .str (Markdown.render v.plainText)

/-- A list in reverse; any other value as it is. -/
def reversed : Json → Json
  | .arr items => .arr items.reverse
  | v => v

def urlEscape (v : Json) : Json :=
  .str (Text.Percent.escape v.plainText)

def package? (args : Arguments) : Option Package :=
  Package.ofValue? (args.get? "pkg")

def packageManifestUrl (l : Lookups) (args : Arguments) : Json :=
  match package? args with
  | none => .str ""
  | some p =>
    match l.manifestUrl p.info with
    | .ok url => .str url
    | .error _ => .str ""

def isUpgradable (l : Lookups) (args : Arguments) : Json :=
  match (args.get? "current").bind Json.str?, (args.get? "latest").bind Json.str? with
  | some current, some latest =>
    match l.isUpgradable current latest with
    | .ok b => .bool b
    | .error _ => .bool false
  | _, _ => .bool false

def isRepositoryReady (args : Arguments) : Json :=
  match Repository.ofValue? (args.get? "repo") with
  | some r => .bool r.isReady
  | none => .bool false

def autoUpdateEnabled (args : Arguments) : Json :=
  match package? args with
  | some p => .bool p.autoUpdates
  | none => .bool false

def isSuspended (args : Arguments) : Json :=
  match package? args with
  | some p => .bool p.suspended
  | none => .bool false

/-- A filter that cannot fail and takes no arguments. -/
def total (safe : Bool) (f : Json → Json) : Filter :=
  ⟨safe, fun v _ => .ok (f v)⟩

def answering (f : Arguments → Json) : Function :=
  ⟨false, fun args => .ok (f args)⟩

def filters : List (String × Filter) :=
  [("markdown", total true markdown),
   ("reversed", total false reversed),
   ("url_escape", total false urlEscape)]

def functions (l : Lookups) : List (String × Function) :=
  [("package_manifest_url", answering (packageManifestUrl l)),
   ("is_upgradable", answering (isUpgradable l)),
   ("is_repo_status_ready", answering isRepositoryReady),
   ("auto_update_enabled", answering autoUpdateEnabled),
   ("is_suspended", answering isSuspended)]

/-- The standard library with the helpers. -/
def library (l : Lookups) : Library :=
  Library.standard.extend filters (functions l)

end LivePages.Helpers
