import LivePages.Config.Settings
import LivePages.Toml.Document

/-!
Reading settings from TOML. Every table may also be written as the list of its values in order; a
field that is not known is refused, and the first misfit in the order of the text is reported.
-/

namespace LivePages.Config

abbrev Reads (α : Type) := Toml → Except Misfit α

namespace Reads

def text (expected : String) : Reads String
  | .str s => .ok s
  | v => .error (.wrongKind v expected)

def string : Reads String :=
  text "a string"

def boolean : Reads Bool
  | .bool b => .ok b
  | v => .error (.wrongKind v "a boolean")

def list {α : Type} (item : Reads α) : Reads (List α)
  | .arr items => items.mapM item
  | v => .error (.wrongKind v "a sequence")

/-- The one field of a moment, where a moment is taken for a table. -/
def momentField : String := "$__toml_private_datetime"

/-- The fields of a table, in their order. -/
def fields? : Toml → Option (List (String × Toml))
  | .table fields => some fields
  | .moment t => some [(momentField, .str t)]
  | _ => none

/-- A table of texts in the order of its keys. -/
def texts : Reads (List (String × String)) := fun v =>
  match fields? v with
  | none => .error (.wrongKind v "a map")
  | some fields => do
    let pairs ← fields.mapM fun (k, v) => (string v).map (k, ·)
    pure (pairs.mergeSort fun a b => a.1 ≤ b.1)

/-- A record that starts as `start` and is set field by field. -/
def record {α : Type} (title : String) (names : List String)
    (set : α → String → Toml → Except Misfit α) (start : α) : Reads α := fun v =>
  match v with
  | .arr items => (names.zip items).foldlM (fun a (k, v) => set a k v) start
  | v =>
    match fields? v with
    | some fields => fields.foldlM (fun a (k, v) => set a k v) start
    | none => .error (.wrongKind v ("struct " ++ title))

/-- One of several names, or a table with that name and nothing in it. -/
def choice {α : Type} (name : α → String) (all : List α) : Reads α := fun v =>
  let find (s : String) : Except Misfit α :=
    match all.find? (name · = s) with
    | some a => .ok a
    | none => .error (.unknownChoice s (all.map name))
  match v with
  | .str s => find s
  | .table [] => .error (.notAChoice "wanted exactly 1 element, found 0 elements")
  | .table [(k, inner)] => do
    let a ← find k
    match inner with
    | .table [] => pure a
    | .arr [] => pure a
    | .table _ => throw (.notAChoice "expected empty table")
    | .arr _ => throw (.notAChoice "expected empty array")
    | _ => throw (.notAChoice "expected table")
  | .table _ => .error (.notAChoice "wanted exactly 1 element, more than 1 element")
  | _ => .error (.notAChoice "wanted string or table")

end Reads

namespace Component

/-- A component under way; its name may still be missing. -/
structure Draft where
  name : Option String
  requires : List String

def fieldNames : List String := ["name", "requires"]

def Draft.set (d : Draft) (k : String) (v : Toml) : Except Misfit Draft :=
  match k with
  | "name" => (Reads.string v).map fun s => { d with name := some s }
  | "requires" => (Reads.list Reads.string v).map fun l => { d with requires := l }
  | k => .error (.unknownField k fieldNames)

def read : Reads Component := fun v => do
  let d ← Reads.record "ComponentConfig" fieldNames Draft.set ⟨none, []⟩ v
  match d.name, v with
  | some name, _ => pure ⟨name, d.requires⟩
  | none, .arr _ => throw (.tooFewItems 0 "struct ComponentConfig with 2 elements")
  | none, _ => throw (.missingField "name")

end Component

namespace Sources

def fieldNames : List String := ["root", "layout", "pages", "components"]

def set (s : Sources) (k : String) (v : Toml) : Except Misfit Sources :=
  match k with
  | "root" => (Reads.text "path string" v).map fun p => { s with root := p }
  | "layout" => (Reads.string v).map fun n => { s with layout := n }
  | "pages" => (Reads.list Reads.string v).map fun l => { s with pages := l }
  | "components" => (Reads.list Component.read v).map fun l => { s with components := l }
  | k => .error (.unknownField k fieldNames)

def read : Reads Sources :=
  Reads.record "TemplatesConfig" fieldNames set Sources.default

end Sources

namespace Reload

def fieldNames : List String := ["enable", "on_error"]

def set (r : Reload) (k : String) (v : Toml) : Except Misfit Reload :=
  match k with
  | "enable" => (Reads.boolean v).map fun b => { r with enabled := b }
  | "on_error" => (Reads.choice Policy.name Policy.all v).map fun p => { r with onError := p }
  | k => .error (.unknownField k fieldNames)

def read : Reads Reload :=
  Reads.record "WatchConfig" fieldNames set Reload.default

end Reload

namespace Mirrors

def fieldNames : List String := ["url", "mirrors"]

def set (m : Mirrors) (k : String) (v : Toml) : Except Misfit Mirrors :=
  match k with
  | "url" => (Reads.string v).map fun u => { m with url := u }
  | "mirrors" => (Reads.texts v).map fun l => { m with mirrors := l }
  | k => .error (.unknownField k fieldNames)

def read : Reads Mirrors :=
  Reads.record "RepositoryConfig" fieldNames set Mirrors.default

end Mirrors

namespace Settings

def fieldNames : List String := ["templates", "watch", "repository"]

def set (s : Settings) (k : String) (v : Toml) : Except Misfit Settings :=
  match k with
  | "templates" => (Sources.read v).map fun t => { s with sources := t }
  | "watch" => (Reload.read v).map fun r => { s with reload := r }
  | "repository" => (Mirrors.read v).map fun m => { s with mirrors := m }
  | k => .error (.unknownField k fieldNames)

/-- The settings that a text describes; what it leaves out has its default. -/
def parse (text : String) : Except Fault Settings :=
  match Toml.parse? text with
  | none => .error .notToml
  | some fields =>
    (fields.foldlM (fun s (k, v) => set s k v) Settings.default).mapError Fault.misfit

/-- The settings in a file. -/
def load (path : String) : Ask (Except Fault Settings) := do
  match ← Ask.text path with
  | .error e => pure (.error (.unreadable path e))
  | .ok text =>
    match parse text with
    | .error e => pure (.error e)
    | .ok s => pure (.ok { s with path := ← settled path })

end Settings

end LivePages.Config
