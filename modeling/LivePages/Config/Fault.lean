import LivePages.Decimal.Layout
import LivePages.FileTree.Ask
import LivePages.Text.Quoted
import LivePages.Toml.Value

/-!
What can be wrong with a configuration: the file, its text, the kinds of its values, and the values
themselves.
-/

namespace LivePages.Config

/-- A value that does not fit the place where it stands. -/
inductive Misfit
  | unknownField (name : String) (known : List String)
  | missingField (name : String)
  | wrongKind (found : Toml) (expected : String)
  | unknownChoice (name : String) (known : List String)
  | tooFewItems (count : Nat) (expected : String)
  | notAChoice (reason : String)

/-- A float with a point, as it is quoted in messages. -/
def messageFloat : Decimal.Layout :=
  { Decimal.Layout.plain with keepsPoint := true }

/-- The kind of a value, with the value where it is a scalar. -/
def described : Toml → String
  | .str s => "string " ++ Text.quoted s
  | .int i => "integer `" ++ toString i ++ "`"
  | .float x => "floating point `" ++ messageFloat.write x ++ "`"
  | .bool b => "boolean `" ++ (if b then "true" else "false") ++ "`"
  | .moment _ => "map"
  | .arr _ => "sequence"
  | .table _ => "map"

def inQuotes (s : String) : String :=
  "`" ++ s ++ "`"

/-- The names one may use: two are joined by `or`, more are counted up. -/
def oneOf : List String → String
  | [] => "there are no fields"
  | [a] => inQuotes a
  | [a, b] => inQuotes a ++ " or " ++ inQuotes b
  | l => "one of " ++ String.intercalate ", " (l.map inQuotes)

def Misfit.message : Misfit → String
  | .unknownField name known => "unknown field `" ++ name ++ "`, expected " ++ oneOf known
  | .missingField name => "missing field `" ++ name ++ "`"
  | .wrongKind found expected => "invalid type: " ++ described found ++ ", expected " ++ expected
  | .unknownChoice name known => "unknown variant `" ++ name ++ "`, expected " ++ oneOf known
  | .tooFewItems count expected =>
    "invalid length " ++ toString count ++ ", expected " ++ expected
  | .notAChoice reason => reason

inductive Fault
  | unreadable (path : String) (cause : DiskFault)
  | notToml
  | misfit (cause : Misfit)
  | invalidLayout (name : String)
  | invalidName (name : String)
  | repeatedName (name : String)
  | invalidRequirement (component required : String)
  | requiresItself (component : String)
  | rootNotAFolder (path : String)
  | invalidAddress (url : String)

/-- What a value that can be read but not used is reported with. -/
def unusable (reason : String) : String :=
  "Config validation error: " ++ reason

def Fault.message : Fault → String
  | .unreadable path _ => "IO error when reading `" ++ path ++ "`"
  | .notToml => "Config file parsing error"
  | .misfit _ => "Config file parsing error"
  | .invalidLayout name => unusable ("[templates.layout] invalid layout name `" ++ name ++ "`")
  | .invalidName name => unusable ("invalid template name `" ++ name ++ "`")
  | .repeatedName name => "template name `" ++ name ++ "` is declared more than once"
  | .invalidRequirement component required =>
    unusable ("component `" ++ component ++ "` has invalid requirement `" ++ required ++ "`")
  | .requiresItself component => unusable ("component `" ++ component ++ "` requires itself")
  | .rootNotAFolder path => unusable ("[templates.root] `" ++ path ++ "` is not a directory")
  | .invalidAddress url =>
    unusable ("repository url `" ++ url ++ "` must start with http:// or https://")

/-- The first line of what a text that does not fit is reported with. -/
def tomlHeading : String := "TOML parse error"

/-- The messages of the causes, outermost first. -/
def Fault.chain : Fault → List String
  | .unreadable _ cause => [cause.message]
  | .notToml => [tomlHeading]
  | .misfit m => [tomlHeading ++ "\n" ++ m.message]
  | _ => []

end LivePages.Config
