import LivePages.Text.Quoted

/-!
What can go wrong with a template, when it is read, when it is added to an engine and when it is
rendered. Every fault has one message; a fault that wraps another has that one as its cause.
-/

namespace LivePages.Template

/-- Where, other than in the rendered template itself, a rendering stood when it failed. -/
inductive Elsewhere
  | here
  | template (name : String)
  | aParent
  deriving DecidableEq, Repr

/-- The place of a failed rendering: the template asked for, the definition that was running, and
the template the text came from. -/
structure Scene where
  template : String
  running : Option (String × String)
  elsewhere : Elsewhere
  deriving DecidableEq, Repr

def Scene.text (s : Scene) : String :=
  "Failed to render '" ++ s.template ++ "'" ++
    (match s.running with
      | none => ""
      | some (l, name) => ": error while rendering macro `" ++ l ++ "::" ++ name ++ "`") ++
    (match s.elsewhere with
      | .here => ""
      | .template name => " (error happened in '" ++ name ++ "')."
      | .aParent => " (error happened in a parent template)")

/-- `said` is for the words of a filter, function or test about its own arguments. -/
inductive Fault
  | said (text : String)
  | unreadable (template : String) (cause : Fault)
  | outsideGrammar
  | failed (scene : Scene) (cause : Fault)
  | inFunction (name : String) (cause : Fault)
  | inFilter (name : String) (cause : Fault)
  | inTest (name : String) (cause : Fault)
  | noTemplate (name : String)
  | noFunction (name : String)
  | noFilter (name : String)
  | noTest (name : String)
  | missingParent (name parent : String)
  | circularParents (name : String) (chain : List String)
  | wholeOutOfRange (text : String)
  | repeatedBlock (name : String)
  | repeatedDefinition (name : String)
  | missingImport (template file : String)
  | dataNotObject
  | unknownPath (path template : String)
  | unknownKeyPath (path template evaluated : String)
  | badKey (path reason : String)
  | keyNotScalar (key path : String)
  | defaultWithoutValue
  | unjoinablePath (path : String)
  | unjoinableCall (name : String)
  | comparisonOfNothing
  | pathNotNumber (path : String)
  | callNotNumber (name : String)
  | expressionNotNumber
  | textAsNumber (s : String)
  | booleanAsNumber (b : Bool)
  | joinedAsNumber (text : String)
  | testAsNumber (name : String)
  | outOfRange (left : Int) (sign : String) (right : Int) (unsigned : Bool)
  | remainderByZero (left right : String)
  | callNotBoolean (name : String)
  | notATextInText (item : String)
  | notATextInObject (item : String)
  | notAContainer
  | keysOfNonObject (container : String)
  | objectWithoutKeys (container : String)
  | cannotIterate (container : String)
  | badContainer (outline : String)
  | embeddedParent (name : String)
  | nothingAbove
  | outsideLoop (what : String)
  | missingArgument (definition argument : String)
  | noDefinition (library name template : String)
  | noLibrary (library template : String)
  | tooDeep
  deriving Repr

def Fault.message : Fault → String
  | .said t => t
  | .unreadable name _ => "Failed to parse '" ++ name ++ "'"
  | .outsideGrammar => " --> the text is not a template"
  | .failed scene _ => scene.text
  | .inFunction name _ => "Function call '" ++ name ++ "' failed"
  | .inFilter name _ => "Filter call '" ++ name ++ "' failed"
  | .inTest name _ => "Test call '" ++ name ++ "' failed"
  | .noTemplate name => "Template '" ++ name ++ "' not found"
  | .noFunction name => "Function '" ++ name ++ "' not found"
  | .noFilter name => "Filter '" ++ name ++ "' not found"
  | .noTest name => "Test '" ++ name ++ "' not found"
  | .missingParent name parent =>
    "Template '" ++ name ++ "' is inheriting from '" ++ parent ++
      "', which doesn't exist or isn't loaded."
  | .circularParents name chain =>
    "Circular extend detected for template '" ++ name ++ "'. Inheritance chain: `" ++
      Text.quotedList chain ++ "`"
  | .wholeOutOfRange t => "Integer out of bounds: `" ++ t ++ "`"
  | .repeatedBlock name => "Block `" ++ name ++ "` is duplicated"
  | .repeatedDefinition name => "Macro `" ++ name ++ "` is duplicated"
  | .missingImport template file =>
    "Template `" ++ template ++ "` loads macros from `" ++ file ++ "` which isn't present in Tera"
  | .dataNotObject => "Creating a Context from a Value/Serialize requires it being a JSON object"
  | .unknownPath path template =>
    "Variable `" ++ path ++ "` not found in context while rendering '" ++ template ++ "'"
  | .unknownKeyPath path template evaluated =>
    "Variable `" ++ path ++ "` not found in context while rendering '" ++ template ++
      "': the evaluated version was `" ++ evaluated ++ "`. Maybe the index is out of bounds?"
  | .badKey path reason => "Variable " ++ path ++ " can not be evaluated because: " ++ reason
  | .keyNotScalar key path =>
    "Only variables evaluating to String or Number can be used as index (`" ++ key ++ "` of `" ++
      path ++ "`)"
  | .defaultWithoutValue => "The `default` filter requires a `value` argument."
  | .unjoinablePath path =>
    "Tried to concat a value that is not a string or a number from ident " ++ path
  | .unjoinableCall name =>
    "Tried to concat a value that is not a string or a number from function call " ++ name
  | .comparisonOfNothing => "Comparison to NaN"
  | .pathNotNumber path =>
    "Variable `" ++ path ++ "` was used in a math operation but is not a number"
  | .callNotNumber name =>
    "Function `" ++ name ++ "` was used in a math operation but is not returning a number"
  | .expressionNotNumber => "Tried to do math with an expression not resulting in a number"
  | .textAsNumber s => "Tried to do math with a string: `" ++ s ++ "`"
  | .booleanAsNumber b =>
    "Tried to do math with a boolean: `" ++ (if b then "true" else "false") ++ "`"
  | .joinedAsNumber t => "Tried to do math with a string concatenation: " ++ t
  | .testAsNumber name => "Tried to do math with a test: " ++ name
  | .outOfRange a sign b unsigned =>
    toString a ++ " " ++ sign ++ " " ++ toString b ++ " results in an out of bounds " ++
      (if unsigned then "u64" else "i64")
  | .remainderByZero a b => "Tried to do a modulo by zero: " ++ a ++ "/" ++ b
  | .callNotBoolean name =>
    "Function `" ++ name ++ "` was used in a logic operation but is not returning a bool"
  | .notATextInText item =>
    "Tried to check if " ++ item ++ " is in a string, but it isn't a string"
  | .notATextInObject item =>
    "Tried to check if " ++ item ++ " is in a object, but it isn't a string"
  | .notAContainer => "The `in` operator only supports strings, arrays and objects."
  | .keysOfNonObject c =>
    "Tried to iterate using key value on variable `" ++ c ++ "`, but it isn't an object/map"
  | .objectWithoutKeys c =>
    "Tried to iterate using key value on variable `" ++ c ++ "`, but it is missing a key"
  | .cannotIterate c =>
    "Tried to iterate on a container (`" ++ c ++ "`) that has a unsupported type"
  | .badContainer outline =>
    "Forloop containers have to be an ident or a function call (tried to iterate on '" ++
      outline ++ "')"
  | .embeddedParent name =>
    "Inheritance in included templates is currently not supported: extended `" ++ name ++ "`"
  | .nothingAbove => "Tried to use super() in the top level block"
  | .outsideLoop what => "Attempted `" ++ what ++ "` while not in `for loop`"
  | .missingArgument d a => "Macro `" ++ d ++ "` is missing the argument `" ++ a ++ "`"
  | .noDefinition l name template =>
    "Macro `" ++ l ++ "::" ++ name ++ "` not found in template `" ++ template ++ "`"
  | .noLibrary l template =>
    "Macro namespace `" ++ l ++ "` was not found in template `" ++ template ++
      "`. Have you maybe forgotten to import it, or misspelled it?"
  | .tooDeep => "The template is nested too deeply"

/-- The messages of the causes, outermost first. -/
def Fault.chain : Fault → List String
  | .unreadable _ c => c.message :: c.chain
  | .failed _ c => c.message :: c.chain
  | .inFunction _ c => c.message :: c.chain
  | .inFilter _ c => c.message :: c.chain
  | .inTest _ c => c.message :: c.chain
  | _ => []

end LivePages.Template
