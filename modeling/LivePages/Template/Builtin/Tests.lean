import LivePages.Decimal.Remainder
import LivePages.Template.Builtin.Argument
import LivePages.Text.Pattern.Reader

/-!
Tests: what can be asked about a path with `is`. Only `defined` and `undefined` have an answer for a
path that leads nowhere.
-/

namespace LivePages.Template.Builtin

def complaint (test rest : String) : Fault :=
  .said ("Tester `" ++ test ++ "` was called " ++ rest)

def allowArgs (test : String) (limit : Nat) (args : List Json) : Except Fault Unit :=
  if args.length ≤ limit then .ok ()
  else if limit = 0 then
    .error (complaint test "with some args but this test doesn't take args")
  else
    .error (complaint test
      ("with " ++ toString args.length ++ " args, the max number is " ++ toString limit))

def present (test : String) (v : Option Json) : Except Fault Json :=
  match v with
  | some v => .ok v
  | none => .error (complaint test "on an undefined variable")

def textPart (test part : String) (v : Option Json) : Except Fault String :=
  match v.bind Json.str? with
  | some s => .ok s
  | none => .error (complaint test (part ++ " that isn't a string"))

def isOdd (test : String) (v : Json) : Except Fault Bool :=
  match Number.ofJson? v with
  | some n => .ok (Decimal.remainder n.toFloat 2.0 != 0.0)
  | none => .error (complaint test "on a variable that isn't a number")

/-- A test without arguments on a path that leads somewhere. -/
def plainTest (name : String) (f : Json → Except Fault Bool) : String × Test :=
  (name, fun v args => do
    allowArgs name 0 args
    f (← present name v))

/-- A test with one argument. -/
def testWith (name : String) (f : Json → Option Json → Except Fault Bool) : String × Test :=
  (name, fun v args => do
    allowArgs name 1 args
    f (← present name v) args.head?)

def textTest (name : String) (f : String → String → Bool) : String × Test :=
  testWith name fun v arg => do
    let s ← textPart name "on a variable" (some v)
    let t ← textPart name "with a parameter" arg
    pure (f s t)

def isDefined (name : String) (answer : Bool) : String × Test :=
  (name, fun v args => do
    allowArgs name 0 args
    pure (v.isSome == answer))

def divisibleBy : String × Test :=
  testWith "divisibleby" fun v arg =>
    match Number.ofJson? v with
    | none => .error (complaint "divisibleby" "on a variable that isn't a number")
    | some n =>
      match arg.bind Number.ofJson? with
      | none => .error (complaint "divisibleby" "with a parameter that isn't a number")
      | some d => .ok (Decimal.remainder n.toFloat d.toFloat == 0.0)

def containing : String × Test :=
  testWith "containing" fun v arg => do
    match v with
    | .str s =>
      let t ← textPart "containing" "with a parameter" arg
      pure (Text.holds t.toList s.toList)
    | .arr items => pure (items.any fun x => some x == arg)
    | .obj fields =>
      let t ← textPart "containing" "with a parameter" arg
      pure (Json.Fields.get? fields t).isSome
    | _ => .error (.said "Tester `containing` can only be used on string, array or map")

def matching : String × Test :=
  testWith "matching" fun v arg => do
    let s ← textPart "matching" "on a variable" (some v)
    let p ← textPart "matching" "with a parameter" arg
    match Text.Pattern.read p with
    | .ok pattern => pure (pattern.isMatch s)
    | .error e =>
      .error (.said ("Tester `matching`: Invalid regular expression: " ++ e.message p))

def tests : List (String × Test) :=
  [isDefined "defined" true,
   isDefined "undefined" false,
   plainTest "odd" (isOdd "odd"),
   plainTest "even" fun v => (isOdd "odd" v).map (!·),
   plainTest "string" fun v => .ok v.str?.isSome,
   plainTest "number" fun v => .ok (isNumber v),
   divisibleBy,
   plainTest "iterable" fun v => .ok (match v with | .arr _ => true | .obj _ => true | _ => false),
   plainTest "object" fun v => .ok (match v with | .obj _ => true | _ => false),
   textTest "starting_with" fun s t => t.toList.isPrefixOf s.toList,
   textTest "ending_with" fun s t => t.toList.isSuffixOf s.toList,
   containing,
   matching]

end LivePages.Template.Builtin
