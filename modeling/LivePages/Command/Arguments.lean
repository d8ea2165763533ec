import LivePages.Text.Blank

/-!
The command line: options with a value, then a subcommand with its own options and arguments. An
option is given at most once and never with an empty value; `--` ends the options.
-/

namespace LivePages.Command

inductive Action
  | check
  | render (name : String) (data output : Option String)
  | watch
  deriving DecidableEq, Repr

structure Invocation where
  root : Option String
  config : String
  templates : Option String
  action : Action
  deriving DecidableEq, Repr

/-- Why a command line asks for no action. -/
inductive Halt
  | help
  | version
  | misuse
  deriving DecidableEq, Repr

/-- An option that takes a value. -/
structure Spec where
  long : String
  short : Char
  deriving DecidableEq, Repr

/-- What one level of the command line accepts. A level with subcommands stops at the first word
that is no option. -/
structure Level where
  options : List Spec
  hasVersion : Bool
  hasSubcommands : Bool
  arity : Nat

def root : Level :=
  ⟨[⟨"root", 'r'⟩, ⟨"config", 'C'⟩, ⟨"templates", 't'⟩], true, true, 0⟩

def check : Level := ⟨[], false, false, 0⟩

def render : Level := ⟨[⟨"data", 'd'⟩, ⟨"output", 'o'⟩], false, false, 1⟩

def watch : Level := ⟨[], false, false, 0⟩

/-- The values of options by their long names, the plain arguments, and the words that follow a
subcommand's name. -/
structure Found where
  values : List (String × String)
  plain : List String
  subcommand : Option (String × List String)
  deriving DecidableEq, Repr

def Found.value? (f : Found) (long : String) : Option String :=
  (f.values.find? (·.1 = long)).map (·.2)

def Found.set (f : Found) (long value : String) : Except Halt Found :=
  if value.isEmpty || (f.value? long).isSome then .error .misuse
  else .ok { f with values := f.values ++ [(long, value)] }

def Found.add (f : Found) (arity : Nat) (word : String) : Except Halt Found :=
  if f.plain.length < arity then .ok { f with plain := f.plain ++ [word] } else .error .misuse

/-- What a word looks like. -/
inductive Shape
  | endOfOptions
  | long (name : String) (value : Option String)
  | short (name : Char) (value : Option String)
  | plain

def withoutEquals : List Char → Option String
  | [] => none
  | '=' :: r => some (String.ofList r)
  | r => some (String.ofList r)

def shape (word : String) : Shape :=
  match word.toList with
  | ['-', '-'] => .endOfOptions
  | '-' :: '-' :: r =>
    let (name, value) := Text.cutAt '=' r
    .long (String.ofList name) (value.map String.ofList)
  | '-' :: c :: r => .short c (withoutEquals r)
  | _ => .plain

/-- The option or flag of a word. -/
inductive Meaning
  | option (long : String) (value : Option String)
  | halt (h : Halt)

def Level.long (l : Level) (name : String) (value : Option String) : Meaning :=
  match l.options.find? (·.long = name) with
  | some o => .option o.long value
  | none =>
    if value.isSome then .halt .misuse
    else if name = "help" then .halt .help
    else if name = "version" && l.hasVersion then .halt .version
    else .halt .misuse

def Level.short (l : Level) (name : Char) (value : Option String) : Meaning :=
  match l.options.find? (·.short = name) with
  | some o => .option o.long value
  | none =>
    if name = 'h' then .halt .help
    else if name = 'V' && l.hasVersion then .halt .version
    else .halt .misuse

def isPlain (word : String) : Bool :=
  match shape word with
  | .plain => true
  | _ => false

/-- Reads the words of one level. -/
def Level.read (l : Level) (f : Found) : List String → Except Halt Found
  | [] => .ok f
  | word :: rest =>
    let meant : Option Meaning :=
      match shape word with
      | .long name value => some (l.long name value)
      | .short name value => some (l.short name value)
      | _ => none
    match meant, shape word with
    | some (.halt h), _ => .error h
    | some (.option long (some value)), _ => do l.read (← f.set long value) rest
    | some (.option long none), _ =>
      match rest with
      | [] => .error .misuse
      | value :: rest =>
        if isPlain value then do l.read (← f.set long value) rest else .error .misuse
    | none, .endOfOptions => rest.foldlM (fun f w => f.add l.arity w) f
    | none, _ =>
      if l.hasSubcommands then .ok { f with subcommand := some (word, rest) }
      else do l.read (← f.add l.arity word) rest

def Level.parse (l : Level) (words : List String) : Except Halt Found :=
  l.read ⟨[], [], none⟩ words

/-- The names that `help` may be followed by. -/
def subcommands : List String := ["check", "render", "watch", "help"]

def helpFor : List String → Halt
  | [] => .help
  | ["help", s] => if subcommands.contains s then .help else .misuse
  | [s] => if subcommands.contains s then .help else .misuse
  | _ => .misuse

def action (name : String) (words : List String) : Except Halt Action :=
  match name with
  | "check" => (check.parse words).map fun _ => .check
  | "watch" => (watch.parse words).map fun _ => .watch
  | "render" => do
    let f ← render.parse words
    match f.plain with
    | [name] => pure (.render name (f.value? "data") (f.value? "output"))
    | _ => .error .misuse
  | "help" => .error (helpFor words)
  | _ => .error .misuse

def defaultConfig : String := "hotpage.toml"

def parse (words : List String) : Except Halt Invocation := do
  let f ← root.parse words
  match f.subcommand with
  | none => .error .misuse
  | some (name, rest) =>
    let a ← action name rest
    pure ⟨f.value? "root", (f.value? "config").getD defaultConfig, f.value? "templates", a⟩

end LivePages.Command
