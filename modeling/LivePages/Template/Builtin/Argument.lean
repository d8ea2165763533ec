import LivePages.Json.Printer
import LivePages.Template.Library
import LivePages.Template.Value

/-!
Reading the value and the arguments of a filter as what the filter expects.
-/

namespace LivePages.Template.Builtin

/-- A kind of value that filters ask for, with the word that complaints use for it. -/
structure Kind (α : Type) where
  word : String
  read? : Json → Option α

def text : Kind String := ⟨"String", Json.str?⟩

def boolean : Kind Bool :=
  ⟨"bool", fun | .bool b => some b | _ => none⟩

def list : Kind (List Json) :=
  ⟨"Vec<Value>", fun | .arr l => some l | _ => none⟩

def float : Kind Float :=
  ⟨"f64", fun v => (Number.ofJson? v).map Number.toFloat⟩

/-- Whole numbers from `low` up to but not including `high`. -/
def wholeBetween (word : String) (low high : Int) : Kind Int :=
  ⟨word, fun | .int i => if low ≤ i && i < high then some i else none | _ => none⟩

def natural : Kind Nat :=
  ⟨"usize", fun v => ((wholeBetween "" 0 (Int.pow 2 64)).read? v).map Int.toNat⟩

def whole64 : Kind Int := wholeBetween "i64" (-Int.pow 2 63) (Int.pow 2 63)

def whole32 : Kind Int := wholeBetween "i32" (-Int.pow 2 31) (Int.pow 2 31)

def natural32 : Kind Int := wholeBetween "u32" 0 (Int.pow 2 32)

/-- The value a filter is applied to. -/
def Kind.value {α : Type} (k : Kind α) (filter : String) (v : Json) : Except Fault α :=
  match k.read? v with
  | some a => .ok a
  | none =>
    .error (.said ("Filter `" ++ filter ++ "` was called on an incorrect value: got `" ++ v.compact ++
      "` but expected a " ++ k.word))

/-- An argument that may be left out. -/
def Kind.arg? {α : Type} (k : Kind α) (filter name : String) (args : Arguments) :
    Except Fault (Option α) :=
  match args.get? name with
  | none => .ok none
  | some v =>
    match k.read? v with
    | some a => .ok (some a)
    | none =>
      .error (.said ("Filter `" ++ filter ++ "` received an incorrect type for arg `" ++ name ++
        "`: got `" ++ v.compact ++ "` but expected a " ++ k.word))

def Kind.argOr {α : Type} (k : Kind α) (filter name : String) (default : α) (args : Arguments) :
    Except Fault α := do
  pure ((← k.arg? filter name args).getD default)

/-- An argument that must be given. -/
def Kind.arg {α : Type} (k : Kind α) (filter name complaint : String) (args : Arguments) :
    Except Fault α := do
  match ← k.arg? filter name args with
  | some a => pure a
  | none => .error (.said complaint)

/-- A filter whose result is escaped like any other text. -/
def plainFilter (apply : Json → Arguments → Except Fault Json) : Filter :=
  ⟨false, apply⟩

end LivePages.Template.Builtin
