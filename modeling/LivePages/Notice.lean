import LivePages.Text.Blank
import LivePages.Text.Search
import LivePages.Text.Truncate

/-!
Notices on the terminal: a label in brackets and a message, which is cut so that the line fits. A
label has a colour by its name.
-/

namespace LivePages

inductive Notice
  | said (label message : String)
  | compiled (count number : Nat)
  | superseded (number newer : Nat)
  deriving DecidableEq, Repr

namespace Notice

/-- The width of a line where the terminal does not tell its own. -/
def lineWidth : Nat := 120

/-- What a label takes beside its own octets: two brackets and a blank. -/
def labelRoom : Nat := 3

def label : Notice → String
  | said l _ => l
  | compiled _ _ => "compile"
  | superseded _ _ => "compile"

/-- The message of a notice; `elapsed` says how long a compile took. -/
def message (elapsed : String) : Notice → String
  | said _ m => m
  | compiled count number =>
    toString count ++ " templates ready in " ++ elapsed ++ " (generation " ++ toString number ++ ")"
  | superseded number newer =>
    "generation " ++ toString number ++ " superseded by generation " ++ toString newer

def cut (label message : String) (width : Nat := lineWidth) : String :=
  Text.truncate (width - (label.utf8ByteSize + labelRoom)) message

def bracketed (label : String) : String :=
  "[" ++ label ++ "]"

def plainText (label message : String) (width : Nat := lineWidth) : String :=
  bracketed label ++ " " ++ cut label message width

/-! ### Colours -/

def escape : Char := '\x1b'

def reset : List Char := escape :: "[0m".toList

/-- The code of a label's colour, whatever the case of its letters. -/
def colour (label : String) : String :=
  match Text.asciiLower label with
  | "compile" => "94"
  | "watch" => "92"
  | "error" => "91"
  | _ => "93"

def style (label : String) : List Char :=
  escape :: ("[1;" ++ colour label ++ "m").toList

/-- A label in its colour, which is put on again wherever the label resets it. -/
def coloured (label : String) : String :=
  let s := style label
  let inner := Text.replaceAll reset (reset ++ s) (bracketed label).toList
  String.ofList (s ++ inner ++ reset)

def colouredText (label message : String) (width : Nat := lineWidth) : String :=
  coloured label ++ " " ++ cut label message width

/-- What is written for a notice: the rest of the terminal's line is cleared first. -/
def written (inColour : Bool) (label message : String) (width : Nat := lineWidth) : String :=
  String.ofList [escape, '[', 'K'] ++
    (if inColour then colouredText label message width else plainText label message width) ++ "\n"

end Notice

end LivePages
