import LivePages.Text.Blank

/-!
Dotted versions such as `v1.14.2` or `1.2.0+1`: blanks around them, every leading `v` and anything
from the first `-` or `+` on are ignored, and each number fits 64 bits. Numbers that are missing at
the end count as zero.
-/

namespace LivePages

abbrev Version := List Nat

namespace Version

def digitsValue (s : List Char) : Nat :=
  s.foldl (fun n c => 10 * n + (c.toNat - 48)) 0

def withoutPlus : List Char → List Char
  | '+' :: r => r
  | s => s

/-- Digits, after a plus sign or not. -/
def number? (s : List Char) : Option Nat :=
  let ds := withoutPlus s
  if ds.isEmpty || !ds.all Char.isDigit then none
  else if digitsValue ds < Nat.pow 2 64 then some (digitsValue ds)
  else none

def startsSuffix (c : Char) : Bool :=
  c == '-' || c == '+'

/-- The part of a version text that holds the numbers. -/
def core (s : String) : List Char :=
  ((Text.trim s).toList.dropWhile (· == 'v')).takeWhile fun c => !startsSuffix c

def parse? (s : String) : Option Version :=
  if (core s).isEmpty then none else (Text.splitOn '.' (core s)).mapM number?

/-- Number by number, a missing one as zero. -/
def compare : Version → Version → Ordering
  | [], [] => .eq
  | [], b :: bs => if b = 0 then compare [] bs else .lt
  | a :: as, [] => if a = 0 then compare as [] else .gt
  | a :: as, b :: bs =>
    if a < b then .lt else if b < a then .gt else compare as bs

end Version

end LivePages
