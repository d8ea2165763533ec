import LivePages.Decimal.Fixed
import LivePages.Toml.Value

/-!
Dates and times: a day, a time of day or both, with an offset only where there are both. The text of
a moment is written in one way, however it was written in the document.
-/

namespace LivePages.Toml

structure Day where
  year : Nat
  month : Nat
  day : Nat
  deriving DecidableEq, Repr

structure Clock where
  hour : Nat
  minute : Nat
  second : Nat
  nanosecond : Nat
  deriving DecidableEq, Repr

/-- Whole minutes from universal time, or universal time itself. -/
inductive Offset
  | universal
  | minutes (m : Int)
  deriving DecidableEq, Repr

structure Moment where
  day : Option Day
  clock : Option Clock
  offset : Option Offset
  deriving DecidableEq, Repr

/-! ### Text -/

def padded (width n : Nat) : String :=
  Decimal.padLeft width (toString n)

def Day.text (d : Day) : String :=
  padded 4 d.year ++ "-" ++ padded 2 d.month ++ "-" ++ padded 2 d.day

def withoutEndZeros (s : String) : String :=
  String.ofList (s.toList.reverse.dropWhile (· == '0')).reverse

def Clock.text (c : Clock) : String :=
  padded 2 c.hour ++ ":" ++ padded 2 c.minute ++ ":" ++ padded 2 c.second ++
    (if c.nanosecond = 0 then "" else "." ++ withoutEndZeros (padded 9 c.nanosecond))

def Offset.text : Offset → String
  | .universal => "Z"
  | .minutes m =>
    (if m < 0 then "-" else "+") ++ padded 2 (m.natAbs / 60) ++ ":" ++ padded 2 (m.natAbs % 60)

def Moment.text (m : Moment) : String :=
  ((m.day.map Day.text).getD "") ++
    (if m.day.isSome && m.clock.isSome then "T" else "") ++
    ((m.clock.map Clock.text).getD "") ++
    ((m.offset.map Offset.text).getD "")

/-! ### Reading -/

def digitsOf? (count : Nat) (s : List Char) : Option (Nat × List Char) :=
  let ds := s.take count
  if ds.length = count && ds.all Char.isDigit then
    some (ds.foldl (fun n c => 10 * n + (c.toNat - 48)) 0, s.drop count)
  else none

/-- Two digits with a value in a range. -/
def within? (low high : Nat) (s : List Char) : Option (Nat × List Char) :=
  (digitsOf? 2 s).filter fun (n, _) => low ≤ n && n ≤ high

def after? (c : Char) : List Char → Option (List Char)
  | [] => none
  | d :: r => if d = c then some r else none

def daysIn (year month : Nat) : Nat :=
  if month = 2 then
    if year % 4 = 0 && (year % 100 ≠ 0 || year % 400 = 0) then 29 else 28
  else if month = 4 || month = 6 || month = 9 || month = 11 then 30
  else 31

def day? (s : List Char) : Option (Day × List Char) := do
  let (year, r) ← digitsOf? 4 s
  let (month, r) ← within? 1 12 (← after? '-' r)
  let (day, r) ← within? 1 (daysIn year month) (← after? '-' r)
  pure (⟨year, month, day⟩, r)

/-- The digits after the point; those beyond the ninth are dropped. -/
def nanoseconds (ds : List Char) : Nat :=
  let kept := ds.take 9
  kept.foldl (fun n c => 10 * n + (c.toNat - 48)) 0 * Nat.pow 10 (9 - kept.length)

def clock? (s : List Char) : Option (Clock × List Char) := do
  let (hour, r) ← within? 0 23 s
  let (minute, r) ← within? 0 59 (← after? ':' r)
  let (second, r) ← within? 0 60 (← after? ':' r)
  match r with
  | '.' :: d :: r' =>
    if d.isDigit then
      pure (⟨hour, minute, second, nanoseconds ((d :: r').takeWhile Char.isDigit)⟩,
        (d :: r').dropWhile Char.isDigit)
    else pure (⟨hour, minute, second, 0⟩, r)
  | r => pure (⟨hour, minute, second, 0⟩, r)

def offset? : List Char → Option (Offset × List Char)
  | c :: r =>
    if c = 'Z' || c = 'z' then some (.universal, r)
    else if c = '+' || c = '-' then do
      let (hour, r) ← within? 0 23 r
      let (minute, r) ← within? 0 59 (← after? ':' r)
      let m : Int := hour * 60 + minute
      pure (.minutes (if c = '-' then -m else m), r)
    else none
  | [] => none

/-- A time that follows a day, after `T` or one space. -/
def clockAfterDay? : List Char → Option (Clock × List Char)
  | c :: r => if c = 'T' || c = 't' || c = ' ' then clock? r else none
  | [] => none

def moment? (s : List Char) : Option (Moment × List Char) :=
  match day? s with
  | some (d, r) =>
    match clockAfterDay? r with
    | some (c, r) =>
      match offset? r with
      | some (o, r) => some (⟨some d, some c, some o⟩, r)
      | none => some (⟨some d, some c, none⟩, r)
    | none => some (⟨some d, none, none⟩, r)
  | none => (clock? s).map fun (c, r) => (⟨none, some c, none⟩, r)

end LivePages.Toml
