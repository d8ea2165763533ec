import LivePages.Text.Pattern

/-!
Reading patterns. A fault is shown below the pattern, with a mark under the part at fault.
-/

namespace LivePages.Text.Pattern

inductive Fault
  | unclosedGroup
  | unopenedGroup
  | unclosedSet
  | nothingToRepeat
  | unclosedCount
  | badCount
  | badCountRange
  | unknownEscape
  | escapeAtEnd
  | backwardRange
  | badRangeEnd
  | lookAround
  | backReference
  | unknownFlag
  | flagsAtEnd
  | badGroupName
  deriving DecidableEq, Repr

def Fault.message : Fault → String
  | .unclosedGroup => "unclosed group"
  | .unopenedGroup => "unopened group"
  | .unclosedSet => "unclosed character class"
  | .nothingToRepeat => "repetition operator missing expression"
  | .unclosedCount => "unclosed counted repetition"
  | .badCount => "repetition quantifier expects a valid decimal"
  | .badCountRange => "invalid repetition count range, the start must be <= the end"
  | .unknownEscape => "unrecognized escape sequence"
  | .escapeAtEnd => "incomplete escape sequence, reached end of pattern prematurely"
  | .backwardRange => "invalid character class range, the start must be <= the end"
  | .badRangeEnd => "invalid range boundary, must be a literal"
  | .lookAround => "look-around, including look-ahead and look-behind, is not supported"
  | .backReference => "backreferences are not supported"
  | .unknownFlag => "unrecognized flag"
  | .flagsAtEnd => "expected flag but got end of regex"
  | .badGroupName => "invalid capture group name"

/-- A fault with the part of the pattern, in characters, that it concerns. -/
structure Refusal where
  fault : Fault
  start : Nat
  stop : Nat
  deriving DecidableEq, Repr

def Refusal.message (r : Refusal) (pattern : String) : String :=
  "regex parse error:\n    " ++ pattern ++ "\n    " ++
    String.ofList (List.replicate r.start ' ') ++
    String.ofList (List.replicate (max 1 (r.stop - r.start)) '^') ++
    "\nerror: " ++ r.fault.message

structure Flags where
  ignoresCase : Bool
  lines : Bool
  dotAll : Bool

/-- What is still to be read, and how many characters lie before it. -/
structure Cursor where
  offset : Nat
  rest : List Char

def Cursor.drop (c : Cursor) (n : Nat) : Cursor :=
  ⟨c.offset + n, c.rest.drop n⟩

abbrev Reads (α : Type) := Except Refusal (α × Cursor)

def refuse {α : Type} (f : Fault) (start stop : Nat) : Reads α :=
  .error ⟨f, start, stop⟩

def isPunctuationMark (c : Char) : Bool :=
  "\\.+*?()|[]\x7b\x7d^$#&-~/<>\"'`,:;=!@% _".toList.contains c

/-- What a letter after a backslash stands for inside a set. -/
def escapedItem? (c : Char) : Option SetItem :=
  match c with
  | 'd' => some (.digit false)
  | 'D' => some (.digit true)
  | 'w' => some (.word false)
  | 'W' => some (.word true)
  | 's' => some (.blank false)
  | 'S' => some (.blank true)
  | 'n' => some (.range '\n' '\n')
  | 't' => some (.range '\t' '\t')
  | 'r' => some (.range '\r' '\r')
  | 'f' => some (.range '\x0c' '\x0c')
  | 'v' => some (.range '\x0b' '\x0b')
  | 'a' => some (.range '\x07' '\x07')
  | _ => if isPunctuationMark c then some (.range c c) else none

def setItem (c : Cursor) : Reads SetItem :=
  match c.rest with
  | [] => refuse .unclosedSet c.offset c.offset
  | '\\' :: [] => refuse .escapeAtEnd c.offset (c.offset + 1)
  | '\\' :: x :: _ =>
    match escapedItem? x with
    | some i => .ok (i, c.drop 2)
    | none => refuse .unknownEscape c.offset (c.offset + 2)
  | x :: _ => .ok (.range x x, c.drop 1)

/-- Items up to the closing bracket; `opened` is where the set starts. -/
def setItems (opened : Nat) : Nat → List SetItem → Cursor → Reads (List SetItem)
  | 0, _, _ => refuse .unclosedSet opened (opened + 1)
  | n + 1, done, c =>
    match c.rest with
    | [] => refuse .unclosedSet opened (opened + 1)
    | ']' :: _ =>
      if done.isEmpty then setItems opened n [.range ']' ']'] (c.drop 1)
      else .ok (done, c.drop 1)
    | _ =>
      match setItem c with
      | .error e => .error e
      | .ok (.range a b, d) =>
        match d.rest with
        | '-' :: x :: _ =>
          if x = ']' then setItems opened n (.range a b :: done) d
          else
            match setItem (d.drop 1) with
            | .error e => .error e
            | .ok (.range z _, f) =>
              if z < a then refuse .backwardRange c.offset f.offset
              else setItems opened n (.range a z :: done) f
            | .ok (_, f) => refuse .badRangeEnd (d.offset + 1) f.offset
        | _ => setItems opened n (.range a b :: done) d
      | .ok (i, d) => setItems opened n (i :: done) d

def literalOf (flags : Flags) (c : Char) : Pattern :=
  .set false flags.ignoresCase [.range c c]

def escape (flags : Flags) (c : Cursor) : Reads Pattern :=
  match c.rest with
  | _ :: 'b' :: _ => .ok (.wordEdge false, c.drop 2)
  | _ :: 'B' :: _ => .ok (.wordEdge true, c.drop 2)
  | _ :: 'A' :: _ => .ok (.textStart, c.drop 2)
  | _ :: 'z' :: _ => .ok (.textEnd, c.drop 2)
  | _ :: x :: _ =>
    if x.isDigit then refuse .backReference c.offset (c.offset + 2)
    else
      match escapedItem? x with
      | some i => .ok (.set false flags.ignoresCase [i], c.drop 2)
      | none => refuse .unknownEscape c.offset (c.offset + 2)
  | _ => refuse .escapeAtEnd c.offset (c.offset + 1)

def decimal? (s : List Char) : Option (Nat × Nat) :=
  let ds := s.takeWhile Char.isDigit
  if ds.isEmpty then none
  else some (ds.foldl (fun n d => 10 * n + (d.toNat - 48)) 0, ds.length)

/-- A count in braces: at least, and at most if there is a limit. -/
def count (c : Cursor) : Reads (Nat × Option Nat) :=
  match decimal? (c.rest.drop 1) with
  | none =>
    if c.rest.length ≤ 1 then refuse .unclosedCount c.offset (c.offset + 1)
    else refuse .badCount (c.offset + 1) (c.offset + 1)
  | some (low, k) =>
    let d := c.drop (1 + k)
    match d.rest with
    | '\x7d' :: _ => .ok ((low, some low), d.drop 1)
    | ',' :: '\x7d' :: _ => .ok ((low, none), d.drop 2)
    | ',' :: r =>
      match decimal? r with
      | none => refuse .unclosedCount c.offset (c.offset + 1)
      | some (high, k') =>
        let e := d.drop (1 + k')
        match e.rest with
        | '\x7d' :: _ =>
          if high < low then refuse .badCountRange c.offset (e.offset + 1)
          else .ok ((low, some high), e.drop 1)
        | _ => refuse .unclosedCount c.offset (c.offset + 1)
    | _ => refuse .unclosedCount c.offset (c.offset + 1)

/-- A lazy mark after a repetition makes no difference to what matches. -/
def skipLazy (c : Cursor) : Cursor :=
  match c.rest with
  | '?' :: _ => c.drop 1
  | _ => c

/-- Repetitions after an item. -/
def repeated : Nat → Pattern → Cursor → Reads Pattern
  | 0, p, c => .ok (p, c)
  | n + 1, p, c =>
    match c.rest with
    | '*' :: _ => repeated n (.many p) (skipLazy (c.drop 1))
    | '+' :: _ => repeated n (.seq p (.many p)) (skipLazy (c.drop 1))
    | '?' :: _ => repeated n (.either p .nothing) (skipLazy (c.drop 1))
    | '\x7b' :: _ =>
      match count c with
      | .error e => .error e
      | .ok ((low, high), d) =>
        let tail := match high with
          | none => .many p
          | some h => p.upTo (h - low)
        repeated n (.seq (p.times low) tail) (skipLazy d)
    | _ => .ok (p, c)

/-- The flags before `:` or `)`, where `on` is false after a minus sign. -/
def readFlags (on : Bool) (flags : Flags) (offset : Nat) : List Char → Except Refusal (Flags × Nat)
  | [] => .error ⟨.flagsAtEnd, offset, offset⟩
  | ':' :: _ => .ok (flags, offset)
  | ')' :: _ => .ok (flags, offset)
  | '-' :: r => readFlags false flags (offset + 1) r
  | c :: r =>
    match c with
    | 'i' => readFlags on ⟨on, flags.lines, flags.dotAll⟩ (offset + 1) r
    | 'm' => readFlags on ⟨flags.ignoresCase, on, flags.dotAll⟩ (offset + 1) r
    | 's' => readFlags on ⟨flags.ignoresCase, flags.lines, on⟩ (offset + 1) r
    | 'u' => readFlags on flags (offset + 1) r
    | 'U' => readFlags on flags (offset + 1) r
    | _ => .error ⟨.unknownFlag, offset, offset + 1⟩

def groupName (c : Cursor) (skip : Nat) : Reads Unit :=
  let name := (c.rest.drop skip).takeWhile (· != '>')
  if name.isEmpty || !(name.all fun x => isWord x || x == '.' || x == '[' || x == ']') then
    refuse .badGroupName (c.offset + skip) (c.offset + skip + name.length)
  else .ok ((), c.drop (skip + name.length + 1))

mutual

/-- Alternatives up to the end or a closing parenthesis. -/
def choice : Nat → Flags → Cursor → Except Refusal (Pattern × Cursor)
  | 0, _, c => .ok (.nothing, c)
  | n + 1, flags, c => do
    let (p, d) ← sequence n flags c
    match d.rest with
    | '|' :: _ =>
      let (q, e) ← choice n flags (d.drop 1)
      pure (.either p q, e)
    | _ => pure (p, d)

def sequence : Nat → Flags → Cursor → Except Refusal (Pattern × Cursor)
  | 0, _, c => .ok (.nothing, c)
  | n + 1, flags, c => do
    match c.rest with
    | [] => pure (.nothing, c)
    | '|' :: _ => pure (.nothing, c)
    | ')' :: _ => pure (.nothing, c)
    | '(' :: '?' :: '=' :: _ => refuse .lookAround c.offset (c.offset + 3)
    | '(' :: '?' :: '!' :: _ => refuse .lookAround c.offset (c.offset + 3)
    | '(' :: '?' :: '<' :: '=' :: _ => refuse .lookAround c.offset (c.offset + 4)
    | '(' :: '?' :: '<' :: '!' :: _ => refuse .lookAround c.offset (c.offset + 4)
    | '(' :: '?' :: 'P' :: '<' :: _ =>
      let (_, d) ← groupName c 4
      let (p, d) ← group n c.offset flags d
      let (p, d) ← repeated n p d
      let (q, d) ← sequence n flags d
      pure (.seq p q, d)
    | '(' :: '?' :: '<' :: _ =>
      let (_, d) ← groupName c 3
      let (p, d) ← group n c.offset flags d
      let (p, d) ← repeated n p d
      let (q, d) ← sequence n flags d
      pure (.seq p q, d)
    | '(' :: '?' :: r =>
      let (inner, offset) ← readFlags true flags (c.offset + 2) r
      let d := c.drop (offset - c.offset)
      match d.rest with
      | ')' :: _ => sequence n inner (d.drop 1)
      | _ =>
        let (p, d) ← group n c.offset inner (d.drop 1)
        let (p, d) ← repeated n p d
        let (q, d) ← sequence n flags d
        pure (.seq p q, d)
    | '(' :: _ =>
      let (p, d) ← group n c.offset flags (c.drop 1)
      let (p, d) ← repeated n p d
      let (q, d) ← sequence n flags d
      pure (.seq p q, d)
    | _ =>
      let (p, d) ← single n flags c
      let (p, d) ← repeated n p d
      let (q, d) ← sequence n flags d
      pure (.seq p q, d)

/-- The inside of a group and its closing parenthesis. -/
def group : Nat → Nat → Flags → Cursor → Except Refusal (Pattern × Cursor)
  | 0, opened, _, _ => refuse .unclosedGroup opened (opened + 1)
  | n + 1, opened, flags, c => do
    let (p, d) ← choice n flags c
    match d.rest with
    | ')' :: _ => pure (p, d.drop 1)
    | _ => refuse .unclosedGroup opened (opened + 1)

def single : Nat → Flags → Cursor → Except Refusal (Pattern × Cursor)
  | 0, _, c => .ok (.nothing, c)
  | n + 1, flags, c => do
    match c.rest with
    | '.' :: _ =>
      pure (.set true false (if flags.dotAll then [] else [.range '\n' '\n']), c.drop 1)
    | '^' :: _ => pure (if flags.lines then .lineStart else .textStart, c.drop 1)
    | '$' :: _ => pure (if flags.lines then .lineEnd else .textEnd, c.drop 1)
    | '\\' :: _ => escape flags c
    | '[' :: '^' :: _ =>
      let (items, d) ← setItems c.offset n [] (c.drop 2)
      pure (.set true flags.ignoresCase items, d)
    | '[' :: _ =>
      let (items, d) ← setItems c.offset n [] (c.drop 1)
      pure (.set false flags.ignoresCase items, d)
    | '*' :: _ => refuse .nothingToRepeat c.offset (c.offset + 1)
    | '+' :: _ => refuse .nothingToRepeat c.offset (c.offset + 1)
    | '?' :: _ => refuse .nothingToRepeat c.offset (c.offset + 1)
    | '\x7b' :: _ => refuse .nothingToRepeat c.offset (c.offset + 1)
    | x :: _ => pure (literalOf flags x, c.drop 1)
    | [] => pure (.nothing, c)

end

def read (s : String) : Except Refusal Pattern := do
  let chars := s.toList
  let (p, c) ← choice (4 * (chars.length + 2)) ⟨false, false, false⟩ ⟨0, chars⟩
  match c.rest with
  | [] => pure p
  | _ => .error ⟨.unopenedGroup, c.offset, c.offset + 1⟩

end LivePages.Text.Pattern
