import LivePages.Text.Blank
import LivePages.Text.Case
import LivePages.Text.Word

/-!
Patterns of texts: character sets, sequence, choice, repetition and conditions on a position. A
text matches a pattern when some part of it does.
-/

namespace LivePages.Text

inductive SetItem
  | range (low high : Char)
  | digit (negated : Bool)
  | word (negated : Bool)
  | blank (negated : Bool)
  deriving DecidableEq, Repr

def SetItem.has (c : Char) : SetItem → Bool
  | .range a b => a ≤ c && c ≤ b
  | .digit n => isDigit c != n
  | .word n => isWord c != n
  | .blank n => isBlank c != n

inductive Pattern
  | nothing
  | set (negated ignoresCase : Bool) (items : List SetItem)
  | seq (a b : Pattern)
  | either (a b : Pattern)
  | many (a : Pattern)
  | textStart
  | textEnd
  | lineStart
  | lineEnd
  | wordEdge (negated : Bool)
  deriving Inhabited, Repr

/-- The forms of a character that count as the same without regard to case. -/
def sameLetter (c : Char) : List Char :=
  let single : List Char → List Char
    | [x] => [x]
    | _ => []
  c :: single (lowerChar c) ++ single (upperChar c)

def inSet (negated ignoresCase : Bool) (items : List SetItem) (c : Char) : Bool :=
  let cs := if ignoresCase then sameLetter c else [c]
  (cs.any fun x => items.any (SetItem.has x)) != negated

def isWordAt (text : Array Char) (i : Nat) : Bool :=
  (text[i]?.map isWord).getD false

def isWordBefore (text : Array Char) : Nat → Bool
  | 0 => false
  | i + 1 => isWordAt text i

def isLineFeedBefore (text : Array Char) : Nat → Bool
  | 0 => true
  | i + 1 => text[i]? == some '\n'

/-- All that can be reached from `found` by any number of steps, within so many rounds. -/
def reachable (step : Nat → List Nat) : Nat → List Nat → List Nat
  | 0, found => found
  | n + 1, found =>
    let new := (found.flatMap step).eraseDups.filter fun i => !found.contains i
    if new.isEmpty then found else reachable step n (found ++ new)

/-- Where a match that starts at position `i` can end. -/
def Pattern.ends (text : Array Char) : Pattern → Nat → List Nat
  | .nothing, i => [i]
  | .set negated ignoresCase items, i =>
    match text[i]? with
    | some c => if inSet negated ignoresCase items c then [i + 1] else []
    | none => []
  | .seq a b, i => ((a.ends text i).flatMap fun j => b.ends text j).eraseDups
  | .either a b, i => (a.ends text i ++ b.ends text i).eraseDups
  | .many a, i => reachable (fun j => a.ends text j) (text.size + 1) [i]
  | .textStart, i => if i = 0 then [i] else []
  | .textEnd, i => if i = text.size then [i] else []
  | .lineStart, i => if isLineFeedBefore text i then [i] else []
  | .lineEnd, i => if i = text.size || text[i]? == some '\n' then [i] else []
  | .wordEdge negated, i =>
    if (isWordBefore text i != isWordAt text i) != negated then [i] else []

def Pattern.isMatch (p : Pattern) (s : String) : Bool :=
  let text := s.toList.toArray
  (List.range (text.size + 1)).any fun i => !(p.ends text i).isEmpty

/-- So many copies in sequence. -/
def Pattern.times (p : Pattern) : Nat → Pattern
  | 0 => .nothing
  | n + 1 => .seq p (p.times n)

/-- Up to so many copies. -/
def Pattern.upTo (p : Pattern) : Nat → Pattern
  | 0 => .nothing
  | n + 1 => .either .nothing (.seq p (p.upTo n))

end LivePages.Text
