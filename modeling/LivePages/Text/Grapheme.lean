import LivePages.Text.Grapheme.Table

/-!
Grapheme clusters: what a reader takes for one character. A text is cut between two code points
unless one of the joining rules holds for the pair and what comes before it.
-/

namespace LivePages.Text.Grapheme

inductive Class
  | cr
  | lf
  | control
  | extend
  | joiner
  | regional
  | prepend
  | spacing
  | hangulL
  | hangulV
  | hangulT
  | hangulLV
  | hangulLVT
  | pictographic
  | other
  deriving DecidableEq, Repr

def classOf (c : Char) : Class :=
  let n := c.toNat
  if n = 13 then .cr
  else if n = 10 then .lf
  else if n < 127 ∧ 32 ≤ n then .other
  else if n = 0x200D then .joiner
  else if 0x1F1E6 ≤ n ∧ n ≤ 0x1F1FF then .regional
  else if 0x1100 ≤ n ∧ n ≤ 0x115F ∨ 0xA960 ≤ n ∧ n ≤ 0xA97C then .hangulL
  else if 0x1160 ≤ n ∧ n ≤ 0x11A7 ∨ 0xD7B0 ≤ n ∧ n ≤ 0xD7C6 then .hangulV
  else if 0x11A8 ≤ n ∧ n ≤ 0x11FF ∨ 0xD7CB ≤ n ∧ n ≤ 0xD7FB then .hangulT
  else if 0xAC00 ≤ n ∧ n ≤ 0xD7A3 then
    (if (n - 0xAC00) % 28 = 0 then .hangulLV else .hangulLVT)
  else if controlRanges.has c then .control
  else if extendRanges.has c then .extend
  else if prependRanges.has c then .prepend
  else if spacingRanges.has c then .spacing
  else if pictographicRanges.has c then .pictographic
  else .other

/-- What matters of the cluster so far: the class of its last code point, a single regional
indicator, and a pictograph with extensions at its end. -/
structure Tail where
  last : Class
  lonelyRegional : Bool
  pictograph : Bool

def Tail.start (k : Class) : Tail :=
  ⟨k, k == .regional, k == .pictographic⟩

def Tail.next (t : Tail) (k : Class) : Tail :=
  ⟨k, k == .regional && !t.lonelyRegional,
    k == .pictographic || (t.pictograph && t.last != .joiner && (k == .extend || k == .joiner))⟩

def isBoundaryClass : Class → Bool
  | .cr => true
  | .lf => true
  | .control => true
  | _ => false

/-- Whether a code point of class `k` belongs to the cluster that ends in `t`. -/
def Tail.joins (t : Tail) (k : Class) : Bool :=
  if t.last == .cr then k == .lf
  else if isBoundaryClass t.last || isBoundaryClass k then false
  else if k == .extend || k == .joiner || k == .spacing then true
  else
    match t.last, k with
    | .prepend, _ => true
    | .hangulL, .hangulL => true
    | .hangulL, .hangulV => true
    | .hangulL, .hangulLV => true
    | .hangulL, .hangulLVT => true
    | .hangulLV, .hangulV => true
    | .hangulLV, .hangulT => true
    | .hangulV, .hangulV => true
    | .hangulV, .hangulT => true
    | .hangulLVT, .hangulT => true
    | .hangulT, .hangulT => true
    | .joiner, .pictographic => t.pictograph
    | .regional, .regional => t.lonelyRegional
    | _, _ => false

/-- The cluster being read comes first, its code points in reverse. -/
def clustersFrom (t : Tail) (cluster : List Char) : List Char → List (List Char)
  | [] => [cluster.reverse]
  | c :: r =>
    let k := classOf c
    if t.joins k then clustersFrom (t.next k) (c :: cluster) r
    else cluster.reverse :: clustersFrom (Tail.start k) [c] r

def clusters : List Char → List (List Char)
  | [] => []
  | c :: r => clustersFrom (Tail.start (classOf c)) [c] r

end LivePages.Text.Grapheme
