import LivePages.Markdown.Tree

/-!
Emphasis: runs of marks become nested emphasis by matching each closing run with the nearest
opening run of its character. What is left unmatched is text.
-/

namespace LivePages.Markdown

/-- A run of marks. `length` is its length as written, `count` what is still unused. -/
structure Run where
  mark : Char
  count : Nat
  length : Nat
  canOpen : Bool
  canClose : Bool
  pos : Nat
  deriving DecidableEq, Repr

structure Bracket where
  image : Bool
  pos : Nat
  bracketAfter : Bool
  deriving DecidableEq, Repr

/-- A part of a line of text: characters, a finished construct, a run or an open bracket. -/
inductive Piece
  | text (s : List Char)
  | node (t : Tree)
  | run (r : Run)
  | bracket (b : Bracket)

def Bracket.text (b : Bracket) : List Char :=
  if b.image then ['!', '['] else ['[']

def Piece.toTree : Piece → Tree
  | .text s => Tree.text s
  | .node t => t
  | .run r => Tree.text (List.replicate r.count r.mark)
  | .bracket b => Tree.text b.text

/-- Runs that both open and close match only if the sum of their lengths is no multiple of three,
or both lengths are. -/
def Run.fits (opener closer : Run) : Bool :=
  opener.mark == closer.mark && opener.canOpen &&
    !((closer.canOpen || opener.canClose) && (opener.length + closer.length) % 3 == 0 &&
      !(opener.length % 3 == 0 && closer.length % 3 == 0))

/-- Runs of one class are taken to fail alike, so that a failed search for an opening run bounds
later ones. -/
structure ClosingClass where
  mark : Char
  canOpen : Bool
  residue : Nat
  deriving DecidableEq, Repr

def Run.closingClass (r : Run) : ClosingClass :=
  if r.mark == '*' || r.mark == '_' then ⟨r.mark, r.canOpen, r.length % 3⟩
  else ⟨r.mark, false, 0⟩

/-- Searches back, in pieces last first, for the opening run of a closing one: the run, the pieces
after it in order, and those before it. -/
def findOpener (closer : Run) (bottom : Nat) (inside : List Piece) :
    List Piece → Option (Run × List Piece × List Piece)
  | [] => none
  | .run o :: before =>
    if o.pos < bottom then none
    else if o.fits closer then some (o, inside, before)
    else findOpener closer bottom (.run o :: inside) before
  | p :: before => findOpener closer bottom (p :: inside) before

def emphasisOf (mark : Char) (used : Nat) : Construct :=
  if mark == '~' then .extension "strikethrough"
  else if mark == '^' then .extension "superscript"
  else if used == 1 then .emph
  else .strong

def usedUp (r : Run) (used : Nat) : List Piece :=
  if r.count - used = 0 then [] else [.run { r with count := r.count - used }]

/-- The work left: every piece counts once, and a run once more for each of its marks. -/
def pieceWeight : Piece → Nat
  | .run r => r.count + 1
  | _ => 1

def totalWeight (ps : List Piece) : Nat :=
  (ps.map pieceWeight).foldr (· + ·) 0

/-- Matches runs from the left; `before` holds the pieces already passed, last first. Tildes that
do not use each other up end the matching. -/
def matchRuns : Nat → (ClosingClass → Nat) → List Piece → List Piece → List Piece
  | 0, _, before, after => before.reverse ++ after
  | _, _, before, [] => before.reverse
  | n + 1, bottoms, before, .run c :: after =>
    if !c.canClose then matchRuns n bottoms (.run c :: before) after
    else
      match findOpener c (bottoms c.closingClass) [] before with
      | some (o, inside, rest) =>
        let used := if 2 ≤ c.count && 2 ≤ o.count then 2 else 1
        if c.mark == '~' && (o.count != c.count || used < o.count) then
          before.reverse ++ .run c :: after
        else
          let t := Tree.mk (emphasisOf c.mark used) (inside.map Piece.toTree)
          matchRuns n bottoms (.node t :: usedUp o used ++ rest) (usedUp c used ++ after)
      | none =>
        let bottoms := fun k => if k = c.closingClass then c.pos else bottoms k
        if c.canOpen then matchRuns n bottoms (.run c :: before) after
        else matchRuns n bottoms (.text (List.replicate c.count c.mark) :: before) after
  | n + 1, bottoms, before, p :: after => matchRuns n bottoms (p :: before) after

/-- The constructs of some pieces in order. -/
def emphasise (ps : List Piece) : List Tree :=
  (matchRuns (totalWeight ps + 1) (fun _ => 0) [] ps).map Piece.toTree

end LivePages.Markdown
