import LivePages.Template.Node
import LivePages.Text.Blank

/-!
Blanks beside tags. A tag with a mark on one side takes the blanks of the text on that side with it;
text that becomes empty is left out. The alternative of a loop without rounds keeps its blanks.
-/

namespace LivePages.Template

/-- Drops the blanks at the end of a body that ends in text; the body is in reverse. -/
def trimLast : List Node → List Node
  | .text s :: r =>
    let t := Text.trimEnd s
    if t.isEmpty then r else .text t :: r
  | r => r

def trimTail (body : List Node) : List Node :=
  (trimLast body.reverse).reverse

def trimIf (b : Bool) (done : List Node) : List Node :=
  if b then trimLast done else done

def trimTailIf (b : Bool) (body : List Node) : List Node :=
  if b then trimTail body else body

def trimRaw (left right : Bool) (s : String) : String :=
  match left, right with
  | true, true => Text.trim s
  | true, false => Text.trimStart s
  | false, true => Text.trimEnd s
  | false, false => s

def firstLeft : List Branch → Bool
  | [] => false
  | b :: _ => b.margin.left

/-- Whether a node takes the blanks before it. -/
def takesBefore : Node → Bool
  | .text _ => false
  | .super => false
  | .comment m => m.left
  | .output m _ => m.left
  | .assign m _ _ _ => m.left
  | .parent m _ => m.left
  | .embed m _ _ => m.left
  | .imports m _ _ => m.left
  | .stop m => m.left
  | .skip m => m.left
  | .raw o _ _ => o.left
  | .define o _ _ _ _ => o.left
  | .loop o _ _ _ _ _ _ => o.left
  | .filtered o _ _ _ => o.left
  | .block o _ _ _ => o.left
  | .choose bs _ _ => firstLeft bs

/-- Whether the text after a node loses the blanks at its start, given the same for the text in its
place. -/
def takesAfter (before : Bool) : Node → Bool
  | .text _ => false
  | .super => before
  | .comment m => m.right
  | .output m _ => m.right
  | .assign m _ _ _ => m.right
  | .parent m _ => m.right
  | .embed m _ _ => m.right
  | .imports m _ _ => m.right
  | .stop m => m.right
  | .skip m => m.right
  | .raw _ _ c => c.right
  | .define _ _ _ _ c => c.right
  | .loop _ _ _ _ _ _ c => c.right
  | .filtered _ _ _ c => c.right
  | .block _ _ _ c => c.right
  | .choose _ _ c => c.right

/-- `done` holds the nodes already passed, in reverse; `afterText` tells whether a text came just
before, `left` whether the next text loses the blanks at its start. -/
def trimFrom (done : List Node) (afterText left : Bool) : List Node → List Node
  | [] => done
  | .text s :: r =>
    if left then
      let t := Text.trimStart s
      trimFrom (if t.isEmpty then done else .text t :: done) true false r
    else trimFrom (.text s :: done) true false r
  | x :: r => trimFrom (x :: trimIf (afterText && takesBefore x) done) false (takesAfter left x) r

/-- A body between two tags. -/
def trimBetween (left right : Bool) (body : List Node) : List Node :=
  (trimIf right (trimFrom [] false left body)).reverse

mutual

/-- A node with the bodies in it trimmed. -/
def trimInside : Node → Node
  | .raw o s c => .raw o (trimRaw o.right c.left s) c
  | .define o k ps body c => .define o k ps (trimBetween o.right c.left (trimInsideAll body)) c
  | .loop o k v e body other c =>
    .loop o k v e (trimBetween o.right c.left (trimInsideAll body)) other c
  | .filtered o f body c => .filtered o f (trimBetween o.right c.left (trimInsideAll body)) c
  | .block o k body c => .block o k (trimBetween o.right c.left (trimInsideAll body)) c
  | .choose bs none c => .choose (trimBranches c.left bs) none c
  | .choose bs (some (m, body)) c =>
    .choose (trimBranches m.left bs)
      (some (m, trimTailIf c.left (trimBetween m.right false (trimInsideAll body)))) c
  | x => x

def trimInsideAll : List Node → List Node
  | [] => []
  | x :: r => trimInside x :: trimInsideAll r

/-- `last` tells whether the tag after the last branch takes the blanks before it. -/
def trimBranches (last : Bool) : List Branch → List Branch
  | [] => []
  | .mk m c body :: r =>
    .mk m c (trimTailIf (if r.isEmpty then last else firstLeft r)
      (trimBetween m.right false (trimInsideAll body))) :: trimBranches last r

end

def trimMargins (body : List Node) : List Node :=
  trimBetween false false (trimInsideAll body)

end LivePages.Template
