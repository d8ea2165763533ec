import LivePages.Template.Arithmetic
import LivePages.Template.Expr.Outline
import LivePages.Template.Run
import LivePages.Text.Escape
import LivePages.Text.Grapheme

/-!
Evaluation and rendering. Every function carries a number that bounds how deep calls, inclusions
and nested forms may go; a loop of any length needs no more depth than one round.
-/

namespace LivePages.Template

/-- Nodes one after the other, until one of them leaves the round. -/
def renderAll (render : Node → Run String) : List Node → Run String
  | [] => pure ""
  | x :: r => do
    let s ← render x
    if (← Run.asks State.flow) = .next then
      let t ← renderAll render r
      pure (s ++ t)
    else pure s

/-- So many rounds of a loop, until one of them leaves it. -/
def renderRounds (render : Run String) : Nat → Run String
  | 0 => pure ""
  | k + 1 => do
    let s ← render
    if (← Run.asks State.flow) = .stop then pure s
    else
      Run.nextRound
      let t ← renderRounds render k
      pure (s ++ t)

/-- What a loop runs over: the items of a list, the characters of a text, the fields of an
object. -/
def loopItems (name : String) (key : Option String) (v : Json) : Except Fault (List (String × Json)) :=
  match v with
  | .arr l => if key.isSome then .error (.keysOfNonObject name) else .ok (l.map ("", ·))
  | .str s =>
    if key.isSome then .error (.keysOfNonObject name)
    else .ok ((Text.Grapheme.clusters s.toList).map fun c => ("", .str (String.ofList c)))
  | .obj fields => if key.isSome then .ok fields else .error (.objectWithoutKeys name)
  | _ => .error (.cannotIterate name)

def containerName : Term → Except Fault String
  | .path p => .ok p
  | .call f => .ok f.name
  | .list _ => .ok "an array literal"
  | t => .error (.badContainer t.outline)

/-- Text of a number as it appears inside a joined text. -/
def joinedText? : Json → Option String
  | .str s => some s
  | .int i => some (toString i)
  | .float x => some (Decimal.Layout.data.write x)
  | _ => none

def isMember (item container : Json) : Except Fault Bool :=
  match container, item with
  | .arr items, _ => .ok (items.any (· == item))
  | .str s, .str t => .ok (Text.holds t.toList s.toList)
  | .str _, _ => .error (.notATextInText (described item))
  | .obj fields, .str t => .ok (Json.Fields.get? fields t).isSome
  | .obj _, _ => .error (.notATextInObject (described item))
  | _, _ => .error .notAContainer

def escapeIf (b : Bool) : Json → Json
  | .str s => if b then .str (Text.escapePage s) else .str s
  | v => v

/-- The first template in a line of ancestors that has the block, with its place in the line. -/
def findBlock? (name : String) (level : Nat) : List Source → Option (Source × Nat × Block)
  | [] => none
  | t :: r =>
    match t.block? name with
    | some b => some (t, level, b)
    | none => findBlock? name (level + 1) r

/-- The template and its ancestors, nearest first. -/
def Job.line (j : Job) (name : String) : List Source :=
  match j.engine.find? name with
  | none => []
  | some t =>
    t :: (match j.engine.ancestors t with
      | .ok l => l
      | .error _ => [])

/-- Filters that are not called: one is used for missing values, the other turns escaping off. -/
def isMark (f : Call) : Bool :=
  f.name == "safe" || f.name == "default"

mutual

/-- A term's value, and whether it is a text that has to be escaped. -/
def evalTerm (j : Job) : Nat → Bool → Term → Run (Json × Bool)
  | 0, _, _ => Run.tooDeep
  | n + 1, escape, t =>
    match t with
    | .str s => pure (.str s, true)
    | .int i => pure (.int i, false)
    | .float x => pure (.float x, false)
    | .bool b => pure (.bool b, false)
    | .path p => do
      let v ← Run.ofExcept (← Run.asks (j.value · p))
      pure (v, p != dumpPath)
    | .list items => do
      pure (.arr (← items.mapM (eval j n escape)), false)
    | .member a b negated => do
      let x ← eval j n escape a
      let c ← eval j n escape b
      let found ← Run.ofExcept (isMember x c)
      pure (.bool (found != negated), false)
    | .joined parts => do
      let texts ← parts.mapM (evalPart j n)
      pure (.str (String.join (texts.map (·.1))), (texts.reverse.findSome? (·.2)).getD false)
    | .call f => callFunction j n f
    | .macroCall l f => do
      pure (.str (← callDefinition j n escape l f), false)
    | .test p negated name args => do
      pure (.bool (← evalTest j n p negated name args), false)
    | .compare op a b => do
      pure (.bool (← evalComparison j n escape op a b), false)
    | .logic op a b => do
      pure (.bool (← evalLogic j n escape op a b), false)
    | .arith op a b => do
      let result ← Run.within (fun f => .said f.message) (evalNumber j n escape (.arith op a b))
      match result with
      | some x => pure (x.toJson, false)
      | none => pure (.str "NaN", false)

/-- An expression's value: the term, filtered, negated and escaped, in this order. A missing path
is replaced by its default, and its negation is true. -/
def eval (j : Job) : Nat → Bool → Expr → Run Json
  | 0, _, _ => Run.tooDeep
  | n + 1, escape, e => do
    match e.term with
    | .path p =>
      match ← Run.asks (j.value · p) with
      | .ok v =>
        let missing := match v with
          | .null => true
          | _ => false
        if missing && e.startsWithDefault then
          finish j n escape e (← evalDefault j n escape e) (p != dumpPath)
        else finish j n escape e v (p != dumpPath)
      | .error f =>
        if e.startsWithDefault then
          finish j n escape e (← evalDefault j n escape e) (p != dumpPath)
        else if e.negated then pure (.bool true)
        else Run.fail f
    | .compare op a b =>
      let b ← evalComparisonOf j n escape e.negated op a b
      finish j n escape e (.bool b) false
    | .logic op a b =>
      let b ← evalLogic j n escape op a b
      finish j n escape e (.bool (b != e.negated)) false
    | t =>
      let (v, unsafeText) ← evalTerm j n escape t
      finish j n escape e v unsafeText

/-- Filters, negation and escaping. -/
def finish (j : Job) : Nat → Bool → Expr → Json → Bool → Run Json
  | 0, _, _, _, _ => Run.tooDeep
  | n + 1, escape, e, v, unsafeText => do
    let (v, unsafeText) ← (e.filters.filter fun f => !isMark f).foldlM
      (fun (v, _) f => applyFilter j n f v) (v, unsafeText)
    if e.negated then pure (.bool (!isTrue v))
    else pure (escapeIf (escape && unsafeText && !e.endsWithSafe) v)

def evalDefault (j : Job) : Nat → Bool → Expr → Run Json
  | 0, _, _ => Run.tooDeep
  | n + 1, escape, e =>
    match (e.filters.head?).bind (·.arg? "value") with
    | some d => eval j n escape d
    | none => Run.fail .defaultWithoutValue

/-- A part of a joined text; for a call also whether its text has to be escaped. -/
def evalPart (j : Job) : Nat → Term → Run (String × Option Bool)
  | 0, _ => Run.tooDeep
  | n + 1, t =>
    match t with
    | .str s => pure (s, none)
    | .int i => pure (toString i, none)
    | .float x => pure (Decimal.Layout.plain.write x, none)
    | .path p => do
      match joinedText? (← Run.ofExcept (← Run.asks (j.value · p))) with
      | some s => pure (s, none)
      | none => Run.fail (.unjoinablePath p)
    | .call f => do
      let (v, unsafeText) ← callFunction j n f
      match joinedText? v with
      | some s => pure (s, some unsafeText)
      | none => Run.fail (.unjoinableCall f.name)
    | _ => Run.fail .expressionNotNumber

def evalArgs (j : Job) : Nat → List (String × Expr) → Run Arguments
  | 0, _ => Run.tooDeep
  | n + 1, args => args.mapM fun (k, e) => do pure (k, ← eval j n false e)

def callFunction (j : Job) : Nat → Call → Run (Json × Bool)
  | 0, _ => Run.tooDeep
  | n + 1, f =>
    match j.engine.library.function? f.name with
    | none => Run.fail (.noFunction f.name)
    | some g => Run.within (.inFunction f.name) do
      let args ← evalArgs j n f.args
      pure (← Run.ofExcept (g.call args), !g.safe)

def applyFilter (j : Job) : Nat → Call → Json → Run (Json × Bool)
  | 0, _, _ => Run.tooDeep
  | n + 1, f, v =>
    match j.engine.library.filter? f.name with
    | none => Run.fail (.noFilter f.name)
    | some g => Run.within (.inFilter f.name) do
      let args ← evalArgs j n f.args
      pure (← Run.ofExcept (g.apply v args), !g.safe)

def evalTest (j : Job) : Nat → String → Bool → String → List Expr → Run Bool
  | 0, _, _, _, _ => Run.tooDeep
  | n + 1, p, negated, name, args =>
    match j.engine.library.test? name with
    | none => Run.fail (.noTest name)
    | some test => Run.within (.inTest name) do
      let args ← args.mapM (eval j n false)
      let v ← Run.asks (j.value · p)
      pure ((← Run.ofExcept (test v.toOption args)) != negated)

/-- An expression as a condition. -/
def evalCondition (j : Job) : Nat → Bool → Expr → Run Bool
  | 0, _, _ => Run.tooDeep
  | n + 1, escape, e =>
    match e.term with
    | .path _ => do
      match ← Run.attempt (eval j n escape e) with
      | some v => pure (isTrue v)
      | none => pure false
    | .compare op a b => evalComparisonOf j n escape e.negated op a b
    | .joined _ => do
      let v ← eval j n escape (e.setNegated false)
      pure (isTrue v != e.negated)
    | t => do
      let b ← evalTruth j n escape t
      pure (b != e.negated)

/-- A comparison, perhaps negated. Comparing a number with something else is false either way. -/
def evalComparisonOf (j : Job) : Nat → Bool → Bool → Comparison → Expr → Expr → Run Bool
  | 0, _, _, _, _, _ => Run.tooDeep
  | n + 1, escape, negated, op, a, b =>
    match op with
    | .eq => evalEquality j n escape negated op a b
    | .ne => evalEquality j n escape negated op a b
    | _ => do
      let r ← evalComparison j n escape op a b
      pure (r != negated)

def evalEquality (j : Job) : Nat → Bool → Bool → Comparison → Expr → Expr → Run Bool
  | 0, _, _, _, _, _ => Run.tooDeep
  | n + 1, escape, negated, op, a, b => do
    let x ← eval j n escape a
    let y ← eval j n escape b
    if isNumber x != isNumber y then pure false
    else pure (op.equality x y != negated)

def evalComparison (j : Job) : Nat → Bool → Comparison → Expr → Expr → Run Bool
  | 0, _, _, _, _ => Run.tooDeep
  | n + 1, escape, op, a, b =>
    match op with
    | .eq => evalEquality j n escape false op a b
    | .ne => evalEquality j n escape false op a b
    | _ => do
      let x ← evalSide j n escape a
      let y ← evalSide j n escape b
      match x, y with
      | some x, some y => pure (op.floats x.toFloat y.toFloat)
      | _, _ => Run.fail .comparisonOfNothing

def evalLogic (j : Job) : Nat → Bool → Connective → Expr → Expr → Run Bool
  | 0, _, _, _, _ => Run.tooDeep
  | n + 1, escape, op, a, b => do
    let x ← evalCondition j n escape a
    match op with
    | .either => if x then pure true else evalCondition j n escape b
    | .both => if x then evalCondition j n escape b else pure false

/-- Whether a term other than a path or a comparison holds. -/
def evalTruth (j : Job) : Nat → Bool → Term → Run Bool
  | 0, _, _ => Run.tooDeep
  | n + 1, escape, t =>
    match t with
    | .logic op a b => evalLogic j n escape op a b
    | .bool b => pure b
    | .str s => pure (!s.isEmpty)
    | .call f => do
      match ← callFunction j n f with
      | (.bool b, _) => pure b
      | _ => Run.fail (.callNotBoolean f.name)
    | .macroCall l f => do
      let s ← callDefinition j n escape l f
      pure (!s.isEmpty)
    | .int i => pure (i != 0)
    | .float x => pure (x != 0.0)
    | .arith op a b => do
      match ← evalNumber j n escape (.arith op a b) with
      | some x => pure (isTrue x.toJson)
      | none => pure false
    | t => do
      let (v, _) ← evalTerm j n escape t
      pure (isTrue v)

/-- A side of a comparison or of an arithmetic operation. -/
def evalSide (j : Job) : Nat → Bool → Expr → Run (Option Number)
  | 0, _, _ => Run.tooDeep
  | n + 1, escape, e =>
    if e.filters.isEmpty then evalNumber j n escape e.term
    else do
      match Number.ofJson? (← eval j n escape e) with
      | some x => pure (some x)
      | none => Run.fail .expressionNotNumber

/-- A term as a number, or nothing where arithmetic has no result. -/
def evalNumber (j : Job) : Nat → Bool → Term → Run (Option Number)
  | 0, _, _ => Run.tooDeep
  | n + 1, escape, t =>
    match t with
    | .int i => pure (some (.whole i))
    | .float x => pure (some (.real x))
    | .path p => do
      match Number.ofJson? (← Run.ofExcept (← Run.asks (j.value · p))) with
      | some x => pure (some x)
      | none => Run.fail (.pathNotNumber p)
    | .arith op a b => do
      let x ← evalSide j n escape a
      let y ← evalSide j n escape b
      match x, y with
      | some x, some y => Run.ofExcept (op.apply (a.outline, b.outline) x y)
      | _, _ => pure none
    | .call f => do
      let (v, _) ← callFunction j n f
      match Number.ofJson? v with
      | some x => pure (some x)
      | none => Run.fail (.callNotNumber f.name)
    | .str s => Run.fail (.textAsNumber s)
    | .bool b => Run.fail (.booleanAsNumber b)
    | .joined parts => Run.fail (.joinedAsNumber (String.intercalate " ~ " (parts.map partText)))
    | .test _ _ name _ => Run.fail (.testAsNumber name)
    | _ => Run.fail .expressionNotNumber

/-- The arguments of a definition: those given, else the default values. -/
def bindParams (j : Job) : Nat → Call → List (String × Option Expr) → Run (List (String × Json))
  | 0, _, _ => Run.tooDeep
  | n + 1, f, params => params.mapM fun (k, default) => do
    match f.arg? k <|> default with
    | some e => pure (k, ← eval j n false e)
    | none => Run.fail (.missingArgument f.name k)

def callDefinition (j : Job) : Nat → Bool → String → Call → Run String
  | 0, _, _, _ => Run.tooDeep
  | n + 1, escape, l, f => do
    let speaker ← Run.asks j.speaker
    let (home, d) ← Run.ofExcept (← Run.within? (j.engine.definition n speaker l f.name))
    let locals ← bindParams j n f d.params
    Run.inFrame ⟨.definition l f.name, home, locals, none⟩ (renderAll (render j n escape) d.body)

def render (j : Job) : Nat → Bool → Node → Run String
  | 0, _, _ => Run.tooDeep
  | n + 1, escape, x =>
    match x with
    | .text s => pure s
    | .raw _ s _ => pure s
    | .comment _ => pure ""
    | .imports _ _ _ => pure ""
    | .define _ _ _ _ _ => pure ""
    | .output _ e => do
      pure (shown (← eval j n escape e))
    | .assign _ name everywhere e => do
      let v ← eval j n false e
      modify (·.assign name everywhere v)
      pure ""
    | .filtered _ f body _ => do
      let s ← renderAll (render j n escape) body
      if f.name = "safe" then pure s
      else
        let (v, _) ← applyFilter j n f (.str s)
        pure (shown v)
    | .choose branches otherwise _ => renderBranches j n escape branches otherwise
    | .loop _ key value e body otherwise _ => do
      let name ← Run.ofExcept (containerName e.term)
      let v ← eval j n false e
      let items ← Run.ofExcept (loopItems name key v)
      match Round.first? key value items, otherwise with
      | some round, _ =>
        Run.inFrame ⟨.loop, ← Run.asks State.template, [], some round⟩
          (renderRounds (renderAll (render j n escape) body) items.length)
      | none, some other => renderAll (render j n escape) other
      | none, none => pure ""
    | .stop _ => do
      Run.leaveRound "break" .stop
      pure ""
    | .skip _ => do
      Run.leaveRound "continue" .skip
      pure ""
    | .block _ name body _ => do
      match findBlock? name 0 (j.line (← Run.asks State.template)) with
      | some (t, level, b) =>
        Run.enter ⟨name, t.name, level⟩
        renderAll (render j n escape) b.body
      | none => renderAll (render j n escape) body
    | .super => renderAbove j n escape
    | .embed _ names optional => do
      match names.findSome? j.engine.find? with
      | some t =>
        let _ ← Run.within? (j.engine.shelves n t)
        Run.inFrame ⟨.embedded, t.name, [], none⟩ (renderAll (render j n escape) t.nodes)
      | none =>
        if optional then pure ""
        else Run.fail (.noTemplate ("[" ++ String.intercalate ", " names ++ "]"))
    | .parent _ name => Run.fail (.embeddedParent name)

def renderBranches (j : Job) : Nat → Bool → List Branch → Option (Margin × List Node) → Run String
  | 0, _, _, _ => Run.tooDeep
  | n + 1, escape, branches, otherwise =>
    match branches with
    | b :: r => do
      if ← evalCondition j n escape b.condition then renderAll (render j n escape) b.body
      else renderBranches j n escape r otherwise
    | [] =>
      match otherwise with
      | some (_, body) => renderAll (render j n escape) body
      | none => pure ""

/-- The block that the running block replaces, found further up. -/
def renderAbove (j : Job) : Nat → Bool → Run String
  | 0, _ => Run.tooDeep
  | n + 1, escape => do
    match ← Run.asks State.entered with
    | [] => Run.fail .nothingAbove
    | e :: _ =>
      match findBlock? e.block (e.level + 1) (j.above.drop e.level) with
      | none => Run.fail .nothingAbove
      | some (t, level, b) =>
        Run.enter ⟨e.block, t.name, level⟩
        let r ← renderAll (render j n escape) b.body
        Run.leave
        if level ≥ j.above.length then Run.leave
        pure r

end

end LivePages.Template
