import LivePages.Template.Builtin.Argument

/-!
Functions that every template can call.
-/

namespace LivePages.Template.Builtin

def rangeArg (args : Arguments) (name shownName : String) : Except Fault (Option Nat) :=
  match args.get? name with
  | none => .ok none
  | some v =>
    match natural.read? v with
    | some n => .ok (some n)
    | none =>
      .error (.said ("Function `range` received " ++ name ++ "=" ++ v.compact ++ " but `" ++
        shownName ++ "` can only be a number"))

/-- Whole numbers from `start` to below `stop`, at most so many. -/
def countUp (step stop : Nat) : Nat → Nat → List Json
  | 0, _ => []
  | n + 1, i => if i < stop then .int i :: countUp step stop n (i + step) else []

def range : Function :=
  ⟨false, fun args => do
    let start := (← rangeArg args "start" "start").getD 0
    let step := (← rangeArg args "step_by" "step").getD 1
    match ← rangeArg args "end" "end" with
    | none => .error (.said "Function `range` was called without a `end` argument")
    | some stop =>
      if start > stop then
        .error (.said
          "Function `range` was called with a `start` argument greater than the `end` one")
      else pure (.arr (countUp step stop (stop - start) start))⟩

def throw : Function :=
  ⟨false, fun args =>
    match args.get? "message" with
    | none => .error (.said "Function `throw` was called without a `message` argument")
    | some (.str s) => .error (.said s)
    | some v =>
      .error (.said ("Function `throw` received message=" ++ v.compact ++
        " but `message` can only be a string"))⟩

def functions : List (String × Function) :=
  [("range", range), ("throw", throw)]

end LivePages.Template.Builtin
