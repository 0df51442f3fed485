/-
# The value of an expression

A tree is evaluated from left to right and completely: both operands of `and` and `or`, all
arguments of a call and all items of a list, before an operator or a function takes them. The first
error ends the evaluation. The name of a function is looked up before its arguments are evaluated,
in the registry as it was at the start.

An evaluation hands on the state of the host from call to call and collects what is registered, in
order, also if it ends with an error.
-/

import SurveyLogic.Expr.Basic
import SurveyLogic.Operation
import SurveyLogic.Registry

namespace SurveyLogic

/-- The state of the host after the calls so far, and what they registered. -/
structure CallState (σ : Type) where
  host : σ
  registered : List (String × Callable σ) := []

/-- A step that may call functions and may fail. -/
abbrev Evaluation (σ : Type) := ExceptT EvalError (StateM (CallState σ))

/-- The value of a constant. -/
def Literal.toValue : Literal → Value
  | number x => .number x
  | string s => .string s
  | bool b => .bool b
  | null => .null

/-- A call as a step of an evaluation. -/
def Callable.invoke {σ : Type} (f : Callable σ) (args : List Value) (ctx : Context) :
    Evaluation σ Value := do
  let before ← get
  let reply := f.call args ctx before.host
  set { before with host := reply.host, registered := before.registered ++ reply.registered }
  MonadExcept.ofExcept reply.result

/-- A call takes over the host that the function leaves and what it registers. -/
theorem Callable.run_invoke {σ : Type} (f : Callable σ) (args : List Value) (ctx : Context)
    (before : CallState σ) :
    (f.invoke args ctx).run.run before =
      let reply := f.call args ctx before.host
      (reply.result,
        { host := reply.host, registered := before.registered ++ reply.registered }) := by
  change (MonadExcept.ofExcept (f.call args ctx before.host).result : Evaluation σ Value).run.run
    _ = _
  obtain ⟨result, host, registered⟩ := f.call args ctx before.host
  cases result with
  | ok v => rfl
  | error fault => rfl

/-- Steps one behind another run on from the state that the first leaves, unless it fails. -/
theorem Evaluation.run_bind {σ α β : Type} (m : Evaluation σ α) (k : α → Evaluation σ β)
    (before : CallState σ) :
    (m >>= k).run.run before =
      match m.run.run before with
      | (.ok x, after) => (k x).run.run after
      | (.error fault, after) => (.error fault, after) := by
  change (ExceptT.bindCont k (m.run.run before).1).run (m.run.run before).2 = _
  cases m.run.run before with
  | mk result after =>
    cases result with
    | ok x => rfl
    | error fault => rfl

namespace Expr

variable {σ : Type}

mutual

/-- The value of a tree. -/
def evaluate (functions : Registry σ) (ctx : Context) : Expr → Evaluation σ Value
  | literal l => pure l.toValue
  | var path => pure (ctx.resolve path)
  | unary op arg => do
    let v ← evaluate functions ctx arg
    return op.apply v
  | binary op lhs rhs => do
    let v ← evaluate functions ctx lhs
    let w ← evaluate functions ctx rhs
    return op.apply v w
  | call name args =>
    match functions.find? name with
    | none => throw (.unknownFunction name)
    | some f => do
      let vs ← evaluateAll functions ctx args
      f.invoke vs ctx
  | array items => do
    let vs ← evaluateAll functions ctx items
    return .array vs

/-- The values of a list of trees. -/
def evaluateAll (functions : Registry σ) (ctx : Context) : List Expr → Evaluation σ (List Value)
  | [] => pure []
  | e :: es => do
    let v ← evaluate functions ctx e
    let vs ← evaluateAll functions ctx es
    return v :: vs

end

/-- The result of an evaluation that starts from a state of the host, and the state after it. -/
def run (e : Expr) (functions : Registry σ) (ctx : Context) (host : σ) :
    Except EvalError Value × CallState σ :=
  (e.evaluate functions ctx).run.run { host }

end Expr
end SurveyLogic
