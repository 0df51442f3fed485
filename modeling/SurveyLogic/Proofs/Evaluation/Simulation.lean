/-
# Two evaluations side by side

Two evaluations of one tree may differ in the registry, the context and what state the hosts keep.
As long as a relation of their states is kept by each function that the tree calls, and the paths of
the tree resolve alike, they give the same value or the same error and end in related states
(`Expr.evaluate_related`). The induction over the tree is made once, here; a property of evaluations
is then a relation that the functions keep.

| relation | says |
| --- | --- |
| the hosts are related | what a tree can see |
| both states are the one at the start | silent functions make silent evaluations |
| the second host also keeps the registry | functions may write to the registry at once |
-/

import SurveyLogic.Evaluation
import SurveyLogic.Expr.Dependencies

namespace SurveyLogic

variable {σ τ : Type}

namespace Evaluation

variable {α β : Type} {R : CallState σ → CallState τ → Prop}

/-- Started in related states, two steps give the same and end in related states. -/
def Related (R : CallState σ → CallState τ → Prop) (m : Evaluation σ α) (m' : Evaluation τ α) :
    Prop :=
  ∀ s t, R s t → (m.run.run s).1 = (m'.run.run t).1 ∧ R (m.run.run s).2 (m'.run.run t).2

/-- A value without a step keeps every relation. -/
theorem Related.pure (x : α) : Related R (Pure.pure x) (Pure.pure x) :=
  fun _ _ related => ⟨rfl, related⟩

/-- An error keeps every relation. -/
theorem Related.throw (fault : EvalError) :
    Related R (MonadExcept.throw fault : Evaluation σ α) (MonadExcept.throw fault) :=
  fun _ _ related => ⟨rfl, related⟩

/-- Steps one behind another keep a relation if each of them does. -/
theorem Related.bind {m : Evaluation σ α} {m' : Evaluation τ α} {k : α → Evaluation σ β}
    {k' : α → Evaluation τ β} (hm : Related R m m') (hk : ∀ x, Related R (k x) (k' x)) :
    Related R (m >>= k) (m' >>= k') := by
  intro s t related
  have first := hm s t related
  rw [run_bind, run_bind]
  generalize m.run.run s = ran at first ⊢
  generalize m'.run.run t = ran' at first ⊢
  obtain ⟨result, after⟩ := ran
  obtain ⟨result', after'⟩ := ran'
  obtain ⟨rfl, related⟩ : result = result' ∧ R after after' := first
  cases result with
  | ok x => exact hk x after after' related
  | error fault => exact ⟨rfl, related⟩

end Evaluation

/-- Two functions keep a relation of states, each called in its context. -/
def Callable.Keep (R : CallState σ → CallState τ → Prop) (c₁ c₂ : Context) (f : Callable σ)
    (g : Callable τ) : Prop :=
  ∀ args, Evaluation.Related R (f.invoke args c₁) (g.invoke args c₂)

/-- What holds of a function and itself holds of one that may be missing. -/
theorem rel_self {P : Callable σ → Callable σ → Prop} {found : Option (Callable σ)}
    (h : ∀ f, found = some f → P f f) : Option.Rel P found found := by
  cases found with
  | none => exact .none
  | some f => exact .some (h f rfl)

namespace Expr

variable {R : CallState σ → CallState τ → Prop} {functions : Registry σ} {others : Registry τ}
  {c₁ c₂ : Context}

mutual

/-- **What the called functions keep, an evaluation keeps.** What one registry lacks, the
other lacks as well. -/
theorem evaluate_related :
    ∀ e : Expr, (∀ path ∈ e.variablePaths, c₁.resolve path = c₂.resolve path) →
      (∀ name ∈ e.functions, Option.Rel (Callable.Keep R c₁ c₂) (Bindings.get? functions name)
        (Bindings.get? others name)) →
      Evaluation.Related R (e.evaluate functions c₁) (e.evaluate others c₂)
  | .literal l, _, _ => by
    rw [evaluate, evaluate]
    exact .pure _
  | .var path, seen, _ => by
    rw [evaluate, evaluate, seen path List.mem_cons_self]
    exact .pure _
  | .unary op arg, seen, called => by
    rw [evaluate, evaluate]
    exact (evaluate_related arg seen called).bind fun _ => .pure _
  | .binary op lhs rhs, seen, called => by
    rw [variablePaths, List.forall_mem_append] at seen
    rw [Expr.functions, List.forall_mem_append] at called
    rw [evaluate, evaluate]
    exact (evaluate_related lhs seen.1 called.1).bind fun _ =>
      (evaluate_related rhs seen.2 called.2).bind fun _ => .pure _
  | .call name args, seen, called => by
    rw [Expr.functions, List.forall_mem_cons] at called
    obtain ⟨here, called⟩ := called
    rw [evaluate, evaluate, Registry.find?, Registry.find?]
    -- The functions are looked up under the very name that is listed.
    generalize Bindings.get? functions (Text.lower name) = found at here ⊢
    generalize Bindings.get? others (Text.lower name) = found' at here ⊢
    cases here with
    | none => exact .throw _
    | some keep => exact (evaluateAll_related args seen called).bind keep
  | .array items, seen, called => by
    rw [evaluate, evaluate]
    exact (evaluateAll_related items seen called).bind fun _ => .pure _

/-- The same of a list of trees. -/
theorem evaluateAll_related :
    ∀ es : List Expr, (∀ path ∈ variablePathsAll es, c₁.resolve path = c₂.resolve path) →
      (∀ name ∈ functionsAll es, Option.Rel (Callable.Keep R c₁ c₂) (Bindings.get? functions name)
        (Bindings.get? others name)) →
      Evaluation.Related R (evaluateAll functions c₁ es) (evaluateAll others c₂ es)
  | [], _, _ => by
    rw [evaluateAll, evaluateAll]
    exact .pure _
  | e :: es, seen, called => by
    rw [variablePathsAll, List.forall_mem_append] at seen
    rw [functionsAll, List.forall_mem_append] at called
    rw [evaluateAll, evaluateAll]
    exact (evaluate_related e seen.1 called.1).bind fun _ =>
      (evaluateAll_related es seen.2 called.2).bind fun _ => .pure _

end

/-- In one context, two registries whose functions keep a relation evaluate side by side. -/
theorem run_related (e : Expr) (ctx : Context)
    (keep : ∀ name ∈ e.functions, Option.Rel (Callable.Keep R ctx ctx)
      (Bindings.get? functions name) (Bindings.get? others name))
    (host : σ) (other : τ) (start : R { host } { host := other }) :
    (e.run functions ctx host).1 = (e.run others ctx other).1 ∧
      R (e.run functions ctx host).2 (e.run others ctx other).2 :=
  evaluate_related e (fun _ _ => rfl) keep _ _ start

end Expr
end SurveyLogic
