/-
# How an evaluation fails

An evaluation that fails has come to one of two ends: a call of a function that the registry does
not have, or a function that answers with an error. Both can show as the same error, for a function
may itself answer that some function is unknown; a fault tells them apart. `Fails` says where in a
tree the first fault is met, everything to the left of it having a value, and is exactly when and
how the evaluation gives an error (`run_eq_error_iff`).

What the first kind of end can be is seen without an evaluation. A tree that mentions a function
without registration has no value in any context (`run_ne_ok`), since nothing in a tree is passed
over.
-/

import SurveyLogic.Evaluation
import SurveyLogic.Expr.Dependencies

namespace SurveyLogic

variable {σ : Type}

/-- What ends an evaluation that fails. -/
inductive Fault where
  /-- A function of this name is called and there is none. -/
  | missing (name : String)
  /-- A function that is called answers with this error. -/
  | answered (e : EvalError)

/-- The error that a fault shows as. -/
def Fault.error : Fault → EvalError
  | missing name => .unknownFunction name
  | answered e => e

namespace Evaluation

variable {α β : Type} {m : Evaluation σ α} {k : α → Evaluation σ β} {before : CallState σ}

/-- Steps one behind another give what the second one gives behind a value of the first. -/
theorem bind_eq_ok_iff {y : β} :
    ((m >>= k).run.run before).1 = .ok y ↔
      ∃ x mid, m.run.run before = (.ok x, mid) ∧ ((k x).run.run mid).1 = .ok y := by
  rw [run_bind]
  obtain ⟨result, mid⟩ := m.run.run before
  cases result with
  | ok x =>
    refine ⟨fun h => ⟨x, mid, rfl, h⟩, ?_⟩
    rintro ⟨_, _, ⟨⟩, h⟩
    exact h
  | error e =>
    refine ⟨nofun, ?_⟩
    rintro ⟨_, _, ⟨⟩, -⟩

/-- Steps one behind another fail where the first does, or the second behind it. -/
theorem bind_eq_error_iff {e : EvalError} :
    ((m >>= k).run.run before).1 = .error e ↔
      (m.run.run before).1 = .error e ∨
        ∃ x mid, m.run.run before = (.ok x, mid) ∧ ((k x).run.run mid).1 = .error e := by
  rw [run_bind]
  obtain ⟨result, mid⟩ := m.run.run before
  cases result with
  | ok x =>
    refine ⟨fun h => .inr ⟨x, mid, rfl, h⟩, ?_⟩
    rintro (h | ⟨_, _, ⟨⟩, h⟩)
    · exact nomatch h
    · exact h
  | error e =>
    refine ⟨fun h => .inl (congrArg _ (Except.error.inj h)), ?_⟩
    rintro (h | ⟨_, _, ⟨⟩, -⟩)
    exact congrArg _ (Except.error.inj h)

end Evaluation

namespace Expr

open Evaluation (bind_eq_ok_iff bind_eq_error_iff)

variable {functions : Registry σ} {ctx : Context}

mutual

/-- The evaluation of a tree from some state ends with a fault. -/
inductive Fails (functions : Registry σ) (ctx : Context) : Expr → CallState σ → Fault → Prop where
  | unary {op : UnaryOp} {arg : Expr} {before : CallState σ} {fault : Fault}
      (h : Fails functions ctx arg before fault) :
      Fails functions ctx (.unary op arg) before fault
  | left {op : BinaryOp} {lhs rhs : Expr} {before : CallState σ} {fault : Fault}
      (h : Fails functions ctx lhs before fault) :
      Fails functions ctx (.binary op lhs rhs) before fault
  | right {op : BinaryOp} {lhs rhs : Expr} {before mid : CallState σ} {v : Value} {fault : Fault}
      (first : (lhs.evaluate functions ctx).run.run before = (.ok v, mid))
      (h : Fails functions ctx rhs mid fault) :
      Fails functions ctx (.binary op lhs rhs) before fault
  | missing {name : String} {args : List Expr} {before : CallState σ}
      (h : functions.find? name = none) :
      Fails functions ctx (.call name args) before (.missing name)
  | argument {name : String} {args : List Expr} {before : CallState σ} {fault : Fault}
      {f : Callable σ} (found : functions.find? name = some f)
      (h : FailsAll functions ctx args before fault) :
      Fails functions ctx (.call name args) before fault
  | answered {name : String} {args : List Expr} {before mid : CallState σ} {f : Callable σ}
      {vs : List Value} {e : EvalError} (found : functions.find? name = some f)
      (first : (evaluateAll functions ctx args).run.run before = (.ok vs, mid))
      (h : (f.call vs ctx mid.host).result = .error e) :
      Fails functions ctx (.call name args) before (.answered e)
  | item {items : List Expr} {before : CallState σ} {fault : Fault}
      (h : FailsAll functions ctx items before fault) :
      Fails functions ctx (.array items) before fault

/-- The evaluation of a list of trees from some state ends with a fault. -/
inductive FailsAll (functions : Registry σ) (ctx : Context) :
    List Expr → CallState σ → Fault → Prop where
  | head {e : Expr} {es : List Expr} {before : CallState σ} {fault : Fault}
      (h : Fails functions ctx e before fault) :
      FailsAll functions ctx (e :: es) before fault
  | tail {e : Expr} {es : List Expr} {before mid : CallState σ} {v : Value} {fault : Fault}
      (first : (e.evaluate functions ctx).run.run before = (.ok v, mid))
      (h : FailsAll functions ctx es mid fault) :
      FailsAll functions ctx (e :: es) before fault

end

/-- A call fails with what the function answers. -/
theorem invoke_eq_error_iff {f : Callable σ} {args : List Value} {before : CallState σ}
    {e : EvalError} :
    ((f.invoke args ctx).run.run before).1 = .error e ↔
      (f.call args ctx before.host).result = .error e := by
  rw [Callable.run_invoke]

mutual

/-- An evaluation that gives an error ends with a fault that shows as this error. -/
theorem exists_fails :
    ∀ (e : Expr) {before : CallState σ} {err : EvalError},
      ((e.evaluate functions ctx).run.run before).1 = .error err →
        ∃ fault, Fails functions ctx e before fault ∧ fault.error = err
  | .literal l, _, _, h => by
    rw [evaluate] at h
    exact nomatch h
  | .var path, _, _, h => by
    rw [evaluate] at h
    exact nomatch h
  | .unary op arg, _, _, h => by
    rw [evaluate, bind_eq_error_iff] at h
    rcases h with h | ⟨v, mid, -, h⟩
    · obtain ⟨fault, fails, shown⟩ := exists_fails arg h
      exact ⟨fault, .unary fails, shown⟩
    · exact nomatch h
  | .binary op lhs rhs, _, _, h => by
    rw [evaluate, bind_eq_error_iff] at h
    rcases h with h | ⟨v, mid, first, h⟩
    · obtain ⟨fault, fails, shown⟩ := exists_fails lhs h
      exact ⟨fault, .left fails, shown⟩
    · rcases bind_eq_error_iff.1 h with h | ⟨w, after, -, h⟩
      · obtain ⟨fault, fails, shown⟩ := exists_fails rhs h
        exact ⟨fault, .right first fails, shown⟩
      · exact nomatch h
  | .call name args, _, _, h => by
    rw [evaluate] at h
    split at h
    · rename_i found
      exact ⟨.missing name, .missing found, Except.error.inj h⟩
    · rename_i f found
      rcases bind_eq_error_iff.1 h with h | ⟨vs, mid, first, h⟩
      · obtain ⟨fault, fails, shown⟩ := exists_failsAll args h
        exact ⟨fault, .argument found fails, shown⟩
      · exact ⟨.answered _, .answered found first (invoke_eq_error_iff.1 h), rfl⟩
  | .array items, _, _, h => by
    rw [evaluate, bind_eq_error_iff] at h
    rcases h with h | ⟨vs, mid, -, h⟩
    · obtain ⟨fault, fails, shown⟩ := exists_failsAll items h
      exact ⟨fault, .item fails, shown⟩
    · exact nomatch h

/-- The same of a list of trees. -/
theorem exists_failsAll :
    ∀ (es : List Expr) {before : CallState σ} {err : EvalError},
      ((evaluateAll functions ctx es).run.run before).1 = .error err →
        ∃ fault, FailsAll functions ctx es before fault ∧ fault.error = err
  | [], _, _, h => by
    rw [evaluateAll] at h
    exact nomatch h
  | e :: es, _, _, h => by
    rw [evaluateAll, bind_eq_error_iff] at h
    rcases h with h | ⟨v, mid, first, h⟩
    · obtain ⟨fault, fails, shown⟩ := exists_fails e h
      exact ⟨fault, .head fails, shown⟩
    · rcases bind_eq_error_iff.1 h with h | ⟨vs, after, -, h⟩
      · obtain ⟨fault, fails, shown⟩ := exists_failsAll es h
        exact ⟨fault, .tail first fails, shown⟩
      · exact nomatch h

end

mutual

/-- An evaluation that ends with a fault gives the error that it shows as. -/
theorem Fails.evaluate_eq {e : Expr} {before : CallState σ} {fault : Fault} :
    Fails functions ctx e before fault →
      ((e.evaluate functions ctx).run.run before).1 = .error fault.error
  | .unary h => by
    rw [evaluate, bind_eq_error_iff]
    exact .inl h.evaluate_eq
  | .left h => by
    rw [evaluate, bind_eq_error_iff]
    exact .inl h.evaluate_eq
  | .right first h => by
    rw [evaluate, bind_eq_error_iff]
    exact .inr ⟨_, _, first, bind_eq_error_iff.2 (.inl h.evaluate_eq)⟩
  | .missing h => by
    rw [evaluate, h]
    rfl
  | .argument found h => by
    rw [evaluate, found]
    exact bind_eq_error_iff.2 (.inl h.evaluateAll_eq)
  | .answered found first h => by
    rw [evaluate, found]
    exact bind_eq_error_iff.2 (.inr ⟨_, _, first, invoke_eq_error_iff.2 h⟩)
  | .item h => by
    rw [evaluate, bind_eq_error_iff]
    exact .inl h.evaluateAll_eq

/-- The same of a list of trees. -/
theorem FailsAll.evaluateAll_eq {es : List Expr} {before : CallState σ} {fault : Fault} :
    FailsAll functions ctx es before fault →
      ((evaluateAll functions ctx es).run.run before).1 = .error fault.error
  | .head h => by
    rw [evaluateAll, bind_eq_error_iff]
    exact .inl h.evaluate_eq
  | .tail first h => by
    rw [evaluateAll, bind_eq_error_iff]
    exact .inr ⟨_, _, first, bind_eq_error_iff.2 (.inl h.evaluateAll_eq)⟩

end

/-- **An evaluation gives an error exactly if it ends with a fault that shows as this error.** -/
theorem run_eq_error_iff {e : Expr} {host : σ} {err : EvalError} :
    (e.run functions ctx host).1 = .error err ↔
      ∃ fault, Fails functions ctx e { host } fault ∧ fault.error = err := by
  refine ⟨exists_fails e, ?_⟩
  rintro ⟨fault, fails, rfl⟩
  exact fails.evaluate_eq

mutual

/-- A function that is called and missing is mentioned in the tree. -/
theorem Fails.mentioned {e : Expr} {before : CallState σ} {name : String} :
    Fails functions ctx e before (.missing name) →
      Text.lower name ∈ e.functions ∧ functions.find? name = none
  | .unary h => h.mentioned
  | .left h => h.mentioned.imp_left (List.mem_append_left _)
  | .right _ h => h.mentioned.imp_left (List.mem_append_right _)
  | .missing h => ⟨List.mem_cons_self, h⟩
  | .argument _ h => h.mentioned.imp_left (List.mem_cons_of_mem _)
  | .item h => h.mentioned

/-- The same of a list of trees. -/
theorem FailsAll.mentioned {es : List Expr} {before : CallState σ} {name : String} :
    FailsAll functions ctx es before (.missing name) →
      Text.lower name ∈ functionsAll es ∧ functions.find? name = none
  | .head h => h.mentioned.imp_left (List.mem_append_left _)
  | .tail _ h => h.mentioned.imp_left (List.mem_append_right _)

end

mutual

/-- A tree that has a value calls registered functions only. -/
theorem registered_of_evaluate_eq_ok :
    ∀ (e : Expr) {before : CallState σ} {v : Value},
      ((e.evaluate functions ctx).run.run before).1 = .ok v →
        ∀ name ∈ e.functions, (Bindings.get? functions name).isSome
  | .literal l, _, _, _ => nofun
  | .var path, _, _, _ => nofun
  | .unary op arg, _, _, h => by
    rw [evaluate, bind_eq_ok_iff] at h
    obtain ⟨v, mid, first, -⟩ := h
    exact registered_of_evaluate_eq_ok arg (congrArg Prod.fst first)
  | .binary op lhs rhs, _, _, h => by
    rw [evaluate, bind_eq_ok_iff] at h
    obtain ⟨v, mid, first, h⟩ := h
    obtain ⟨w, after, second, -⟩ := bind_eq_ok_iff.1 h
    rw [Expr.functions, List.forall_mem_append]
    exact ⟨registered_of_evaluate_eq_ok lhs (congrArg Prod.fst first),
      registered_of_evaluate_eq_ok rhs (congrArg Prod.fst second)⟩
  | .call name args, _, _, h => by
    rw [evaluate] at h
    split at h
    · exact nomatch h
    · rename_i f found
      obtain ⟨vs, mid, first, -⟩ := bind_eq_ok_iff.1 h
      rw [Expr.functions, List.forall_mem_cons]
      exact ⟨Option.isSome_of_eq_some found,
        registered_of_evaluateAll_eq_ok args (congrArg Prod.fst first)⟩
  | .array items, _, _, h => by
    rw [evaluate, bind_eq_ok_iff] at h
    obtain ⟨vs, mid, first, -⟩ := h
    exact registered_of_evaluateAll_eq_ok items (congrArg Prod.fst first)

/-- The same of a list of trees. -/
theorem registered_of_evaluateAll_eq_ok :
    ∀ (es : List Expr) {before : CallState σ} {vs : List Value},
      ((evaluateAll functions ctx es).run.run before).1 = .ok vs →
        ∀ name ∈ functionsAll es, (Bindings.get? functions name).isSome
  | [], _, _, _ => nofun
  | e :: es, _, _, h => by
    rw [evaluateAll, bind_eq_ok_iff] at h
    obtain ⟨v, mid, first, h⟩ := h
    obtain ⟨vs, after, second, -⟩ := bind_eq_ok_iff.1 h
    rw [functionsAll, List.forall_mem_append]
    exact ⟨registered_of_evaluate_eq_ok e (congrArg Prod.fst first),
      registered_of_evaluateAll_eq_ok es (congrArg Prod.fst second)⟩

end

/-- **A tree that mentions a missing function has no value in any context.** -/
theorem run_ne_ok {e : Expr} {name : String} (mem : name ∈ e.functions)
    (missing : Bindings.get? functions name = none) (ctx : Context) (host : σ) :
    ∃ err, (e.run functions ctx host).1 = .error err := by
  cases result : (e.run functions ctx host).1 with
  | ok v =>
    have registered := registered_of_evaluate_eq_ok e result name mem
    rw [missing] at registered
    exact nomatch registered
  | error err => exact ⟨err, rfl⟩

end Expr
end SurveyLogic
