/-
# Functions that register functions

While an expression runs, its functions may register others in the engine that runs it, also under
names that the expression calls. The expression does not see them: all its calls are resolved in the
registry that it began with. None of them is lost: when it ends, with a value or an error, the
engine has all that was registered, in the order of the calls.

An evaluation collects what is registered, and the engine adds it at the end. A host would write to
the registry of the engine at once, while the evaluation goes on with the registry it took before
(`evaluateLive`). Both come to the same (`evaluateExpr_eq_live`).

| `install` registers `late` | `late()` |
| --- | --- |
| `[install(), late()]` | not registered |
| `late()` behind it | called |
-/

import SurveyLogic.Proofs.Engine.Outcome
import SurveyLogic.Proofs.Evaluation.Trace

namespace SurveyLogic

variable {σ : Type}

namespace Registry

variable (r : Registry σ)

/-- To register some functions and then others is to register all in this order. -/
theorem registerAll_append (new more : List (String × Callable σ)) :
    r.registerAll (new ++ more) = (r.registerAll new).registerAll more :=
  List.foldl_append

/-- Of several functions registered under one name the last counts. -/
theorem find?_registerAll (new : List (String × Callable σ)) (name : String) :
    (r.registerAll new).find? name =
      ((new.filter fun entry => Text.lower entry.1 = Text.lower name).getLast?.map (·.2)).or
        (r.find? name) := by
  rw [find?, registerAll_eq_putAll, Bindings.get?_putAll, List.filter_map, List.getLast?_map,
    Option.map_map]
  rfl

end Registry

/-! ### From call to call -/

/-- What a function registered in a call. -/
def Invocation.registrations (functions : Registry σ) (ctx : Context) (inv : Invocation σ) :
    List (String × Callable σ) :=
  ((Bindings.get? functions inv.name).map fun f =>
    (f.call inv.args ctx inv.host).registered).getD []

/-- The states that some calls lead through. Each function is called in the state of the host that
the call before it left, and what it registers comes behind what was registered before. -/
inductive Passes (functions : Registry σ) (ctx : Context) (start : CallState σ) :
    List (Invocation σ) → CallState σ → Prop where
  | start : Passes functions ctx start [] start
  | call {made : List (Invocation σ)} {s : CallState σ} {inv : Invocation σ} {f : Callable σ}
      (before : Passes functions ctx start made s)
      (found : Bindings.get? functions inv.name = some f) (host : inv.host = s.host)
      (result : inv.result = (f.call inv.args ctx s.host).result) :
      Passes functions ctx start (made ++ [inv])
        { host := (f.call inv.args ctx s.host).host
          registered := s.registered ++ (f.call inv.args ctx s.host).registered }

/-- Along some calls, what is registered is what was before and what each call adds. -/
theorem Passes.registered {functions : Registry σ} {ctx : Context} {start s : CallState σ}
    {made : List (Invocation σ)} (h : Passes functions ctx start made s) :
    s.registered = start.registered ++ made.flatMap (·.registrations functions ctx) := by
  induction h with
  | start => simp
  | @call made s inv f before found host result ih =>
    have new : inv.registrations functions ctx = (f.call inv.args ctx s.host).registered := by
      rw [Invocation.registrations, found, host]
      rfl
    rw [List.flatMap_append, List.flatMap_singleton, new, ← List.append_assoc, ← ih]

/-- **The calls of an evaluation lead from its first state to its last.** -/
theorem Expr.run_passes (e : Expr) (functions : Registry σ) (ctx : Context) (host : σ) :
    Passes functions ctx { host } (e.invocations functions ctx host)
      (e.run functions ctx host).2 := by
  have keep : ∀ name ∈ e.functions,
      Option.Rel (Callable.Keep
          (fun s t => ∃ record, t = s.recorded record ∧ Passes functions ctx { host } record s)
          ctx ctx)
        (Bindings.get? functions name) (Bindings.get? functions.recorded name) := by
    intro name _
    rw [Registry.get?_recorded]
    cases found : Bindings.get? functions name with
    | none => exact .none
    | some f =>
      refine .some ?_
      rintro args s t ⟨record, rfl, passes⟩
      rw [Callable.run_invoke_recorded, Callable.run_invoke]
      exact ⟨rfl, _, rfl, passes.call found rfl rfl⟩
  obtain ⟨-, record, same, passes⟩ := e.run_related ctx keep host (host, []) ⟨[], rfl, .start⟩
  rw [invocations, same]
  exact passes

/-! ### Writing to the registry at once -/

/-- A function that writes what it registers to a registry that the host keeps. -/
def Callable.live : Callable σ → Callable (σ × Registry σ)
  | mk run => mk fun args ctx state =>
    let reply := run args ctx state.1
    ⟨reply.result, (reply.host, state.2.registerAll reply.registered), []⟩

/-- A function that writes at once answers as before and registers nothing later. -/
theorem Callable.call_live (f : Callable σ) (args : List Value) (ctx : Context) (host : σ)
    (kept : Registry σ) :
    f.live.call args ctx (host, kept) =
      let reply := f.call args ctx host
      ⟨reply.result, (reply.host, kept.registerAll reply.registered), []⟩ := by
  cases f
  rfl

/-- The functions of a registry, writing to one that the host keeps. -/
def Registry.live (r : Registry σ) : Registry (σ × Registry σ) :=
  r.map fun entry => (entry.1, entry.2.live)

/-- A registry that writes at once has its functions under the same names. -/
theorem Registry.get?_live (r : Registry σ) (name : String) :
    Bindings.get? r.live name = (Bindings.get? r name).map Callable.live :=
  Bindings.get?_map (fun _ => Callable.live) r name

/-- **It makes no difference when a registration is written.** An evaluation whose functions write
to a registry at once gives what one gives that collects what they register, and the registry ends
up with all of it. -/
theorem Expr.run_live (e : Expr) (functions kept : Registry σ) (ctx : Context) (host : σ) :
    let plain := e.run functions ctx host
    e.run functions.live ctx (host, kept) =
      (plain.1, { host := (plain.2.host, kept.registerAll plain.2.registered) }) := by
  intro plain
  have keep : ∀ name ∈ e.functions,
      Option.Rel (Callable.Keep
          (fun s t => t = { host := (s.host, kept.registerAll s.registered) }) ctx ctx)
        (Bindings.get? functions name) (Bindings.get? functions.live name) := by
    intro name _
    rw [Registry.get?_live]
    cases Bindings.get? functions name with
    | none => exact .none
    | some f =>
      refine .some ?_
      rintro args s t rfl
      rw [Callable.run_invoke, Callable.run_invoke, Callable.call_live]
      dsimp only
      rw [Registry.registerAll_append]
      exact ⟨rfl, rfl⟩
  obtain ⟨result, state⟩ := e.run_related ctx keep host (host, kept) rfl
  exact Prod.ext result.symm state

namespace Engine

/-- The value of a tree, its functions writing what they register to the registry of the engine at
once. They are looked up in the registry as it was before. -/
def evaluateLive (e : Expr) (ctx : Context) : Running σ (Except EngineError Value) := fun engine =>
  let (result, after) := e.run engine.functions.live ctx (engine.host, engine.functions)
  (result.mapError .evaluation, { engine with host := after.host.1, functions := after.host.2 })

/-- Writing at once leaves an engine as writing at the end does. -/
theorem evaluateExpr_eq_live (e : Expr) (ctx : Context) (engine : Engine σ) :
    evaluateExpr e ctx engine = evaluateLive e ctx engine := by
  rw [evaluateExpr, evaluateLive, Expr.run_live]
  rfl

/-- What the calls of a tree register, in order. -/
def registrations (engine : Engine σ) (e : Expr) (ctx : Context) : List (String × Callable σ) :=
  (e.invocations engine.functions ctx engine.host).flatMap (·.registrations engine.functions ctx)

/-- What an evaluation registers is what its calls register, in order. -/
theorem registered_eq (engine : Engine σ) (e : Expr) (ctx : Context) :
    (e.run engine.functions ctx engine.host).2.registered = engine.registrations e ctx :=
  (e.run_passes engine.functions ctx engine.host).registered

/-- An evaluation adds to the registry what its calls register. -/
theorem functions_evaluateExpr (engine : Engine σ) (e : Expr) (ctx : Context) :
    (evaluateExpr e ctx engine).2.functions =
      engine.functions.registerAll (engine.registrations e ctx) := by
  rw [← registered_eq]
  rfl

/-- **Registrations are isolated from the evaluation that makes them and never lost.** A source
without a tree calls nothing and changes nothing but the cache. For any other, each call was
resolved in the registry as it stood at the beginning, and missed a function only if it was not
there. The calls that were made, the last of which may have failed, lead from the state at the
beginning to that at the end, and the registry is then the one at the beginning with all that they
registered: a name stands for the last function registered under it, or for what it stood for
before. It makes no difference whether the functions wrote to the registry of the engine at once. -/
theorem evaluate_isolated (engine : Engine σ) (source : String) (ctx : Context) :
    let ended := evaluate source ctx engine
    match (parse source engine).1 with
    | .error fault =>
      ended.1 = .error fault ∧ ended.2.functions = engine.functions ∧ ended.2.host = engine.host
    | .ok e =>
      let made := e.invocations engine.functions ctx engine.host
      let new := engine.registrations e ctx
      (∃ result : Except EvalError Value, ended.1 = result.mapError .evaluation ∧
        Expr.Course engine.functions ctx made e.calls result) ∧
      Passes engine.functions ctx { host := engine.host } made
        { host := ended.2.host, registered := new } ∧
      ended.2.functions = engine.functions.registerAll new ∧
      (∀ name, ended.2.functions.find? name =
        ((new.filter fun entry => Text.lower entry.1 = Text.lower name).getLast?.map (·.2)).or
          (engine.functions.find? name)) ∧
      ended = evaluateLive e ctx (parse source engine).2 := by
  intro ended
  have whole : ended = _ := evaluate_apply source ctx engine
  -- Parsing leaves the functions and the host as they are.
  have functions : (parse source engine).2.functions = engine.functions := rfl
  have host : (parse source engine).2.host = engine.host := rfl
  cases parsed : parse source engine with
  | mk result after =>
    rw [parsed] at whole functions host
    cases result with
    | error fault =>
      rw [whole]
      exact ⟨rfl, functions, host⟩
    | ok e =>
      dsimp only at whole functions host ⊢
      have registry : ended.2.functions =
          engine.functions.registerAll (engine.registrations e ctx) := by
        rw [whole, functions_evaluateExpr, registrations, functions, host]
        rfl
      have left : ended.2.host = (e.run engine.functions ctx engine.host).2.host := by
        rw [whole, evaluateExpr_apply, functions, host]
        rfl
      have course := (Expr.run_traced e engine.functions ctx engine.host).2
      have passes := e.run_passes engine.functions ctx engine.host
      refine ⟨⟨_, ?_, course⟩, ?_, registry, fun name => ?_, ?_⟩
      · rw [whole, evaluateExpr_apply, functions, host]
      · rw [left]
        have state : (e.run engine.functions ctx engine.host).2 =
            { host := (e.run engine.functions ctx engine.host).2.host
              registered := engine.registrations e ctx } := by
          rw [← registered_eq]
        rw [state] at passes
        exact passes
      · rw [registry, Registry.find?_registerAll]
      · rw [whole, evaluateExpr_eq_live]

/-! A function that an expression registers is there for the next expression, in any case, and not
for a call behind it. -/

example :
    let late : Callable Unit := .ofFunction fun _ _ => .ok (.string "late")
    let install : Callable Unit := .mk fun _ _ host => ⟨.ok (.bool true), host, [("Late", late)]⟩
    let engine : Engine Unit :=
      { cache := { config := {} }, functions := [("install", install)], limits := {}, host := () }
    let first := evaluate "[install(), late()]" {} engine
    first.1.isOk = false ∧ (evaluate "late()" {} first.2).1.isOk := by
  decide +kernel

end Engine
end SurveyLogic
