/-
# Functions without side effects

A function is silent if a call leaves the state of the host as it was and registers nothing. The
library is silent. An evaluation with silent functions leaves its state as it was
(`Expr.evaluate_unmoved`), so an engine whose functions are silent is
the same after it but for what its cache holds. This is again a relation that is kept: the engines
that agree with one engine answer as that one does and go on agreeing with it (`near_simulation`),
so evaluations one after the other give what each gives on the engine before all of them
(`Respects.steady`).
-/

import SurveyLogic.Proofs.Engine.Transparency
import SurveyLogic.Proofs.Evaluation.Simulation

namespace SurveyLogic

variable {σ : Type}

/-- A call leaves the state of the host as it was and registers nothing. -/
def Callable.Silent (f : Callable σ) : Prop :=
  ∀ args ctx host, (f.call args ctx host).host = host ∧ (f.call args ctx host).registered = []

/-- A function of arguments and context is silent. -/
theorem Callable.ofFunction_silent (f : List Value → Context → Except EvalError Value) :
    (Callable.ofFunction f : Callable σ).Silent :=
  fun _ _ _ => ⟨rfl, rfl⟩

/-- A function that reads the clock is silent. -/
theorem Callable.ofClock_silent (clock : σ → Int) (f : Int → List Value → Value) :
    (Callable.ofClock clock f).Silent :=
  fun _ _ _ => ⟨rfl, rfl⟩

namespace Registry

variable {r : Registry σ}

/-- All functions of a registry are silent. -/
def Silent (r : Registry σ) : Prop :=
  ∀ entry ∈ r, entry.2.Silent

/-- What a silent registry holds under a name is silent. -/
theorem Silent.get? (h : r.Silent) {name : String} {f : Callable σ}
    (found : Bindings.get? r name = some f) : f.Silent := by
  obtain ⟨before, after, split, -⟩ := List.lookup_eq_some_iff.1 found
  exact h (name, f) (by rw [split]; simp)

/-- A silent registry stays silent with one more silent function. -/
theorem Silent.register (h : r.Silent) (name : String) {f : Callable σ} (silent : f.Silent) :
    (r.register name f).Silent := by
  intro entry mem
  rcases Bindings.mem_put mem with rfl | mem
  · exact silent
  · exact h entry mem

/-- A silent registry stays silent with more silent functions. -/
theorem Silent.registerAll {new : List (String × Callable σ)}
    (silent : ∀ entry ∈ new, entry.2.Silent) (h : r.Silent) : (r.registerAll new).Silent := by
  induction new generalizing r with
  | nil => exact h
  | cons entry rest ih =>
    refine ih (fun other mem => silent other (List.mem_cons_of_mem _ mem)) ?_
    exact h.register entry.1 (silent entry List.mem_cons_self)

end Registry

/-- The library is silent. -/
theorem library_silent (clock : σ → Int) : (library clock).Silent := by
  refine Registry.Silent.registerAll (fun entry mem => ?_) (fun entry mem => nomatch mem)
  rcases List.mem_append.1 mem with mem | mem
  · obtain ⟨⟨name, f⟩, -, rfl⟩ := List.mem_map.1 mem
    exact Callable.ofFunction_silent f
  · obtain ⟨⟨name, f⟩, -, rfl⟩ := List.mem_map.1 mem
    exact Callable.ofClock_silent clock f

namespace Evaluation

variable {α : Type}

/-- A step of an evaluation leaves the state as it was, however it ends. -/
def Unmoved (m : Evaluation σ α) : Prop :=
  ∀ before, (m.run.run before).2 = before

end Evaluation

/-- A call of a silent function moves nothing. -/
theorem Callable.Silent.invoke {f : Callable σ} (h : f.Silent) (args : List Value) (ctx : Context) :
    Evaluation.Unmoved (f.invoke args ctx) := by
  intro before
  obtain ⟨host, registered⟩ := h args ctx before.host
  rw [run_invoke]
  dsimp only
  rw [host, registered, List.append_nil]

/-- **Silent functions make silent evaluations.** Run beside itself, an evaluation keeps both states
the one that it began with. -/
theorem Expr.evaluate_unmoved {functions : Registry σ} (h : functions.Silent) (ctx : Context)
    (e : Expr) : Evaluation.Unmoved (e.evaluate functions ctx) := by
  intro before
  have keep : ∀ name ∈ e.functions,
      Option.Rel (Callable.Keep (fun s t => s = before ∧ t = before) ctx ctx)
        (Bindings.get? functions name) (Bindings.get? functions name) := by
    intro name _
    refine rel_self fun f found args s t states => ?_
    obtain ⟨rfl, rfl⟩ := states
    have unmoved := (h.get? found).invoke args ctx
    exact ⟨rfl, unmoved _, unmoved _⟩
  exact (Expr.evaluate_related e (fun _ _ => rfl) keep before before ⟨rfl, rfl⟩).2.1

/-- With silent functions, a tree leaves the host as it found it and registers nothing. -/
theorem Expr.run_state_eq {functions : Registry σ} (h : functions.Silent) (e : Expr)
    (ctx : Context) (host : σ) : (e.run functions ctx host).2 = { host } :=
  Expr.evaluate_unmoved h ctx e { host }

namespace Engine

variable {α : Type} {a b base : Engine σ}

/-- All functions of an engine are silent. -/
def Silent (engine : Engine σ) : Prop :=
  engine.functions.Silent

/-- An engine starts with silent functions. -/
theorem start_silent (config : EngineConfig) (clock : σ → Int) (host : σ) :
    (start config clock host).Silent := by
  dsimp only [Silent, start]
  exact library_silent clock

/-- An engine that agrees with one of silent functions has silent functions. -/
theorem Agree.silent (h : Agree a base) (silent : base.Silent) : a.Silent := by
  unfold Silent
  rw [h.functions]
  exact silent

/-- Two engines that agree with a third one. -/
structure Near (base a b : Engine σ) : Prop where
  left : Agree a base
  right : Agree b base

/-- Parsing leaves an engine in agreement with what it agreed with. -/
theorem agree_parse (near : Agree a base) (source : String) :
    Agree (parse source a).2 base := by
  rw [parse_apply]
  exact ⟨near.left.getOrParse_snd source, near.right, near.functions, near.limits, near.host⟩

/-- With silent functions, evaluating leaves an engine in agreement as well. -/
theorem agree_evaluateExpr (silent : base.Silent) (near : Agree a base) (e : Expr)
    (ctx : Context) : Agree (evaluateExpr e ctx a).2 base := by
  rw [evaluateExpr_apply]
  dsimp only
  rw [Expr.run_state_eq (near.silent silent)]
  exact ⟨near.left, near.right, near.functions, near.limits, near.host⟩

/-- **Evaluations with silent functions leave an engine as it was** but for what its cache holds. -/
theorem near_simulation (silent : base.Silent) : Simulation (Near base) where
  functions _ _ h := h.left.functions.trans h.right.functions.symm
  parse source a b h := by
    have same := agree_simulation.parse source a b (h.left.trans h.right.symm)
    exact ⟨same.1, agree_parse h.left source, agree_parse h.right source⟩
  evaluateExpr e ctx a b h := by
    have same := agree_simulation.evaluateExpr e ctx a b (h.left.trans h.right.symm)
    exact ⟨same.1, agree_evaluateExpr silent h.left e ctx, agree_evaluateExpr silent h.right e ctx⟩
  clearCache a b h := by
    have same := agree_simulation.clearCache a b (h.left.trans h.right.symm)
    exact ⟨same.1, ⟨same.2.left, h.left.right, h.left.functions, h.left.limits, h.left.host⟩,
      ⟨same.2.right, h.right.right, h.right.functions, h.right.limits, h.right.host⟩⟩

/-- What such a step gives after others is what it gives before them. -/
theorem Respects.steady {m : Running σ α} (h : Respects (Near base) m) (near : Agree a base) :
    (m a).1 = (m base).1 ∧ Agree (m a).2 base := by
  obtain ⟨same, after⟩ := h a base ⟨near, Agree.refl near.right⟩
  exact ⟨same, after.left⟩

end Engine
end SurveyLogic
