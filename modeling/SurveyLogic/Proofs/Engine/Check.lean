/-
# What a check of a source promises

A check names the functions that a source calls and the registry lacks. It reads the tree only, yet
it tells how every evaluation with this registry goes, whatever the context holds and whenever it
takes place:

| the check lists | the evaluation |
| --- | --- |
| nothing | meets no missing function |
| something | gives an error |

The names are brought to lower case three times on the way: where they are collected, where the
check asks the registry for them, and where the evaluation does. That the second time changes
nothing more is `Text.lower_lower`.
-/

import SurveyLogic.Proofs.Engine.Outcome
import SurveyLogic.Proofs.Evaluation.Fault
import SurveyLogic.Proofs.Text.Lower

namespace SurveyLogic

variable {σ : Type}

namespace Expr

mutual

/-- The names of functions are collected in lower case. -/
theorem lower_of_mem_functions : ∀ e : Expr, ∀ name ∈ e.functions, Text.lower name = name
  | .literal l => nofun
  | .var path => nofun
  | .unary op arg => lower_of_mem_functions arg
  | .binary op lhs rhs => by
    rw [functions, List.forall_mem_append]
    exact ⟨lower_of_mem_functions lhs, lower_of_mem_functions rhs⟩
  | .call name args => by
    rw [functions, List.forall_mem_cons]
    exact ⟨Text.lower_lower name, lower_of_mem_functionsAll args⟩
  | .array items => lower_of_mem_functionsAll items

/-- The same of the names in some trees. -/
theorem lower_of_mem_functionsAll :
    ∀ es : List Expr, ∀ name ∈ functionsAll es, Text.lower name = name
  | [] => nofun
  | e :: es => by
    rw [functionsAll, List.forall_mem_append]
    exact ⟨lower_of_mem_functions e, lower_of_mem_functionsAll es⟩

end

end Expr

namespace Engine

variable {engine later : Engine σ}

/-- The functions that a tree calls and a registry lacks. -/
def lacking (functions : Registry σ) (e : Expr) : List String :=
  (sortedNames e.functions).filter fun name => !functions.contains name

/-- The functions that are lacking are listed in increasing order, each once. -/
theorem lacking_pairwise (functions : Registry σ) (e : Expr) :
    (lacking functions e).Pairwise (· < ·) :=
  (sortedNames_pairwise e.functions).filter _

/-- A function is lacking if the tree calls it and the registry has none of that name. -/
theorem mem_lacking_iff {functions : Registry σ} {e : Expr} {name : String} :
    name ∈ lacking functions e ↔ name ∈ e.functions ∧ Bindings.get? functions name = none := by
  rw [lacking, List.mem_filter, mem_sortedNames]
  refine and_congr_right fun called => ?_
  rw [Registry.contains, Registry.find?, Expr.lower_of_mem_functions e name called]
  simp

/-- The errors of an evaluation are those that some node of the tree fails with. -/
theorem evaluate_eq_error_iff (sound : engine.Sound) {source : String} {e : Expr}
    (parsed : Expr.parse engine.limits source = .ok e) {ctx : Context} {err : EvalError} :
    (evaluate source ctx engine).1 = .error (.evaluation err) ↔
      ∃ fault, e.Fails engine.functions ctx { host := engine.host } fault ∧ fault.error = err := by
  rw [evaluate_fst sound, parsed, ← Expr.run_eq_error_iff]
  dsimp only
  cases (e.run engine.functions ctx engine.host).1 with
  | ok v => exact ⟨nofun, nofun⟩
  | error other =>
    refine ⟨fun h => congrArg _ (EngineError.evaluation.inj (Except.error.inj h)), fun h => ?_⟩
    rw [h]
    rfl

/-- With a function lacking, there is an error in every context. -/
theorem exists_evaluate_eq_error (sound : engine.Sound) {source : String} {e : Expr}
    (parsed : Expr.parse engine.limits source = .ok e) {name : String}
    (mem : name ∈ lacking engine.functions e) (ctx : Context) :
    ∃ fault, (evaluate source ctx engine).1 = .error fault := by
  obtain ⟨called, missing⟩ := mem_lacking_iff.1 mem
  obtain ⟨err, failed⟩ := Expr.run_ne_ok called missing ctx engine.host
  rw [evaluate_fst sound, parsed]
  dsimp only
  rw [failed]
  exact ⟨.evaluation err, rfl⟩

/-- If a tree lacks no function, an unknown one is what some function answers with. -/
theorem answered_of_lacking_eq_nil (sound : engine.Sound) {source : String} {e : Expr}
    (parsed : Expr.parse engine.limits source = .ok e) (none : lacking engine.functions e = [])
    {ctx : Context} {name : String}
    (shown : (evaluate source ctx engine).1 = .error (.evaluation (.unknownFunction name))) :
    e.Fails engine.functions ctx { host := engine.host } (.answered (.unknownFunction name)) := by
  obtain ⟨fault, fails, error⟩ := (evaluate_eq_error_iff sound parsed).1 shown
  cases fault with
  | missing other =>
    have mem := mem_lacking_iff.2 fails.mentioned
    rw [none] at mem
    exact nomatch mem
  | answered e =>
    obtain rfl : e = .unknownFunction name := error
    exact fails

/-- **A check is right about unknown functions.** A check of a source that is not blank reports an
error exactly if the source does not parse, and then that error. If it parses, the check lists names
in increasing order, and for each evaluation of the source with the same registry and limits, in any
context and at any time,

* if the list is empty, an error about an unknown function is one that a called function answers
  with,
* if it is not, there is an error,
* each name that the evaluation itself misses shows as the error about this name, and is listed in
  lower case.

The engines are any two with sound caches, which is what all engines have at any time
(`sound_perform`). -/
theorem check_unknownFunctions (kin : Kin later engine) {source : String}
    (full : Text.isBlankText source = false) :
    let report := (check source engine).1
    (∀ fault, report.error = some fault ↔ (parse source engine).1 = .error fault) ∧
      ∀ e, (parse source engine).1 = .ok e →
        report.unknownFunctions.Pairwise (· < ·) ∧
          ∀ ctx,
            (report.unknownFunctions = [] → ∀ name,
              (evaluate source ctx later).1 = .error (.evaluation (.unknownFunction name)) →
                e.Fails later.functions ctx { host := later.host }
                  (.answered (.unknownFunction name))) ∧
            (report.unknownFunctions ≠ [] →
              ∃ fault, (evaluate source ctx later).1 = .error fault) ∧
            ∀ name, e.Fails later.functions ctx { host := later.host } (.missing name) →
              (evaluate source ctx later).1 = .error (.evaluation (.unknownFunction name)) ∧
                Text.lower name ∈ report.unknownFunctions := by
  intro report
  have checked : report = _ := check_fst kin.right full
  rw [parse_fst kin.right]
  cases parsed : Expr.parse engine.limits source with
  | error fault =>
    rw [parsed] at checked
    rw [checked]
    refine ⟨fun other => ?_, nofun⟩
    exact ⟨fun h => congrArg _ (Option.some.inj h), fun h => congrArg _ (Except.error.inj h)⟩
  | ok e =>
    rw [parsed] at checked
    -- The check looks at one engine, the evaluation runs on the other; both have the same
    -- functions.
    have unknown : report.unknownFunctions = lacking later.functions e := by
      rw [checked, kin.functions]
      rfl
    rw [← kin.limits] at parsed
    refine ⟨fun fault => ?_, fun e' same => ?_⟩
    · rw [checked]
      exact ⟨nofun, nofun⟩
    obtain rfl : e = e' := Except.ok.inj same
    rw [unknown]
    refine ⟨lacking_pairwise _ _, fun ctx => ⟨fun none name shown => ?_, fun some => ?_,
      fun name fails => ⟨?_, mem_lacking_iff.2 fails.mentioned⟩⟩⟩
    · exact answered_of_lacking_eq_nil kin.left parsed none shown
    · obtain ⟨name, mem⟩ := List.exists_mem_of_ne_nil _ some
      exact exists_evaluate_eq_error kin.left parsed mem ctx
    · exact (evaluate_eq_error_iff kin.left parsed).2 ⟨_, fails, rfl⟩

/-- An engine whose host has registered a function that knows no function itself. -/
def hosting : Engine Int :=
  let ignorant := Callable.ofFunction fun _ _ => .error (.unknownFunction "Other")
  ((Operation.register "Host" ignorant).perform (start {} id 0)).2

/-- The hypotheses of `check_unknownFunctions` are satisfiable: a check finds a function that only
one branch calls, and the source has no value later on either. -/
theorem check_unknownFunctions_branch :
    let source := "iif({a} = 1, HOST(), Foo(1))"
    Kin { hosting with host := 1000 } hosting ∧ Text.isBlankText source = false ∧
      (check source hosting).1.unknownFunctions = ["foo"] ∧
      ∀ ctx, ∃ fault, (evaluate source ctx { hosting with host := 1000 }).1 = .error fault := by
  intro source
  have sound : hosting.Sound := sound_perform (start_sound _ _ _) _
  have kin : Kin { hosting with host := 1000 } hosting := ⟨sound, sound, rfl, rfl⟩
  have full : Text.isBlankText source = false := by decide +kernel
  have unknown : (check source hosting).1.unknownFunctions = ["foo"] := by decide +kernel
  refine ⟨kin, full, unknown, fun ctx => ?_⟩
  obtain ⟨failing, parsing⟩ := check_unknownFunctions kin full
  cases parsed : (parse source hosting).1 with
  | ok e =>
    obtain ⟨-, evaluation⟩ := parsing e parsed
    exact (evaluation ctx).2.1 (by rw [unknown]; exact List.cons_ne_nil _ _)
  | error fault =>
    have faultless : (check source hosting).1.error.isNone := by decide +kernel
    rw [(failing fault).2 parsed] at faultless
    exact nomatch faultless

end Engine
end SurveyLogic
