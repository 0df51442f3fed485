/-
# Calling what is listed

A function that an engine lists can be called in any case of its name with any arguments that parse,
if its name is a word and is not reserved. Four things have to fit together: the registry keeps
names in lower case, what is a word in lower case is a word in any case (`IsWord.of_lower`), the
arguments parse in their places as they do alone (`Expr.parse_call`), and the evaluation looks the
name up in lower case again.

A function with a reserved name is listed all the same, and no source calls it: the lexer takes the
word for what it is reserved for before it looks for a parenthesis
(`Expr.reserved?_of_mem_functions`). The library has one such function, `contains`.

| name | listed | called by a source |
| --- | --- | --- |
| a word | yes | yes |
| a reserved word | yes | no |
-/

import SurveyLogic.Proofs.Engine.Outcome
import SurveyLogic.Proofs.Syntax.Callees
import SurveyLogic.Proofs.Syntax.Embedding
import SurveyLogic.Proofs.Token.Word

namespace SurveyLogic
namespace Engine

variable {σ : Type} {engine : Engine σ}

/-- A name that is listed has a function. -/
theorem exists_of_mem_functionNames {name : String} (listed : name ∈ engine.functionNames) :
    ∃ f, Bindings.get? engine.functions name = some f :=
  Option.isSome_iff_exists.1 (Bindings.mem_names_iff.1 listed)

/-- With a sound cache, an engine parses a source to what the parser makes of it. -/
theorem parse_eq_ok_iff (sound : engine.Sound) {source : String} {e : Expr} :
    (parse source engine).1 = .ok e ↔ Expr.parse engine.limits source = .ok e := by
  rw [parse_fst sound]
  cases Expr.parse engine.limits source with
  | error fault => exact ⟨nofun, nofun⟩
  | ok e' => exact ⟨fun h => congrArg _ (Except.ok.inj h), fun h => congrArg _ (Except.ok.inj h)⟩

/-- The evaluation of a source that is a call evaluates the arguments, and then calls the function
under the name in lower case. -/
theorem evaluate_call {source word : String} {args : List Expr} {f : Callable σ}
    (parsed : (parse source engine).1 = .ok (.call word args))
    (found : Bindings.get? engine.functions (Text.lower word) = some f) (ctx : Context) :
    let calling : Evaluation σ Value := do
      let vs ← Expr.evaluateAll engine.functions ctx args
      f.invoke vs ctx
    let ran := calling.run.run { host := engine.host }
    evaluate source ctx engine =
      (ran.1.mapError .evaluation, (parse source engine).2.settle ran.2) := by
  intro calling ran
  have whole : parse source engine = (.ok (.call word args), (parse source engine).2) :=
    Prod.ext parsed rfl
  have registered : engine.functions.find? word = some f := found
  have ran_eq : (Expr.call word args).run engine.functions ctx engine.host = ran := by
    rw [Expr.run, Expr.evaluate, registered]
  rw [evaluate_apply, whole]
  dsimp only
  rw [evaluateExpr_apply, ← ran_eq]
  rfl

/-- **What is listed can be called, unless its name is reserved.** Let an engine list a function
under a name that is a word, let `word` be the name in any case, and let some sources parse with one
level less than the engine allows. If the name is not reserved, the call of `word` with these
sources as arguments parses to the call of `word` with their trees, and evaluating it evaluates the
trees and then calls the function that is registered under the name. If it is reserved, no source
parses to a tree that calls the function. -/
theorem listed_callable (sound : engine.Sound) {name word : String}
    (listed : name ∈ engine.functionNames) (shape : Token.IsWord name.toList)
    (variant : Text.lower word = name) :
    (Token.reserved? name = none →
      ∀ depth < engine.limits.maxDepth, ∀ sources args, Expr.ParseTo ⟨depth⟩ sources args →
        let source := word ++ "(" ++ Text.join "," sources ++ ")"
        (parse source engine).1 = .ok (.call word args) ∧
          ∃ f, Bindings.get? engine.functions name = some f ∧ ∀ ctx,
            let calling : Evaluation σ Value := do
              let vs ← Expr.evaluateAll engine.functions ctx args
              f.invoke vs ctx
            let ran := calling.run.run { host := engine.host }
            evaluate source ctx engine =
              (ran.1.mapError .evaluation, (parse source engine).2.settle ran.2)) ∧
      (Token.reserved? name ≠ none →
        ∀ source e, (parse source engine).1 = .ok e → name ∉ e.functions) := by
  subst variant
  constructor
  · intro free depth deep sources args parse source
    have parsed : (Engine.parse source engine).1 = .ok (.call word args) :=
      (parse_eq_ok_iff sound).2 (Expr.parse_call shape.of_lower free parse deep)
    obtain ⟨f, found⟩ := exists_of_mem_functionNames listed
    exact ⟨parsed, f, found, evaluate_call parsed found⟩
  · intro reserved source e parsed called
    exact reserved (Expr.reserved?_of_mem_functions ((parse_eq_ok_iff sound).1 parsed) _ called)

/-- An engine whose host has registered a function with a name beyond ASCII. -/
def greeting : Engine Int :=
  let greet := Callable.ofFunction fun _ _ => .ok (.string "Hallo")
  ((Operation.register "Grüße" greet).perform (start {} id 0)).2

/-- The hypotheses of `listed_callable` are satisfiable: a function of the host is called in upper
case, with a string for an argument that has a comma and a parenthesis in it. -/
theorem listed_callable_greeting :
    let sources := ["1 - 2", "'a,b)'"]
    greeting.Sound ∧ "grüße" ∈ greeting.functionNames ∧ Token.IsWord "grüße".toList ∧
      Text.lower "GRÜßE" = "grüße" ∧ Token.reserved? "grüße" = none ∧
      ∃ args, Expr.ParseTo ⟨127⟩ sources args ∧
        (parse ("GRÜßE" ++ "(" ++ Text.join "," sources ++ ")") greeting).1 =
          .ok (.call "GRÜßE" args) := by
  intro sources
  have sound : greeting.Sound := sound_perform (start_sound _ _ _) _
  have listed : "grüße" ∈ greeting.functionNames := by decide +kernel
  have chars : "grüße".toList = ['g', 'r', 'ü', 'ß', 'e'] := by decide +kernel
  have shape : Token.IsWord "grüße".toList := by
    rw [chars]
    exact ⟨by decide, List.all_eq_true.1 (by decide +kernel)⟩
  have variant : Text.lower "GRÜßE" = "grüße" := by decide +kernel
  have free : Token.reserved? "grüße" = none := by decide +kernel
  obtain ⟨args, parsed⟩ : ∃ args, Expr.ParseTo ⟨127⟩ sources args :=
    Expr.exists_parseTo (by decide +kernel)
  have deep : 127 < greeting.limits.maxDepth := by decide
  have calls := (listed_callable sound listed shape variant).1 free 127 deep sources args parsed
  exact ⟨sound, listed, shape, variant, free, args, parsed, calls.1⟩

/-- The library lists `contains`, but the word is an operator: a call of it does not parse, with
arguments that do. -/
theorem contains_uncallable :
    let engine : Engine Int := start {} id 0
    let sources := ["['a']", " 'a'"]
    "contains" ∈ engine.functionNames ∧ Token.IsWord "contains".toList ∧
      Text.lower "contains" = "contains" ∧ (∃ args, Expr.ParseTo ⟨127⟩ sources args) ∧
      ∀ e, (parse ("contains" ++ "(" ++ Text.join "," sources ++ ")") engine).1 ≠ .ok e := by
  intro engine sources
  have chars : "contains".toList = ['c', 'o', 'n', 't', 'a', 'i', 'n', 's'] := by decide +kernel
  have shape : Token.IsWord "contains".toList := by
    rw [chars]
    exact ⟨by decide, List.all_eq_true.1 (by decide +kernel)⟩
  refine ⟨by decide +kernel, shape, by decide +kernel, Expr.exists_parseTo (by decide +kernel), ?_⟩
  intro e parsed
  have failed :
      (parse ("contains" ++ "(" ++ Text.join "," sources ++ ")") engine).1.isOk = false := by
    decide +kernel
  rw [parsed] at failed
  cases failed

/-- It is the only function of the library with a reserved name. -/
example : (start {} id (0 : Int)).functionNames.filter (fun name => (Token.reserved? name).isSome) =
    ["contains"] := by
  decide +kernel

end Engine
end SurveyLogic
