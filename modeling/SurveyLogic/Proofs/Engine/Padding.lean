/-
# Blanks around a source

An engine runs a source without the blanks at its ends, but evaluates and parses it as it is given.
The difference does not show: a source and its trimmed text have the same tokens but for their
positions, or the same fault (`tokenize_trim`), and so the same tree, or errors that differ in
positions only. Trimming and the lexer agree on what is blank, and no token is prolonged or closed
by a blank behind it, not even a string, a reference or a backslash that the end of the source
leaves open (`Token.lexeme_append_blank`).

So running a source is evaluating it, with a fallback for a failure and another one for a source
that is missing or blank (`run_eq_evaluate`).
-/

import SurveyLogic.Proofs.Engine.Outcome
import SurveyLogic.Proofs.Token.Separation

namespace SurveyLogic

namespace Text

/-- What is trimmed at the end of a text is blank. -/
theorem trimRight_append (cs : List Char) :
    ∃ trail, (∀ c ∈ trail, isBlank c) ∧ trimRight cs ++ trail = cs := by
  refine ⟨(cs.reverse.takeWhile isBlank).reverse, fun c mem => ?_, ?_⟩
  · exact List.mem_takeWhile_imp (List.mem_reverse.1 mem)
  · rw [trimRight, ← List.reverse_append, List.takeWhile_append_dropWhile, List.reverse_reverse]

/-- What trimming takes away. -/
theorem exists_eq_append_trim (s : String) :
    ∃ lead trail, (∀ c ∈ lead, isBlank c) ∧ (∀ c ∈ trail, isBlank c) ∧
      s.toList = lead ++ ((trim s).toList ++ trail) := by
  obtain ⟨trail, blank, whole⟩ := trimRight_append (trimLeft s.toList)
  refine ⟨s.toList.takeWhile isBlank, trail, fun c mem => List.mem_takeWhile_imp mem, blank, ?_⟩
  rw [trim, String.toList_ofList, whole, trimLeft, List.takeWhile_append_dropWhile]

end Text

namespace Token

/-- **Trimming does not show in the sketches of tokens.** -/
theorem tokenize_trim (g : String → String) (source : String) :
    sketchScanned g (tokenize source) = sketchScanned g (tokenize (Text.trim source)) := by
  obtain ⟨lead, trail, leading, trailing, whole⟩ := Text.exists_eq_append_trim source
  rw [tokenize, tokenize, whole, scan_blank_append leading]
  exact sketchScanned_scan_append trailing none _ 0 _

end Token

/-- **Trimming does not show in the tree of a source,** and in an error only by where it stands. -/
theorem Expr.parse_trim (limits : Limits) (source : String) :
    (∀ e, parse limits source = .ok e ↔ parse limits (Text.trim source) = .ok e) ∧
      ∀ fault fault', parse limits source = .error fault →
        parse limits (Text.trim source) = .error fault' → fault.sketch id = fault'.sketch id := by
  have same := Expr.parse_congr (Token.tokenize_trim id source) limits
  cases given : parse limits source with
  | error fault =>
    rw [given] at same
    cases trimmed : parse limits (Text.trim source) with
    | error fault' =>
      rw [trimmed] at same
      refine ⟨fun e => ⟨nofun, nofun⟩, fun f f' hf hf' => ?_⟩
      rw [← Except.error.inj hf, ← Except.error.inj hf']
      exact Except.error.inj same
    | ok e' => rw [trimmed] at same; cases same
  | ok e =>
    rw [given] at same
    cases trimmed : parse limits (Text.trim source) with
    | error fault' => rw [trimmed] at same; cases same
    | ok e' =>
      rw [trimmed] at same
      have tree : e.sketch id = e'.sketch id := Except.ok.inj same
      rw [Expr.sketch_id, Expr.sketch_id] at tree
      rw [tree]
      exact ⟨fun _ => Iff.rfl, fun _ _ hf => nomatch hf⟩

namespace Engine

variable {σ : Type} {a b : Engine σ}

/-- **Running is evaluating with fallbacks.** The outcome of a run is the fallback, or `true`
without one, if the source is missing or nothing but blank. Otherwise it is the value that the
source as it is given evaluates to, or the fallback, or `false` without one, if evaluating it gives
an error, of whatever kind. Behind this stands that a source and its trimmed text have the same tree
under any limits, or errors that differ by positions only.

The run and the evaluation may take place on engines that differ in their caches, both sound: with
silent functions, also on one engine after the other (`Respects.steady`). -/
theorem run_eq_evaluate (agree : Agree a b) (source : Option String) (ctx : Context)
    (fallback : Option Value) :
    (run source ctx fallback a).1 =
        (match source with
          | none => fallback.getD (.bool true)
          | some s =>
            if Text.isBlankText s then fallback.getD (.bool true)
            else
              match (evaluate s ctx b).1 with
              | .ok v => v
              | .error _ => fallback.getD (.bool false)) ∧
      ∀ limits s,
        (∀ e, Expr.parse limits s = .ok e ↔ Expr.parse limits (Text.trim s) = .ok e) ∧
          ∀ fault fault', Expr.parse limits s = .error fault →
            Expr.parse limits (Text.trim s) = .error fault' →
              fault.sketch id = fault'.sketch id := by
  refine ⟨?_, Expr.parse_trim⟩
  rw [run_fst]
  cases source with
  | none => rfl
  | some s =>
    have empty : (Text.trim s).isEmpty = Text.isBlankText s := by
      rw [Bool.eq_iff_iff, String.isEmpty_iff, Text.trim_eq_empty_iff]
    dsimp only [Option.getD_some]
    rw [empty, evaluate_fst agree.left, evaluate_fst agree.right, agree.functions, agree.limits,
      agree.host]
    obtain ⟨trees, -⟩ := Expr.parse_trim b.limits s
    cases given : Expr.parse b.limits s with
    | ok e =>
      rewrite [(trees e).1 given]
      rfl
    | error fault =>
      cases trimmed : Expr.parse b.limits (Text.trim s) with
      | ok e =>
        rw [(trees e).2 trimmed] at given
        cases given
      | error fault' => rfl

/-- The hypothesis of `run_eq_evaluate` is satisfiable: a string is left open, and so are the blanks
behind it, of which a run knows nothing. -/
theorem run_eq_evaluate_open :
    let engine : Engine Int := start {} id 0
    let source := " {a} = 'open\t "
    Agree engine engine ∧ Text.isBlankText source = false ∧
      (evaluate source {} engine).1.isOk = false ∧
      (run (some source) {} (some .null) engine).1 = .null := by
  intro engine source
  have agree : Agree engine engine := Agree.refl (start_sound _ _ _)
  have full : Text.isBlankText source = false := by decide +kernel
  have failed : (evaluate source {} engine).1.isOk = false := by decide +kernel
  refine ⟨agree, full, failed, ?_⟩
  rw [(run_eq_evaluate agree (some source) {} (some .null)).1]
  dsimp only
  rw [full, if_neg Bool.false_ne_true]
  cases result : (evaluate source {} engine).1 with
  | ok v =>
    rw [result] at failed
    cases failed
  | error fault => rfl

end Engine
end SurveyLogic
