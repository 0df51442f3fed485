/-
# The complaints about one answer

If an answer is required and blank, that is the only complaint, and no validator is looked at.
Otherwise each validator that does not ask for an answer is checked in its turn, and what it finds
is put down in order.

| rule | on a blank answer |
| --- | --- |
| email, numeric, text, regex | finds nothing |
| expression | is evaluated as on any other |
| answer count | counts an empty list, and finds nothing in another blank |

The message of a validator goes into the complaints and nowhere else: reworded validators lead to
the same complaints in other words.
-/

import SurveyLogic.Proofs.Validation.Pages

namespace SurveyLogic
namespace Validation

variable {σ : Type}

/-- The complaint about a failure that a validator finds: with the name of the question, the kind of
the rule, and the message of the validator if it has one. -/
def complaint (q : Item) (validator : Validator) (f : Failure) : Complaint :=
  ⟨q.name, validator.rule.kind, validator.message.getD f.message⟩

/-- The complaints of one validator. -/
def findings (q : Item) (v : Value) (all : Bindings Value) (validator : Validator) :
    Running σ (List Complaint) := do
  return (← check v all validator.rule).map (complaint q validator)

section

variable {q : Item} {v : Value} {all : Bindings Value}

/-- A validator that asks for an answer is passed over, any other complains first. -/
theorem complaints_cons (validator : Validator) (rest : List Validator) :
    (complaints q v all (validator :: rest) : Running σ _) =
      if validator.rule.isRequired then complaints q v all rest
      else do
        let found ← findings q v all validator
        let others ← complaints q v all rest
        return found ++ others := by
  rw [complaints]
  split
  · rfl
  · simp only [messages, findings, bind_assoc, pure_bind, List.map_map]
    rfl

/-- The complaints are those of the validators that do not ask for an answer, in their order. -/
theorem complaints_eq (validators : List Validator) :
    (complaints q v all validators : Running σ _) =
      List.flatten <$> (validators.filter (!·.rule.isRequired)).mapM (findings q v all) := by
  induction validators with
  | nil => rfl
  | cons validator rest ih =>
    rw [complaints_cons]
    split
    · rename_i asks
      rw [List.filter_cons_of_neg (by simp [asks])]
      exact ih
    · rename_i looks
      rw [List.filter_cons_of_pos (by simp [looks]), List.mapM_cons, ih]
      simp only [map_eq_pure_bind, bind_assoc, pure_bind, List.flatten_cons]

/-- Without side effects each validator finds what it finds by itself. -/
theorem complaints_yields {engine : Engine σ} (silent : engine.Silent)
    (validators : List Validator) :
    Yields (Engine.Agree · engine) (complaints q v all validators)
      ((validators.filter (!·.rule.isRequired)).flatMap fun x =>
        (findings q v all x engine).1) := by
  have own (x : Validator) :
      Yields (Engine.Agree · engine) (findings q v all x) (findings q v all x engine).1 :=
    ((check_respects (Engine.near_simulation silent) v all x.rule).bind
      fun _ => Engine.Respects.pure _).yields
  rw [complaints_eq]
  exact Yields.flatMapM own _

/-- A complaint comes from a failure that one of the validators finds. -/
theorem mem_complaints {validators : List Validator} {engine : Engine σ} {c : Complaint}
    (mem : c ∈ (complaints q v all validators engine).1) :
    ∃ x ∈ validators, x.rule.isRequired = false ∧
      ∃ (before : Engine σ), ∃ f ∈ (check v all x.rule before).1, c = complaint q x f := by
  induction validators generalizing engine with
  | nil => exact absurd mem List.not_mem_nil
  | cons validator rest ih =>
    rw [complaints_cons] at mem
    split at mem
    · obtain ⟨x, there, found⟩ := ih mem
      exact ⟨x, List.mem_cons_of_mem _ there, found⟩
    · rename_i looks
      rcases List.mem_append.1 mem with mem | mem
      · obtain ⟨f, there, rfl⟩ := List.mem_map.1 mem
        exact ⟨validator, List.mem_cons_self, by simpa using looks, engine, f, there, rfl⟩
      · obtain ⟨x, there, found⟩ := ih mem
        exact ⟨x, List.mem_cons_of_mem _ there, found⟩

/-- The word of the caller goes before that of the question. -/
theorem question_eq (q : Item) (v : Value) (all : Bindings Value) (required : Option Bool) :
    (question q v all required : Running σ _) =
      if required.getD (q.isRequired.getD false) && v.isBlank then return [missingAnswer q]
      else complaints q v all q.validators := by
  cases required <;> rfl

/-- A complaint bears the name of its question. -/
theorem questionName_of_mem_question {required : Option Bool} {engine : Engine σ} {c : Complaint}
    (mem : c ∈ (question q v all required engine).1) : c.questionName = q.name := by
  rw [question_eq] at mem
  split at mem
  · rw [List.mem_singleton.1 mem]
    rfl
  · obtain ⟨-, -, -, -, -, -, rfl⟩ := mem_complaints mem
    rfl

/-! ### Blank answers -/

/-- On a blank answer only conditions and counts of options find something. -/
theorem failures_of_isBlank (blank : v.isBlank) {rule : Rule} (other : rule.kind ≠ "answercount") :
    failures v rule = [] ∨ rule = .required := by
  cases rule with
  | required => exact .inr rfl
  | answerCount least most => exact absurd rfl other
  | expression source => exact .inl rfl
  | email => exact .inl (if_pos (by rw [blank, Bool.true_or]))
  | _ => exact .inl (if_pos blank)

/-- What is found in a blank answer is of the kind of a condition or of a count of options. -/
theorem kind_of_found (blank : v.isBlank) {rule : Rule} (looks : rule.isRequired = false)
    {engine : Engine σ} {f : Failure} (found : f ∈ (check v all rule engine).1) :
    rule.kind = "expression" ∨ rule.kind = "answercount" := by
  by_contra neither
  rw [not_or] at neither
  have nothing : check v all rule engine = ([], engine) := by
    cases rule with
    | expression source => exact absurd rfl neither.1
    | required => exact absurd looks Bool.noConfusion
    | _ =>
      have none := (failures_of_isBlank blank neither.2).resolve_right Rule.noConfusion
      exact congrArg (·, engine) none
  rw [nothing] at found
  exact absurd found List.not_mem_nil

/-- A rule that does not ask for an answer is not of that kind. -/
theorem kind_ne_required {rule : Rule} (looks : rule.isRequired = false) :
    rule.kind ≠ "required" := by
  cases rule with
  | required => exact absurd looks Bool.noConfusion
  | _ => exact ne_of_beq_false rfl

/-! ### Other words -/

/-- A complaint without its words. -/
def Complaint.gist (c : Complaint) : String × String :=
  (c.questionName, c.validatorType)

/-- Without their words, complaints are names and kinds of the failures. -/
theorem gists_findings (validator : Validator) :
    (List.map Complaint.gist <$> findings q v all validator : Running σ _) =
      (List.map fun _ => (q.name, validator.rule.kind)) <$> check v all validator.rule := by
  simp only [findings, map_eq_pure_bind, bind_assoc, pure_bind, List.map_map]
  rfl

/-- Without their words, complaints come from one validator after the other. -/
theorem gists_cons (validator : Validator) (rest : List Validator) :
    (List.map Complaint.gist <$> complaints q v all (validator :: rest) : Running σ _) =
      if validator.rule.isRequired then List.map Complaint.gist <$> complaints q v all rest
      else do
        let found ← List.map Complaint.gist <$> findings q v all validator
        let others ← List.map Complaint.gist <$> complaints q v all rest
        return found ++ others := by
  rw [complaints_cons]
  split
  · rfl
  · simp only [map_eq_pure_bind, bind_assoc, pure_bind, List.map_append]

/-- Validators with the same rules lead to the same complaints in their own words. -/
theorem gists_congr {q' : Item} (name : q'.name = q.name) {reworded validators : List Validator}
    (rules : reworded.map (·.rule) = validators.map (·.rule)) :
    (List.map Complaint.gist <$> complaints q' v all reworded : Running σ _) =
      List.map Complaint.gist <$> complaints q v all validators := by
  induction validators generalizing reworded with
  | nil => rw [List.map_eq_nil_iff.1 rules]; rfl
  | cons validator rest ih =>
    obtain ⟨other, more, rfl, rule, rules⟩ := List.map_eq_cons_iff.1 rules
    rw [gists_cons, gists_cons, gists_findings, gists_findings, ih rules, name, rule]

end

/-- **One complaint about a missing answer, or all that the validators find.** Whether an answer is
required is told by the caller, or else by the question. If it is and there is none, that is the
only complaint, in the words of the first validator that asks for an answer if it has some, and
nothing is run.

Otherwise the complaints are what the validators find that do not ask for an answer, one after the
other, each complaint with the name of the question and the kind of its validator. None of them is
about a required answer, and if there is no answer only conditions and counts of options have any.

Validators with the same rules in other words lead to the same complaints in other words, and the
report of some complaints is valid if there are none. -/
theorem question_complaints (q : Item) (v : Value) (all : Bindings Value) (required : Option Bool)
    (engine : Engine σ) :
    let asked := required.getD (q.isRequired.getD false)
    let others := q.validators.filter (!·.rule.isRequired)
    let report := Report.of (question q v all required engine).1
    ((asked && v.isBlank) = true →
      let own := (q.validators.find? (·.rule.isRequired)).bind (·.message)
      question q v all required engine =
        ([⟨q.name, "required", own.getD "This field is required"⟩], engine)) ∧
    ((asked && v.isBlank) = false →
      (question q v all required : Running σ _) = List.flatten <$> others.mapM (findings q v all) ∧
      (engine.Silent → engine.Sound →
        report.complaints = others.flatMap fun x => (findings q v all x engine).1) ∧
      ∀ c ∈ report.complaints, c.questionName = q.name ∧ c.validatorType ≠ "required" ∧
        (v.isBlank → c.validatorType = "expression" ∨ c.validatorType = "answercount")) ∧
    (∀ reworded, reworded.map (·.rule) = q.validators.map (·.rule) →
      (List.map Complaint.gist <$> question { q with validators := reworded } v all required :
        Running σ _) = List.map Complaint.gist <$> question q v all required) ∧
    (report.isValid = true ↔ report.complaints = []) := by
  intro asked others report
  refine ⟨fun missing => ?_, fun judged => ?_, fun reworded rules => ?_, List.isEmpty_iff⟩
  · rw [question_eq, if_pos missing]
    rfl
  · have judged_all :
        (question q v all required : Running σ _) = complaints q v all q.validators := by
      rw [question_eq, if_neg (Bool.eq_false_iff.1 judged)]
    refine ⟨judged_all.trans (complaints_eq q.validators), fun silent sound => ?_, fun c mem => ?_⟩
    · show (question q v all required engine).1 = _
      rw [judged_all]
      exact (complaints_yields silent q.validators engine (Engine.Agree.refl sound)).1
    · have mem : c ∈ (question q v all required engine).1 := mem
      refine ⟨questionName_of_mem_question mem, ?_⟩
      rw [judged_all] at mem
      obtain ⟨x, -, looks, before, f, found, rfl⟩ := mem_complaints mem
      exact ⟨kind_ne_required looks, fun blank => kind_of_found blank looks found⟩
  · rw [question_eq, question_eq]
    split
    · rfl
    · have name : ({ q with validators := reworded } : Item).name = q.name := rfl
      exact gists_congr name rules

/-- A question that asks for an answer, and for ham and one more in it. -/
def toppings : Item where
  name := "toppings"
  kind := "checkbox"
  isRequired := some true
  validators := [
    { rule := .email },
    { rule := .expression "propertyvalue('value.0') = 'ham'", message := some "Take ham" },
    { rule := .required, message := some "Please choose" },
    { rule := .answerCount (some 2) none }]

/-- The hypotheses of `question_complaints` are satisfiable: a required answer is missing, the
caller asks for none, an answer is judged, and its complaints stay in other words. -/
theorem question_complaints_toppings :
    let engine : Engine Unit := Engine.start {} (fun _ => 0) ()
    let ask (q : Item) (v : Value) required := (question q v [] required engine).1
    let ham : Value := .array [.string "ham"]
    let plain := toppings.validators.map fun x => { rule := x.rule }
    ask toppings .null none = [⟨"toppings", "required", "Please choose"⟩] ∧
      ask toppings (.array []) (some false) = [⟨"toppings", "expression", "Take ham"⟩,
        ⟨"toppings", "answercount", "Please select at least 2 options"⟩] ∧
      (∀ c ∈ ask toppings (.array []) (some false),
        c.validatorType = "expression" ∨ c.validatorType = "answercount") ∧
      (Report.of (ask toppings ham none)).isValid = false ∧
      (ask { toppings with validators := plain } ham none).map (·.gist) =
        (ask toppings ham none).map (·.gist) := by
  intro engine ask ham plain
  have silent : engine.Silent := Engine.start_silent _ _ _
  have sound : engine.Sound := Engine.start_sound _ _ _
  obtain ⟨missing, -⟩ := question_complaints toppings .null [] none engine
  obtain ⟨-, waived, -⟩ := question_complaints toppings (.array []) [] (some false) engine
  obtain ⟨-, found, kinds⟩ := waived (by decide)
  obtain ⟨-, -, words, valid⟩ := question_complaints toppings ham [] none engine
  refine ⟨?_, ?_, fun c mem => ?_, ?_, ?_⟩
  · have blamed := missing (by decide)
    exact congrArg Prod.fst blamed
  · exact (found silent sound).trans (by decide +kernel)
  · exact (kinds c mem).2.2 (by decide)
  · rw [Bool.eq_false_iff, ne_eq, valid]
    decide +kernel
  · exact congrArg (fun m => (m engine).1) (words plain rfl)

end Validation
end SurveyLogic
