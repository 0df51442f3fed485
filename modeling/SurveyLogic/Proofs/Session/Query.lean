/-
# What a session can be asked

A session runs nothing but source texts: those of its calculated values and triggers, the conditions
that stand in the items and pages it is asked about, and the expression it is asked for. So a
relation between engines that is kept whenever one of these texts is run is kept by the whole query,
and related engines answer it alike (`ask_respects`). This is where queries are taken apart into
runs, once for all relations.

| query | sources |
| --- | --- |
| visible, enabled, required | the condition, if there is one |
| questions of a page | the visibility conditions of all elements in it |
| actions | of each trigger the condition and what it runs |
| next step | those of the actions and the calculations |
| result | none |
-/

import SurveyLogic.Proofs.Engine.Transparency
import SurveyLogic.Session

namespace SurveyLogic

variable {σ α : Type}

/-- The source that an effect runs, if it does. -/
def Effect.sources : Effect → List String
  | runExpression source _ => [source]
  | _ => []

/-- The sources of a trigger. -/
def Trigger.sources (t : Trigger) : List String :=
  t.expression :: t.effect.sources

mutual

/-- The conditions that decide what of an element is shown. -/
def Element.conditions : Element → List String
  | mk item elements => item.visibleIf.toList ++ conditionsAll elements

/-- The conditions that decide what of some elements is shown. -/
def Element.conditionsAll : List Element → List String
  | [] => []
  | e :: es => conditions e ++ conditionsAll es

end

/-- The sources of the calculated values. -/
def Survey.calculations (s : Survey) : List String :=
  s.calculatedValues.map (·.expression)

/-- The sources of the triggers. -/
def Survey.triggerSources (s : Survey) : List String :=
  s.triggers.flatMap Trigger.sources

namespace Session

/-- A query, with the type of its answer. -/
inductive Query : Type → Type where
  | visible (i : Item) : Query Bool
  | pageVisible (p : Page) : Query Bool
  | enabled (i : Item) : Query Bool
  | required (i : Item) : Query Bool
  | questions (p : Page) : Query (List Item)
  | value (source : Option String) : Query Value
  | actions : Query (List Action)
  | step : Query (Step × Session)
  | result : Query (Bindings Value)

/-- The sources that the answer to a query depends on. -/
def Query.sources (survey : Survey) : Query α → List String
  | visible i => i.visibleIf.toList
  | pageVisible p => p.visibleIf.toList
  | enabled i => i.enableIf.toList
  | required i => i.requiredIf.toList
  | questions p => Element.conditionsAll p.elements
  | value source => source.toList
  | actions => survey.triggerSources
  | step => survey.triggerSources ++ survey.calculations
  | result => []

/-- The answer to a query. -/
def ask (s : Session) : Query α → Running σ α
  | .visible i => s.isVisible i
  | .pageVisible p => s.isPageVisible p
  | .enabled i => s.isEnabled i
  | .required i => s.isRequired i
  | .questions p => s.visibleQuestions p
  | .value source => s.run source
  | .actions => s.actions
  | .step => s.nextStep
  | .result => return s.result

section

open Engine (Respects RunRespects)

variable {R : Engine σ → Engine σ → Prop} {s : Session}

/-- To judge a condition keeps what running it keeps. -/
theorem holds_respects {source : String} (h : RunRespects R source) (fallback : Bool) :
    Respects R (s.holds source fallback) :=
  (h _ _).bind fun _ => Respects.pure _

/-- So does judging one that may be missing. -/
theorem holdsIf_respects {source : Option String} (h : ∀ text ∈ source.toList, RunRespects R text)
    (fallback : Bool) : Respects R (s.holdsIf source fallback) := by
  cases source with
  | none => exact Respects.pure _
  | some source => exact holds_respects (h source (by simp)) fallback

/-- To run an expression keeps what running its source keeps. -/
theorem run_respects {source : Option String} (h : ∀ text ∈ source.toList, RunRespects R text) :
    Respects R (s.run source) := by
  cases source with
  | none => exact Respects.pure _
  | some source => exact h source (by simp) _ _

/-- To calculate values keeps what running each of them keeps. -/
theorem calculate_respects {cs : List CalculatedValue}
    (h : ∀ c ∈ cs, RunRespects R c.expression) (calculated all : Bindings Value) :
    Respects R (s.calculate cs calculated all) := by
  induction cs generalizing calculated all with
  | nil => exact Respects.pure _
  | cons c cs ih =>
    rw [List.forall_mem_cons] at h
    exact (h.1 _ _).bind fun v => ih h.2 _ _

/-- To derive a session keeps what running its calculations keeps. -/
theorem refresh_respects (h : ∀ source ∈ s.survey.calculations, RunRespects R source) :
    Respects R s.refresh := by
  have each := calculate_respects (s := s) (List.forall_mem_map.1 h) [] s.values
  exact each.bind fun _ => Respects.pure _

/-- To carry out an effect keeps what running its source keeps. -/
theorem act_respects {effect : Effect} (h : ∀ source ∈ effect.sources, RunRespects R source) :
    Respects R (s.act effect) := by
  cases effect with
  | runExpression source name =>
    have ran : Respects R (s.run (some source)) := run_respects h
    exact ran.bind fun _ => Respects.pure _
  | complete => exact Respects.pure _
  | setValue name value => exact Respects.pure _
  | copyValue name source => exact Respects.pure _
  | skip target => exact Respects.pure _
  | visible questions => exact Respects.pure _

/-- To judge triggers and carry them out keeps what running their sources keeps. -/
theorem fired_respects {ts : List Trigger}
    (h : ∀ source ∈ ts.flatMap Trigger.sources, RunRespects R source) :
    Respects R (s.fired ts) := by
  induction ts with
  | nil => exact Respects.pure _
  | cons t ts ih =>
    rw [List.flatMap_cons, List.forall_mem_append, Trigger.sources, List.forall_mem_cons] at h
    obtain ⟨⟨condition, effect⟩, rest⟩ := h
    refine (holds_respects condition false).bind fun holds => ?_
    cases holds with
    | true => exact (act_respects effect).bind fun _ => (ih rest).bind fun _ => Respects.pure _
    | false => exact ih rest

/-- A step keeps what running triggers and calculations keeps. -/
theorem nextStep_respects
    (h : ∀ source ∈ s.survey.triggerSources ++ s.survey.calculations, RunRespects R source) :
    Respects R s.nextStep := by
  rw [List.forall_mem_append] at h
  refine (fired_respects h.1).bind fun actions => ?_
  dsimp only
  split
  · exact Respects.pure _
  · refine (refresh_respects ?_).bind fun _ => Respects.pure _
    exact h.2

/-- A condition that counts unless a flag decides. -/
theorem unless_respects {flag : Prop} [Decidable flag] {source : Option String}
    (h : ∀ text ∈ source.toList, RunRespects R text) (decided fallback : Bool) :
    Respects R (if flag then pure decided else s.holdsIf source fallback) := by
  split
  · exact Respects.pure _
  · exact holdsIf_respects h fallback

/-- To judge what is visible keeps what running its condition keeps. -/
theorem isVisible_respects {i : Item} (h : ∀ source ∈ i.visibleIf.toList, RunRespects R source) :
    Respects R (s.isVisible i) :=
  unless_respects h false true

mutual

/-- To list the visible questions of an element keeps what running its conditions keeps. -/
theorem visibleIn_respects :
    ∀ e : Element, (∀ source ∈ e.conditions, RunRespects R source) → Respects R (s.visibleIn e)
  | .mk item elements, h => by
    rw [Element.conditions, List.forall_mem_append] at h
    rw [visibleIn]
    refine (isVisible_respects h.1).bind fun shown => ?_
    split
    · exact Respects.pure _
    · split
      · exact visibleAmong_respects elements h.2
      · exact Respects.pure _

/-- To list those of some elements keeps it as well. -/
theorem visibleAmong_respects :
    ∀ es : List Element, (∀ source ∈ Element.conditionsAll es, RunRespects R source) →
      Respects R (s.visibleAmong es)
  | [], _ => by
    rw [visibleAmong]
    exact Respects.pure _
  | e :: es, h => by
    rw [Element.conditionsAll, List.forall_mem_append] at h
    rw [visibleAmong]
    exact (visibleIn_respects e h.1).bind fun shown =>
      (visibleAmong_respects es h.2).bind fun _ => Respects.pure _

end

/-- **A relation that the sources of a query keep is kept by the query.** -/
theorem ask_respects {q : Query α} (h : ∀ source ∈ q.sources s.survey, RunRespects R source) :
    Respects R (s.ask q) := by
  cases q with
  | visible i => exact isVisible_respects h
  | pageVisible p => exact unless_respects h false true
  | enabled i => exact unless_respects h false true
  | required i => exact unless_respects h true false
  | questions p => exact visibleAmong_respects p.elements h
  | value source => exact run_respects h
  | actions => exact fired_respects h
  | step => exact nextStep_respects h
  | result => exact Respects.pure _

end

end Session
end SurveyLogic
