/-
# Sessions

The state of one respondent in a survey: answers, variables and properties, and what follows from
them. Calculated values are derived in the order of declaration, each seeing the answers and the
ones before it, and lie over the answers wherever conditions look. They are derived anew after every
change.

| condition | missing or blank | failing |
| --- | --- | --- |
| visible, enabled | holds | holds |
| required, trigger | does not hold | does not hold |

Triggers are all judged against the same state. Those that set values take effect wherever they
stand; the first of those that complete the survey or skip decides the next step.
-/

import SurveyLogic.Engine
import SurveyLogic.Survey.Basic

namespace SurveyLogic

/-- The state of a session. -/
structure Session where
  survey : Survey
  values : Bindings Value := []
  vars : Bindings Value := []
  properties : Bindings Value := []
  /-- The calculated values. -/
  calculated : Bindings Value := []
  /-- The answers with the calculated values over them. -/
  allValues : Bindings Value := []

/-- What a trigger asks for, with the values it carries. -/
inductive Action where
  | complete
  | setValue (name : String) (value : Value)
  | copyValue (name : String) (value : Value)
  | skip (target : String)
  | runExpression (name : Option String) (value : Value)
  | visible (questions : List String)

/-- Where a survey goes on. -/
inductive Step where
  | complete
  | skipTo (target : String)
  | continue
  deriving DecidableEq, Repr

/-- The step that an action decides, if it does. -/
def Action.step? : Action → Option Step
  | complete => some .complete
  | skip target => some (.skipTo target)
  | _ => none

/-- The answer that an action sets, if it does. -/
def Action.assignment? : Action → Option (String × Value)
  | setValue name value => some (name, value)
  | copyValue name value => some (name, value)
  | runExpression (some name) value => some (name, value)
  | _ => none

namespace Session

variable {σ : Type}

/-- What expressions see: some answers, and the variables and properties of the session. -/
def context (s : Session) (values : Bindings Value) : Context :=
  { values := some values, vars := some s.vars, properties := some s.properties }

/-- The value of an expression against the current state; `null` if it is missing or fails. -/
def run (s : Session) (source : Option String) : Running σ Value :=
  Engine.run source (s.context s.allValues) (some .null)

/-- Whether a condition holds; `fallback` if it is blank or fails. -/
def holds (s : Session) (source : String) (fallback : Bool) : Running σ Bool := do
  let v ← Engine.run (some source) (s.context s.allValues) (some (.bool fallback))
  return v.truthy

/-- Whether an optional condition holds; `fallback` if there is none. -/
def holdsIf (s : Session) (source : Option String) (fallback : Bool) : Running σ Bool :=
  match source with
  | some source => s.holds source fallback
  | none => return fallback

/-- The calculated values, and all values with them, from some calculations on. -/
def calculate (s : Session) : List CalculatedValue → (calculated all : Bindings Value) →
    Running σ (Bindings Value × Bindings Value)
  | [], calculated, all => return (calculated, all)
  | c :: cs, calculated, all => do
    let v ← Engine.run (some c.expression) (s.context all) (some .null)
    calculate s cs (Bindings.put calculated c.name v) (Bindings.put all c.name v)

/-- With the calculated values derived anew. -/
def refresh (s : Session) : Running σ Session := do
  let (calculated, allValues) ← s.calculate s.survey.calculatedValues [] s.values
  return { s with calculated, allValues }

/-- A session at its beginning. -/
def start (survey : Survey) : Running σ Session :=
  refresh { survey }

/-- With other answers. -/
def setValues (s : Session) (values : Bindings Value) : Running σ Session :=
  refresh { s with values }

/-- With one answer. -/
def setValue (s : Session) (name : String) (value : Value) : Running σ Session :=
  refresh { s with values := Bindings.put s.values name value }

/-- With one variable. -/
def setVariable (s : Session) (name : String) (value : Value) : Running σ Session :=
  refresh { s with vars := Bindings.put s.vars name value }

/-- With other properties. -/
def setProperties (s : Session) (properties : Bindings Value) : Running σ Session :=
  refresh { s with properties }

/-- Whether an element is shown, its panels not considered. -/
def isVisible (s : Session) (i : Item) : Running σ Bool :=
  if i.visible = some false then return false else s.holdsIf i.visibleIf true

/-- Whether a page is shown. -/
def isPageVisible (s : Session) (p : Page) : Running σ Bool :=
  if p.visible = some false then return false else s.holdsIf p.visibleIf true

/-- Whether a question can be answered. -/
def isEnabled (s : Session) (i : Item) : Running σ Bool :=
  if i.readOnly = some true then return false else s.holdsIf i.enableIf true

/-- Whether a question must be answered. -/
def isRequired (s : Session) (i : Item) : Running σ Bool :=
  if i.isRequired = some true then return true else s.holdsIf i.requiredIf false

mutual

/-- The questions of an element that are shown. A hidden panel hides all in it. -/
def visibleIn (s : Session) : Element → Running σ (List Item)
  | .mk item elements => do
    if !(← s.isVisible item) then return []
    if item.isPanel then visibleAmong s elements else return [item]

/-- The questions of some elements that are shown. -/
def visibleAmong (s : Session) : List Element → Running σ (List Item)
  | [] => return []
  | e :: es => do
    let shown ← visibleIn s e
    return shown ++ (← visibleAmong s es)

end

/-- The questions of a page that are shown. -/
def visibleQuestions (s : Session) (p : Page) : Running σ (List Item) :=
  s.visibleAmong p.elements

/-- What an effect asks for in the current state. -/
def act (s : Session) : Effect → Running σ Action
  | .complete => return .complete
  | .setValue name value => return .setValue name value
  | .copyValue name source => return .copyValue name ((Bindings.get? s.allValues source).getD .null)
  | .skip target => return .skip target
  | .runExpression source name => return .runExpression name (← s.run (some source))
  | .visible questions => return .visible questions

/-- What the triggers whose conditions hold ask for, in order. -/
def fired (s : Session) : List Trigger → Running σ (List Action)
  | [] => return []
  | t :: ts => do
    if ← s.holds t.expression false then
      let action ← s.act t.effect
      return action :: (← fired s ts)
    else fired s ts

/-- What the triggers of the survey ask for. -/
def actions (s : Session) : Running σ (List Action) :=
  s.fired s.survey.triggers

/-- The next step, and the session with the values that triggers set. -/
def nextStep (s : Session) : Running σ (Step × Session) := do
  let actions ← s.actions
  let step := (actions.findSome? Action.step?).getD .continue
  let assignments := actions.filterMap Action.assignment?
  if assignments.isEmpty then return (step, s)
  else return (step, ← refresh { s with values := Bindings.putAll s.values assignments })

/-- The answers to hand in: with the calculated values that belong to them. -/
def result (s : Session) : Bindings Value :=
  let included := s.survey.calculatedValues.filter (·.includeInResult)
  Bindings.putAll s.values <| included.filterMap fun c =>
    (Bindings.get? s.calculated c.name).map fun v => (c.name, v)

end Session
end SurveyLogic
