/-
# Validation

A question is validated by its rules in order, and each failure is reported. If an answer is
required and blank, that is the only complaint. Whether it is required is told by the caller, or
else by the question.

A page is validated question by question. A survey is validated without the pages, panels and
questions that the caller marks as hidden; a session validates the questions that it shows.
-/

import SurveyLogic.Session
import SurveyLogic.Validation.Rule

namespace SurveyLogic
namespace Validation

/-- A failure of a question. -/
structure Complaint where
  questionName : String
  validatorType : String
  message : String
  deriving DecidableEq, Repr

/-- What a validation comes to. -/
structure Report where
  isValid : Bool
  complaints : List Complaint
  deriving DecidableEq, Repr

/-- The report of some complaints: valid if there are none. -/
def Report.of (found : List Complaint) : Report where
  isValid := found.isEmpty
  complaints := found

/-- What the caller knows of questions by name. -/
structure Overrides where
  required : Bindings Bool := []
  visible : Bindings Bool := []

variable {σ : Type}

/-- The complaint about a required answer that is missing. -/
def missingAnswer (q : Item) : Complaint :=
  let own := (q.validators.find? (·.rule.isRequired)).bind (·.message)
  ⟨q.name, Rule.required.kind, own.getD Failure.missing.message⟩

/-- The complaints of the validators that do not ask for an answer. -/
def complaints (q : Item) (v : Value) (all : Bindings Value) :
    List Validator → Running σ (List Complaint)
  | [] => return []
  | validator :: rest => do
    if validator.rule.isRequired then complaints q v all rest
    else
      let found ← messages validator v all
      let others ← complaints q v all rest
      return found.map (⟨q.name, validator.rule.kind, ·⟩) ++ others

/-- The complaints about one answer. -/
def question (q : Item) (v : Value) (all : Bindings Value) (required : Option Bool) :
    Running σ (List Complaint) :=
  if ((required <|> q.isRequired).getD false) && v.isBlank then return [missingAnswer q]
  else complaints q v all q.validators

/-- The complaints about the answers to some questions. -/
def questions (values : Bindings Value) (required : Bindings Bool) :
    List Item → Running σ (List Complaint)
  | [] => return []
  | q :: qs => do
    let v := (Bindings.get? values q.name).getD .null
    let found ← question q v values (Bindings.get? required q.name)
    let others ← questions values required qs
    return found ++ others

/-- The complaints about a page. -/
def page (p : Page) (values : Bindings Value) (required : Bindings Bool) :
    Running σ (List Complaint) :=
  questions values required p.questions

/-- Whether a name is marked as hidden. -/
def Overrides.hides (o : Overrides) (name : String) : Bool :=
  Bindings.get? o.visible name == some false

mutual

/-- The questions of an element without what is marked as hidden. -/
def shownIn (o : Overrides) : Element → List Item
  | .mk item elements =>
    if o.hides item.name then []
    else if item.isPanel then shownAmong o elements
    else [item]

/-- The questions of some elements without what is marked as hidden. -/
def shownAmong (o : Overrides) : List Element → List Item
  | [] => []
  | e :: es => shownIn o e ++ shownAmong o es

end

/-- The questions of a survey without what is marked as hidden. -/
def shownQuestions (s : Survey) (o : Overrides) : List Item :=
  (s.pages.filter fun p => !o.hides p.name).flatMap fun p => shownAmong o p.elements

/-- The complaints about a survey. -/
def survey (s : Survey) (values : Bindings Value) (o : Overrides) : Running σ (List Complaint) :=
  questions values o.required (shownQuestions s o)

/-- Which questions a session requires an answer to, by name. -/
def requirements (s : Session) : List Item → Running σ (List (String × Bool))
  | [] => return []
  | q :: qs => do
    let required ← s.isRequired q
    return (q.name, required) :: (← requirements s qs)

/-- The complaints about what a session shows of a page. -/
def visiblePage (s : Session) (p : Page) : Running σ (List Complaint) := do
  let shown ← s.visibleQuestions p
  let required ← requirements s shown
  questions s.allValues (Bindings.ofList required) shown

end Validation
end SurveyLogic
