/-
# Surveys

A survey has pages of elements, values calculated from the answers, and triggers. An element is a
question or, if its kind is `panel` in any case, a panel that groups further elements; what nests in
an element of another kind does not count. Conditions and calculations are kept as source texts.
-/

import SurveyLogic.Value.Basic

namespace SurveyLogic

/-- What the answer to a question has to satisfy. -/
inductive Rule where
  | required
  | email
  | numeric (least most : Option Float)
  | text (minLength maxLength : Option Nat) (allowDigits : Option Bool)
  | regex (pattern : String)
  | expression (source : String)
  | answerCount (minCount maxCount : Option Nat)

/-- A rule with the message that takes the place of its own ones. -/
structure Validator where
  message : Option String := none
  rule : Rule

/-- What an element is apart from the elements in it. -/
structure Item where
  name : String := ""
  kind : String := ""
  title : Option String := none
  visibleIf : Option String := none
  enableIf : Option String := none
  requiredIf : Option String := none
  isRequired : Option Bool := none
  visible : Option Bool := none
  readOnly : Option Bool := none
  expression : Option String := none
  inputType : Option String := none
  maxLength : Option Nat := none
  rateMin : Option Float := none
  rateMax : Option Float := none
  validators : List Validator := []

/-- A question or a panel. -/
inductive Element where
  | mk (item : Item) (elements : List Element)

/-- A page. -/
structure Page where
  name : String := ""
  title : Option String := none
  visibleIf : Option String := none
  visible : Option Bool := none
  elements : List Element := []

/-- A value that follows from the answers. -/
structure CalculatedValue where
  name : String := ""
  expression : String := ""
  /-- Whether the value is handed in with the answers. -/
  includeInResult : Bool := false

/-- What a trigger does. -/
inductive Effect where
  | complete
  | setValue (name : String) (value : Value)
  | copyValue (name source : String)
  | skip (target : String)
  | runExpression (source : String) (name : Option String)
  | visible (questions : List String)

/-- An effect that takes place when a condition holds. -/
structure Trigger where
  expression : String := ""
  effect : Effect

/-- A survey. -/
structure Survey where
  pages : List Page := []
  calculatedValues : List CalculatedValue := []
  triggers : List Trigger := []

/-- The name of a rule. -/
def Rule.kind : Rule → String
  | required => "required"
  | email => "email"
  | numeric _ _ => "numeric"
  | text _ _ _ => "text"
  | regex _ => "regex"
  | expression _ => "expression"
  | answerCount _ _ => "answercount"

/-- Whether a rule asks for an answer at all. -/
def Rule.isRequired : Rule → Bool
  | required => true
  | _ => false

/-- The name of an effect. -/
def Effect.kind : Effect → String
  | complete => "complete"
  | setValue _ _ => "setvalue"
  | copyValue _ _ => "copyvalue"
  | skip _ => "skip"
  | runExpression _ _ => "runexpression"
  | visible _ => "visible"

/-- Whether an element with this item is a panel. -/
def Item.isPanel (i : Item) : Bool :=
  i.kind.toList.map Char.toLower == "panel".toList

namespace Element

/-- The element without those in it. -/
def item : Element → Item
  | mk item _ => item

/-- The elements in an element. -/
def elements : Element → List Element
  | mk _ elements => elements

/-- The name of an element. -/
def name (e : Element) : String :=
  e.item.name

mutual

/-- The questions of an element from left to right: itself, or those in it if it is a panel. -/
def questions : Element → List Item
  | mk item elements => if item.isPanel then questionsAll elements else [item]

/-- The questions of some elements. -/
def questionsAll : List Element → List Item
  | [] => []
  | e :: es => questions e ++ questionsAll es

end

end Element

/-- The questions of a page. -/
def Page.questions (p : Page) : List Item :=
  Element.questionsAll p.elements

/-- The questions of all pages. -/
def Survey.questions (s : Survey) : List Item :=
  s.pages.flatMap Page.questions

/-- The first page with a name. -/
def Survey.page? (s : Survey) (name : String) : Option Page :=
  s.pages.find? (·.name == name)

end SurveyLogic
