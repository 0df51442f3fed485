/-
# Surveys as documents

Every field has a member of its own, `null` where nothing is given; only the message of a validator
is left out then. A trigger and a validator name their kind under `type` and have the fields of that
kind beside it.

A reader takes missing fields of surveys, pages, elements and calculated values as empty, and also
accepts these records as lists. A kind may be written as its position among the kinds, and the
message of a validator may be called `text`. Nothing else than what is described may be `null`.
-/

import SurveyLogic.Json.Record
import SurveyLogic.Survey.Basic

namespace SurveyLogic

namespace Json

/-- A kind, written by its name or by its position. -/
def kind? (kinds : List String) : Json → Option String
  | string s => if kinds.contains s then some s else none
  | int n => n.toNat?.bind (kinds[·]?)
  | _ => none

/-- Texts as a list. -/
def ofTexts (texts : List String) : Json :=
  array (texts.map string)

/-- A count. -/
def ofNat (n : Nat) : Json :=
  int n

end Json

/-- The names of rules. -/
def Rule.kinds : List String :=
  ["required", "email", "numeric", "text", "regex", "expression", "answercount"]

/-- The fields of a rule. -/
def Rule.fields : Rule → Record
  | required => []
  | email => []
  | numeric least most =>
    [("minValue", .ofOption .ofFloat least), ("maxValue", .ofOption .ofFloat most)]
  | text minLength maxLength allowDigits =>
    [("minLength", .ofOption .ofNat minLength), ("maxLength", .ofOption .ofNat maxLength),
      ("allowDigits", .ofOption .bool allowDigits)]
  | regex pattern => [("pattern", .string pattern)]
  | expression source => [("expression", .string source)]
  | answerCount minCount maxCount =>
    [("minCount", .ofOption .ofNat minCount), ("maxCount", .ofOption .ofNat maxCount)]

/-- The rule of a kind with some fields. -/
def Rule.ofRecord? (r : Record) (kind : String) : Option Rule :=
  match kind with
  | "required" => some required
  | "email" => some email
  | "numeric" => do
    return numeric (← r.optional? "minValue" Json.toFloat?) (← r.optional? "maxValue" Json.toFloat?)
  | "text" => do
    return text (← r.optional? "minLength" Json.toNat?) (← r.optional? "maxLength" Json.toNat?)
      (← r.optional? "allowDigits" Json.toBool?)
  | "regex" => do return regex (← r.needed? "pattern" Json.toText?)
  | "expression" => do return expression (← r.needed? "expression" Json.toText?)
  | "answercount" => do
    return answerCount (← r.optional? "minCount" Json.toNat?) (← r.optional? "maxCount" Json.toNat?)
  | _ => none

namespace Validator

/-- The document of a validator. -/
def toJson (v : Validator) : Json :=
  let message :=
    match v.message with
    | some text => [("message", Json.string text)]
    | none => []
  .object (message ++ ("type", .string v.rule.kind) :: v.rule.fields)

/-- The message of a validator, under one of its two names but not under both. -/
def message? (r : Record) : Option (Option String) :=
  match r.lookup "message", r.lookup "text" with
  | some _, some _ => none
  | some _, none => r.optional? "message" Json.toText?
  | none, _ => r.optional? "text" Json.toText?

/-- The validator that a document describes. -/
def ofJson? : Json → Option Validator
  | .object r => do
    let kind ← r.lookup "type" >>= Json.kind? Rule.kinds
    return { message := ← message? r, rule := ← Rule.ofRecord? r kind }
  | _ => none

end Validator

namespace Item

/-- The names of the fields of an element, that of the elements in it last. -/
def fieldNames : List String :=
  ["name", "type", "title", "visibleIf", "enableIf", "requiredIf", "isRequired", "visible",
    "readOnly", "expression", "inputType", "maxLength", "rateMin", "rateMax", "validators",
    "elements"]

/-- The fields of an element without the elements in it. -/
def fields (i : Item) : Record :=
  [("name", .string i.name), ("type", .string i.kind), ("title", .ofOption .string i.title),
    ("visibleIf", .ofOption .string i.visibleIf), ("enableIf", .ofOption .string i.enableIf),
    ("requiredIf", .ofOption .string i.requiredIf), ("isRequired", .ofOption .bool i.isRequired),
    ("visible", .ofOption .bool i.visible), ("readOnly", .ofOption .bool i.readOnly),
    ("expression", .ofOption .string i.expression), ("inputType", .ofOption .string i.inputType),
    ("maxLength", .ofOption .ofNat i.maxLength), ("rateMin", .ofOption .ofFloat i.rateMin),
    ("rateMax", .ofOption .ofFloat i.rateMax), ("validators", .array (i.validators.map (·.toJson)))]

/-- The element of some fields, without the elements in it. -/
def ofRecord? (r : Record) : Option Item := do
  return {
    name := ← r.field? "name" Json.toText? ""
    kind := ← r.field? "type" Json.toText? ""
    title := ← r.optional? "title" Json.toText?
    visibleIf := ← r.optional? "visibleIf" Json.toText?
    enableIf := ← r.optional? "enableIf" Json.toText?
    requiredIf := ← r.optional? "requiredIf" Json.toText?
    isRequired := ← r.optional? "isRequired" Json.toBool?
    visible := ← r.optional? "visible" Json.toBool?
    readOnly := ← r.optional? "readOnly" Json.toBool?
    expression := ← r.optional? "expression" Json.toText?
    inputType := ← r.optional? "inputType" Json.toText?
    maxLength := ← r.optional? "maxLength" Json.toNat?
    rateMin := ← r.optional? "rateMin" Json.toFloat?
    rateMax := ← r.optional? "rateMax" Json.toFloat?
    validators := ← r.field? "validators" (Json.toList? Validator.ofJson?) []
  }

end Item

namespace Element

mutual

/-- The document of an element. -/
def toJson : Element → Json
  | mk item elements => .object (item.fields ++ [("elements", .array (toJsonAll elements))])

/-- The documents of some elements. -/
def toJsonAll : List Element → List Json
  | [] => []
  | e :: es => toJson e :: toJsonAll es

end

mutual

/-- The element that a document describes. -/
def ofJson? : Json → Option Element
  | .object members => do return mk (← Item.ofRecord? members) (← amongMembers? members)
  | .array items =>
    if items.length ≤ Item.fieldNames.length then do
      return mk (← Item.ofRecord? (Item.fieldNames.zip items))
        (← atPosition? (Item.fieldNames.length - 1) items)
    else none
  | _ => none

/-- The elements that a list of documents describes. -/
def ofJsonAll? : List Json → Option (List Element)
  | [] => some []
  | j :: js => do return (← ofJson? j) :: (← ofJsonAll? js)

/-- The elements that a document describes. -/
def listOfJson? : Json → Option (List Element)
  | .array items => ofJsonAll? items
  | _ => none

/-- The elements under that name among the members of an object. -/
def amongMembers? : List (String × Json) → Option (List Element)
  | [] => some []
  | (name, j) :: rest => if name = "elements" then listOfJson? j else amongMembers? rest

/-- The elements at a position of a list. -/
def atPosition? : Nat → List Json → Option (List Element)
  | _, [] => some []
  | 0, j :: _ => listOfJson? j
  | n + 1, _ :: js => atPosition? n js

end

end Element

namespace Page

/-- The document of a page. -/
def toJson (p : Page) : Json :=
  .object [("name", .string p.name), ("title", .ofOption .string p.title),
    ("visibleIf", .ofOption .string p.visibleIf), ("visible", .ofOption .bool p.visible),
    ("elements", .array (Element.toJsonAll p.elements))]

/-- The page that a document describes. -/
def ofJson? (j : Json) : Option Page := do
  let r ← j.record? ["name", "title", "visibleIf", "visible", "elements"]
  return {
    name := ← r.field? "name" Json.toText? ""
    title := ← r.optional? "title" Json.toText?
    visibleIf := ← r.optional? "visibleIf" Json.toText?
    visible := ← r.optional? "visible" Json.toBool?
    elements := ← r.field? "elements" Element.listOfJson? []
  }

end Page

namespace CalculatedValue

/-- The document of a calculated value. -/
def toJson (c : CalculatedValue) : Json :=
  .object [("name", .string c.name), ("expression", .string c.expression),
    ("includeInResult", .bool c.includeInResult)]

/-- The calculated value that a document describes. -/
def ofJson? (j : Json) : Option CalculatedValue := do
  let r ← j.record? ["name", "expression", "includeInResult"]
  return {
    name := ← r.field? "name" Json.toText? ""
    expression := ← r.field? "expression" Json.toText? ""
    includeInResult := ← r.field? "includeInResult" Json.toBool? false
  }

end CalculatedValue

/-- The names of effects. -/
def Effect.kinds : List String :=
  ["complete", "setvalue", "copyvalue", "skip", "runexpression", "visible"]

/-- The fields of an effect. -/
def Effect.fields : Effect → Record
  | complete => []
  | setValue name value => [("setToName", .string name), ("setValue", value.toJson .ofFloat)]
  | copyValue name source => [("setToName", .string name), ("fromName", .string source)]
  | skip target => [("gotoName", .string target)]
  | runExpression source name =>
    [("runExpression", .string source), ("setToName", .ofOption .string name)]
  | visible questions => [("questions", .ofTexts questions)]

/-- The effect of a kind with some fields. -/
def Effect.ofRecord? (r : Record) (kind : String) : Option Effect :=
  match kind with
  | "complete" => some complete
  | "setvalue" => do
    return setValue (← r.needed? "setToName" Json.toText?)
      (← r.field? "setValue" (fun j => some (Value.ofJson j)) .null)
  | "copyvalue" => do
    return copyValue (← r.needed? "setToName" Json.toText?) (← r.needed? "fromName" Json.toText?)
  | "skip" => do return skip (← r.needed? "gotoName" Json.toText?)
  | "runexpression" => do
    return runExpression (← r.needed? "runExpression" Json.toText?)
      (← r.optional? "setToName" Json.toText?)
  | "visible" => do return visible (← r.field? "questions" (Json.toList? Json.toText?) [])
  | _ => none

namespace Trigger

/-- The document of a trigger. -/
def toJson (t : Trigger) : Json :=
  .object (("expression", .string t.expression) :: ("type", .string t.effect.kind) ::
    t.effect.fields)

/-- The trigger that a document describes. -/
def ofJson? : Json → Option Trigger
  | .object members => do
    let r : Record := members
    let kind ← r.lookup "type" >>= Json.kind? Effect.kinds
    return {
      expression := ← r.field? "expression" Json.toText? ""
      effect := ← Effect.ofRecord? r kind
    }
  | _ => none

end Trigger

namespace Survey

/-- The document of a survey. -/
def toJson (s : Survey) : Json :=
  .object [("pages", .array (s.pages.map Page.toJson)),
    ("calculatedValues", .array (s.calculatedValues.map CalculatedValue.toJson)),
    ("triggers", .array (s.triggers.map Trigger.toJson))]

/-- The survey that a document describes. -/
def ofJson? (j : Json) : Option Survey := do
  let r ← j.record? ["pages", "calculatedValues", "triggers"]
  return {
    pages := ← r.field? "pages" (Json.toList? Page.ofJson?) []
    calculatedValues := ← r.field? "calculatedValues" (Json.toList? CalculatedValue.ofJson?) []
    triggers := ← r.field? "triggers" (Json.toList? Trigger.ofJson?) []
  }

end Survey
end SurveyLogic
