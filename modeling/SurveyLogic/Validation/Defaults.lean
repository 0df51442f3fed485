/-
# Validators of new questions

| kind of question | validators |
| --- | --- |
| `nps` | a number from 0 to 10 |
| `rating`, `rating_scale` | a number in the range of the question, from 1 to 5 if it has none |
| `text`, `short_text` | by input type an address or a number; the greatest length if there is one |
-/

import SurveyLogic.Survey.Basic

namespace SurveyLogic

/-- A number within bounds. -/
def Rule.within (least most : Float) : Rule :=
  .numeric (some least) (some most)

/-- The rules that follow from the kind of a question. -/
def Item.defaultRules (q : Item) : List Rule :=
  match q.kind with
  | "nps" => [.within 0.0 10.0]
  | "rating_scale" | "rating" => [.within (q.rateMin.getD 1.0) (q.rateMax.getD 5.0)]
  | "text" | "short_text" =>
    let byInput :=
      match q.inputType with
      | some "email" => [Rule.email]
      | some "number" => [Rule.numeric none none]
      | _ => []
    byInput ++ (q.maxLength.map fun n => Rule.text none (some n) none).toList
  | _ => []

/-- The validators that follow from the kind of a question. -/
def Item.defaultValidators (q : Item) : List Validator :=
  q.defaultRules.map fun rule => { rule }

end SurveyLogic
