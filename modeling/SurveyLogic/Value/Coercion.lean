/-
# Coercions

How operators and functions read a value of any kind as a number or as a text.

| value | number | carried number | text |
| --- | --- | --- | --- |
| `null` | 0 | none | empty |
| truth value | 0 or 1 | 0 or 1 | `true`, `false` |
| number | itself, none for NaN | as number | its answer text |
| blank text | 0 | none | itself |
| other text | its number, if it writes one | as number | itself |
| list | 0 if empty, that of a single item | none | the items with commas between them |
| object | none | none | `[object Object]` |

A text writes a number if it does so without blanks at its ends and without any letter but the `e`
of an exponent.
-/

import SurveyLogic.Number.Format
import SurveyLogic.Number.Read
import SurveyLogic.Text.Letter
import SurveyLogic.Text.Search
import SurveyLogic.Value.Basic

namespace SurveyLogic
namespace Value

/-- The number that a text writes; zero for a blank text. -/
def textNumber? (s : String) : Option Float :=
  let cs := Text.trimRight (Text.trimLeft s.toList)
  if cs.isEmpty then some 0.0
  else if cs.any fun c => Text.isAlphabetic c && c ≠ 'e' && c ≠ 'E' then none
  else Number.read? cs

/-- The value as a number. -/
def toNumber? : Value → Option Float
  | null => some 0.0
  | bool b => some (if b then 1.0 else 0.0)
  | number x => if x.isNaN then none else some x
  | string s => textNumber? s
  | array [] => some 0.0
  | array [item] => item.toNumber?
  | array _ => none
  | object _ => none

/-- The value as an operand of arithmetic: zero if it is no number. -/
def toNumber (v : Value) : Float :=
  v.toNumber?.getD 0.0

/-- The number that a value carries of its own, not counting the zero of a missing answer. -/
def carriedNumber? : Value → Option Float
  | null => none
  | string s => if Text.isBlankText s then none else textNumber? s
  | array _ => none
  | object _ => none
  | v => v.toNumber?

mutual

/-- The value as a text. -/
def toText : Value → String
  | null => ""
  | bool b => if b then "true" else "false"
  | number x => Number.answerText x
  | string s => s
  | array items => Text.join "," (toTexts items)
  | object _ => "[object Object]"

/-- Each value of a list as a text. -/
def toTexts : List Value → List String
  | [] => []
  | v :: vs => toText v :: toTexts vs

end

end Value
end SurveyLogic
