/-
# Paths

A path is a head and further segments with dots between them, such as `matrix.0.col`. A segment
leads from an object to the field of that name and from a list to the item at that position, and
from anything else nowhere.
-/

import SurveyLogic.Number.Read
import SurveyLogic.Value.Basic

namespace SurveyLogic

/-- The pieces between the dots of a path; one more than there are dots. -/
def pathSegments : List Char → List (List Char)
  | [] => [[]]
  | c :: cs =>
    match pathSegments cs with
    | [] => [[c]]
    | first :: rest => if c = '.' then [] :: first :: rest else (c :: first) :: rest

namespace Value

/-- Where a segment leads from a value. -/
def navigate? (v : Value) (segment : String) : Option Value :=
  match v with
  | array items => (Number.index? segment.toList).bind (items[·]?)
  | object fields => Bindings.get? fields segment
  | _ => none

/-- Where the segments lead from a value one after the other; `null` leads nowhere. -/
def follow? : Option Value → List String → Option Value
  | v, [] => v
  | none, _ :: _ => none
  | some null, _ :: _ => none
  | some v, segment :: segments => follow? (v.navigate? segment) segments

end Value
end SurveyLogic
