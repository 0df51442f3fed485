/-
# Lists

| function | value |
| --- | --- |
| `join(v, sep)` | the items as texts with a separator between them |
| `split(s, sep)` | the pieces between separators; none of an empty text |
| `first(v)`, `last(v)` | an item of a list |
| `contains(v, w)` | the operator of that name |

A missing separator is a comma; an empty one splits a text into its characters.
-/

import SurveyLogic.Library.Arguments
import SurveyLogic.Operation

namespace SurveyLogic
namespace Library

/-- A separator. -/
def separator : Value → String
  | .null => ","
  | v => v.toText

/-- The items of a list with a separator between them; any other value as a text. -/
def join (v : Value) (sep : String) : String :=
  match v with
  | .array items => Text.join sep (items.map Value.toText)
  | v => v.toText

/-- The pieces of a text between separators. -/
def split (s sep : String) : List String :=
  if s.isEmpty then []
  else
    match sep.toList with
    | [] => s.toList.map Char.toString
    | c :: cs => (Text.splitOn c cs s.toList).map String.ofList

/-- The functions of this family. -/
def lists : List (String × Function) := [
  ("join", plain fun args => .string (join (arg args 0) (separator (arg args 1)))),
  ("split", plain fun args =>
    .array ((split (text args 0) (separator (arg args 1))).map .string)),
  ("first", plain fun args => orNull ((arg args 0).toList?.bind (·.head?))),
  ("last", plain fun args => orNull ((arg args 0).toList?.bind (·.getLast?))),
  ("contains", plain fun args => .bool ((arg args 0).contains (arg args 1)))]

end Library
end SurveyLogic
