/-
# Choices, checks and conversions

| function | value |
| --- | --- |
| `iif(c, a, b)` | `a` if `c` counts as true, else `b` |
| `isempty(v)`, `isnotempty(v)` | whether `v` is empty, or not |
| `isnumber(v)` | whether `v` is a number or a text that carries one |
| `isstring(v)`, `isarray(v)` | whether `v` is a text, a list |
| `int(v)`, `float(v)` | `v` as a number, without its fraction or with it |
| `str(v)`, `bool(v)` | `v` as a text, as a truth value |
-/

import SurveyLogic.Library.Arguments

namespace SurveyLogic
namespace Library

/-- Whether a value is a number or a text that carries one. -/
def isNumber (v : Value) : Bool :=
  match v with
  | .number _ => v.carriedNumber?.isSome
  | .string _ => v.carriedNumber?.isSome
  | _ => false

/-- The functions of this family. -/
def logic : List (String × Function) := [
  ("iif", plain fun args => if (arg args 0).truthy then arg args 1 else arg args 2),
  ("isempty", plain fun args => .bool (arg args 0).isEmpty),
  ("isnotempty", plain fun args => .bool !(arg args 0).isEmpty),
  ("isnumber", plain fun args => .bool (isNumber (arg args 0))),
  ("isstring", plain fun args => .bool (arg args 0).toText?.isSome),
  ("isarray", plain fun args => .bool (arg args 0).toList?.isSome),
  ("int", plain fun args => .number (Number.trunc (number args 0))),
  ("float", plain fun args => .number (number args 0)),
  ("str", plain fun args => .string (text args 0)),
  ("bool", plain fun args => .bool (arg args 0).truthy)]

end Library
end SurveyLogic
