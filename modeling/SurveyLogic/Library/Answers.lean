/-
# Answers

| function | value |
| --- | --- |
| `nps(…)` | the net promoter score of ratings from 0 to 10 |
| `getvalue(path, name)` | where a path leads among the answers, and from there a field |
| `rowvalue(name)`, `panelvalue(name)` | from the current row, the current panel |
| `propertyvalue(name)`, `getvar(name)` | from the properties, the variables |

The score is the percentage of ratings from 9 on less that of ratings up to 6, rounded with a half
going up; `null` without any rating.
-/

import SurveyLogic.Library.Arguments

namespace SurveyLogic
namespace Library

/-- The ratings among some numbers. -/
def ratings (xs : List Float) : List Float :=
  xs.filter fun x => 0.0 ≤ x && x ≤ 10.0

/-- The net promoter score of some numbers. -/
def promoterScore? (xs : List Float) : Option Float :=
  let scores := ratings xs
  if scores.isEmpty then none
  else
    let promoters := Float.ofNat (scores.countP fun x => 9.0 ≤ x)
    let detractors := Float.ofNat (scores.countP fun x => x ≤ 6.0)
    some (roundHalfUp ((promoters - detractors) / Float.ofNat scores.length * 100.0) 0)

/-- Where a path leads among the answers, and from there a segment unless it is `null`. -/
def answerAt (ctx : Context) (path : String) (segment : Value) : Value :=
  let v := ctx.answer path
  match segment with
  | .null => v
  | segment => orNull (v.navigate? segment.toText)

/-- The functions of this family. -/
def answers : List (String × Function) := [
  ("nps", plain fun args => orNull ((promoterScore? (numbers args)).map .number)),
  ("getvalue", fun args ctx => .ok (answerAt ctx (text args 0) (arg args 1))),
  ("rowvalue", fun args ctx => .ok (Context.read ctx.row (text args 0))),
  ("panelvalue", fun args ctx => .ok (Context.read ctx.panel (text args 0))),
  ("propertyvalue", fun args ctx => .ok (Context.read ctx.properties (text args 0))),
  ("getvar", fun args ctx => .ok (Context.read ctx.vars (text args 0)))]

end Library
end SurveyLogic
