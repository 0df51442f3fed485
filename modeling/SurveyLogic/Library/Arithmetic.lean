/-
# Arithmetic and aggregates

| function | value |
| --- | --- |
| `abs(x)`, `ceil(x)`, `floor(x)` | magnitude, rounding up, rounding down |
| `round(x, places)` | rounding with a half going up |
| `pow(x, y)`, `sqrt(x)`, `log(x)`, `exp(x)` | power, square root, natural logarithm, exponential |
| `sum(…)`, `avg(…)`, `min(…)`, `max(…)` | of the numbers among the entries |
| `count(…)` | how many entries are not empty |

A sum starts from `-0`, so that the sum of nothing is `-0`; mean, minimum and maximum of nothing are
`0`.
-/

import SurveyLogic.Library.Arguments

namespace SurveyLogic
namespace Library

/-- The magnitude of a number. -/
def magnitude (x : Float) : Float :=
  if Number.signBit x then -x else x

/-- A number of places as a whole number within 32 bits. -/
def places (x : Float) : Int :=
  let most : Int := Nat.pow 2 31 - 1
  let least : Int := -Nat.pow 2 31
  match Number.toInt? x with
  | some n => max least (min n most)
  | none => if x.isNaN then 0 else if Number.signBit x then least else most

/-- The sum of some numbers from left to right. -/
def sum (xs : List Float) : Float :=
  xs.foldl (· + ·) (-0.0)

/-- The mean of some numbers. -/
def mean (xs : List Float) : Float :=
  if xs.isEmpty then 0.0 else sum xs / Float.ofNat xs.length

/-- The first of the least numbers. -/
def least : List Float → Float
  | [] => 0.0
  | x :: xs => xs.foldl (fun best y => if y < best then y else best) x

/-- The first of the greatest numbers. -/
def greatest : List Float → Float
  | [] => 0.0
  | x :: xs => xs.foldl (fun best y => if best < y then y else best) x

/-- How many entries are not empty. -/
def count (args : List Value) : Nat :=
  (items args).countP fun v => !v.isEmpty

/-- The functions of this family. -/
def arithmetic : List (String × Function) := [
  ("abs", plain fun args => .number (magnitude (number args 0))),
  ("ceil", plain fun args => .number (Number.ceil (number args 0))),
  ("floor", plain fun args => .number (Number.floor (number args 0))),
  ("round", plain fun args => .number (roundHalfUp (number args 0) (places (number args 1)))),
  ("pow", plain fun args => .number ((number args 0).pow (number args 1))),
  ("sqrt", plain fun args => .number (number args 0).sqrt),
  ("log", plain fun args => .number (number args 0).log),
  ("exp", plain fun args => .number (number args 0).exp),
  ("sum", plain fun args => .number (sum (numbers args))),
  ("avg", plain fun args => .number (mean (numbers args))),
  ("min", plain fun args => .number (least (numbers args))),
  ("max", plain fun args => .number (greatest (numbers args))),
  ("count", plain fun args => whole (count args))]

end Library
end SurveyLogic
