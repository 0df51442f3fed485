/-
# Arguments

How the functions of the library read their arguments. A missing argument counts as `null`, and a
list among the arguments of an aggregate as its items.
-/

import SurveyLogic.Callable
import SurveyLogic.Number.Binary
import SurveyLogic.Value.Coercion

namespace SurveyLogic
namespace Library

/-- A function of the library that does not read the clock. -/
abbrev Function := List Value → Context → Except EvalError Value

/-- A function that only looks at its arguments and never fails. -/
def plain (f : List Value → Value) : Function :=
  fun args _ => .ok (f args)

/-- An argument by its position. -/
def arg (args : List Value) (i : Nat) : Value :=
  args.getD i .null

/-- An argument as a number. -/
def number (args : List Value) (i : Nat) : Float :=
  (arg args i).toNumber

/-- An argument as a text. -/
def text (args : List Value) (i : Nat) : String :=
  (arg args i).toText

/-- What an argument of an aggregate stands for. -/
def spread : Value → List Value
  | .array items => items
  | v => [v]

/-- The entries of an aggregate. -/
def items (args : List Value) : List Value :=
  args.flatMap spread

/-- The numbers among the entries of an aggregate. Missing answers, blanks and texts without a
number are left out. -/
def numbers (args : List Value) : List Float :=
  (items args).filterMap Value.carriedNumber?

/-- A value or `null`. -/
def orNull : Option Value → Value
  | some v => v
  | none => .null

/-- A whole number as a value. -/
def whole (n : Int) : Value :=
  .number (Number.ofInt n)

/-- A number rounded to some decimal places, a half going up: `2.5` to `3`, `-2.5` to `-2`. -/
def roundHalfUp (x : Float) (places : Int) : Float :=
  let scale := Number.scaleOfTen places
  Number.floor (x * scale + 0.5) / scale

end Library
end SurveyLogic
