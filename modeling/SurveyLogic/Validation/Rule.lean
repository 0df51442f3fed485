/-
# What rules find

Each rule finds a list of failures in an answer. Only two of them look at a missing answer: a
condition, and a count of options, which looks at lists alone. A pattern that cannot be read and a
condition that fails find nothing.

| rule | failure |
| --- | --- |
| required | the answer is blank |
| email | no address |
| numeric | no number; below the least or above the greatest one |
| text | too few or too many characters; digits |
| regex | no match |
| expression | the condition does not hold |
| answer count | too few or too many options |
-/

import SurveyLogic.Engine
import SurveyLogic.Survey.Basic
import SurveyLogic.Validation.Email

namespace SurveyLogic
namespace Validation

/-- What is wrong with an answer. -/
inductive Failure where
  | missing
  | notEmail
  | notNumber
  | below (least : Float)
  | above (most : Float)
  | tooShort (minLength : Nat)
  | tooLong (maxLength : Nat)
  | hasDigits
  | noMatch
  | conditionFails
  | tooFew (minCount : Nat)
  | tooMany (maxCount : Nat)

/-- The wording of a failure. -/
def Failure.message : Failure → String
  | missing => "This field is required"
  | notEmail => "Please enter a valid email address"
  | notNumber => "Please enter a valid number"
  | below least => "Value must be at least " ++ Number.answerText least
  | above most => "Value must be at most " ++ Number.answerText most
  | tooShort n => "Must be at least " ++ toString n ++ " characters"
  | tooLong n => "Must be at most " ++ toString n ++ " characters"
  | hasDigits => "Digits are not allowed"
  | noMatch => "Invalid format"
  | conditionFails => "Validation failed"
  | tooFew n => "Please select at least " ++ toString n ++ " options"
  | tooMany n => "Please select at most " ++ toString n ++ " options"

/-- A failure where a bound is broken. -/
def ifBroken (bound : Option α) (broken : α → Bool) (failure : α → Failure) : List Failure :=
  match bound with
  | some b => if broken b then [failure b] else []
  | none => []

/-- The failures of a number outside its bounds. -/
def numericFailures (v : Value) (least most : Option Float) : List Failure :=
  match v.carriedNumber? with
  | none => [.notNumber]
  | some x => ifBroken least (x < ·) .below ++ ifBroken most (· < x) .above

/-- The failures of a text. -/
def textFailures (s : String) (minLength maxLength : Option Nat) (allowDigits : Option Bool) :
    List Failure :=
  let n := s.length
  ifBroken minLength (n < ·) .tooShort ++ ifBroken maxLength (· < n) .tooLong ++
    if allowDigits = some false && s.toList.any (·.isDigit) then [.hasDigits] else []

/-- The failure of a text that a pattern should match. -/
def patternFailures (s pattern : String) : List Failure :=
  match Pattern.Program.ofText pattern with
  | .ok p => if p.isMatch s then [] else [.noMatch]
  | .error _ => []

/-- The failures of a number of options. -/
def countFailures (n : Nat) (minCount maxCount : Option Nat) : List Failure :=
  ifBroken minCount (n < ·) .tooFew ++ ifBroken maxCount (· < n) .tooMany

/-- What a rule finds in an answer, if it is no condition. -/
def failures (v : Value) : Rule → List Failure
  | .required => if v.isBlank then [.missing] else []
  | .email => if v.isBlank || isEmail v.toText then [] else [.notEmail]
  | .numeric least most => if v.isBlank then [] else numericFailures v least most
  | .text minLength maxLength allowDigits =>
    if v.isBlank then [] else textFailures v.toText minLength maxLength allowDigits
  | .regex pattern => if v.isBlank then [] else patternFailures v.toText pattern
  | .expression _ => []
  | .answerCount minCount maxCount =>
    match v.toList? with
    | some items => countFailures items.length minCount maxCount
    | none => []

variable {σ : Type}

/-- Whether a condition on an answer holds among all answers. The answer is the property `value`. -/
def conditionHolds (source : String) (v : Value) (all : Bindings Value) : Running σ Bool := do
  let ctx : Context := { values := some all, properties := some [("value", v)] }
  let result ← Engine.run (some source) ctx (some (.bool true))
  return result.truthy

/-- What a rule finds in an answer. -/
def check (v : Value) (all : Bindings Value) : Rule → Running σ (List Failure)
  | .expression source => do
    if ← conditionHolds source v all then return [] else return [.conditionFails]
  | rule => return failures v rule

/-- The messages of a validator for an answer. A message of its own takes the place of each. -/
def messages (validator : Validator) (v : Value) (all : Bindings Value) :
    Running σ (List String) := do
  let found ← check v all validator.rule
  return found.map fun f => validator.message.getD f.message

end Validation
end SurveyLogic
