/-
# Loose equality and order

Values of different kinds are compared after coercion.

| operands | equal if |
| --- | --- |
| `null` and anything | both are `null` |
| of one kind | they are the same |
| a truth value and another | its number equals the other |
| a number and a text | the text writes the number |
| a list and a number or a text | the text of the list equals the other |
| an object and a value of another kind | never |

Order takes a list as its text; two texts compare by code points and all else as numbers. With a
`null`, an object, or an operand that is no number, there is no order.
-/

import SurveyLogic.Value.Coercion

namespace SurveyLogic
namespace Value

/-- Whether a text writes a number equal to `x`. -/
def textEquals (s : String) (x : Float) : Bool :=
  (textNumber? s).any (· == x)

/-- Loose equality where no operand is a truth value. -/
def equalPlain : Value → Value → Bool
  | null, null => true
  | number x, number y => x == y
  | string s, string t => s == t
  | number x, string s => textEquals s x
  | string s, number x => textEquals s x
  | array as, array bs => sameAll as bs
  | object fs, object gs => sameFields fs gs
  | array as, number x => textEquals (array as).toText x
  | number x, array as => textEquals (array as).toText x
  | array as, string s => (array as).toText == s
  | string s, array as => s == (array as).toText
  | _, _ => false

/-- Loose equality. -/
def looselyEqual : Value → Value → Bool
  | bool a, bool b => a == b
  | bool _, null => false
  | null, bool _ => false
  | bool a, v => equalPlain (number (bool a).toNumber) v
  | v, bool b => equalPlain v (number (bool b).toNumber)
  | v, w => equalPlain v w

/-- What takes part in a comparison of order: a text for a list, nothing for `null` or an object. -/
def comparand? : Value → Option Value
  | null => none
  | object _ => none
  | array items => some (string (array items).toText)
  | v => some v

/-- The order of two numbers; none with a NaN. -/
def compareNumbers? (x y : Float) : Option Ordering :=
  if x < y then some .lt
  else if x == y then some .eq
  else if y < x then some .gt
  else none

/-- The order of two texts by code points. -/
def compareTexts (s t : String) : Ordering :=
  if s < t then .lt else if s = t then .eq else .gt

/-- The order of two values, if they have one. -/
def compare? (v w : Value) : Option Ordering := do
  let v ← v.comparand?
  let w ← w.comparand?
  match v, w with
  | string s, string t => return compareTexts s t
  | v, w => compareNumbers? (← v.toNumber?) (← w.toNumber?)

end Value
end SurveyLogic
