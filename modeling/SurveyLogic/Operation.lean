/-
# The meaning of operators

Operators take values that are already there, so `and` and `or` see both operands. Arithmetic counts
whatever is no number as zero, and dividing by zero gives zero. A text on either side makes `+` join
texts. Membership in a list is by sameness, membership in a text regardless of case; a missing
answer is sought in a text as the word `undefined`.
-/

import SurveyLogic.Expr.Operator
import SurveyLogic.Text.Case
import SurveyLogic.Value.Order

namespace SurveyLogic

/-- The value of an operator with one operand. -/
def UnaryOp.apply (op : UnaryOp) (v : Value) : Value :=
  match op with
  | .not => .bool !v.truthy
  | .negate => .number (-v.toNumber)
  | .empty => .bool v.isEmpty
  | .notEmpty => .bool !v.isEmpty

namespace Value

/-- The text that a value is sought as. -/
def needle : Value → String
  | null => "undefined"
  | v => v.toText

/-- Whether a list holds a value, or a text its text. -/
def contains (hay v : Value) : Bool :=
  match hay with
  | array items => v.isIn items
  | string s => Text.occursIn (Text.lower v.needle).toList (Text.lower s).toList
  | _ => false

/-- Whether a pool holds some item of a list, or a single value. -/
def anyIn (v pool : Value) : Bool :=
  match v, pool with
  | array items, array pool => items.any (·.isIn pool)
  | v, array pool => v.isIn pool
  | _, _ => false

/-- Whether a pool holds every item of a list, or a single value. -/
def allIn (v pool : Value) : Bool :=
  match v, pool with
  | array items, array pool => items.all (·.isIn pool)
  | v, array pool => v.isIn pool
  | _, _ => false

/-- The sum of two numbers, or the two texts joined. -/
def plus (v w : Value) : Value :=
  if v.toText?.isSome || w.toText?.isSome then string (v.toText ++ w.toText)
  else number (v.toNumber + w.toNumber)

/-- A division of some kind, zero if the divisor is zero. -/
def guarded (divide : Float → Float → Float) (v w : Value) : Value :=
  number (if w.toNumber == 0.0 then 0.0 else divide v.toNumber w.toNumber)

end Value

/-- The value of an operator between two operands. -/
def BinaryOp.apply (op : BinaryOp) (v w : Value) : Value :=
  match op with
  | .or => .bool (v.truthy || w.truthy)
  | .and => .bool (v.truthy && w.truthy)
  | .eq => .bool (v.looselyEqual w)
  | .ne => .bool !v.looselyEqual w
  | .lt => .bool (v.compare? w == some .lt)
  | .le => .bool (v.compare? w == some .lt || v.compare? w == some .eq)
  | .gt => .bool (v.compare? w == some .gt)
  | .ge => .bool (v.compare? w == some .gt || v.compare? w == some .eq)
  | .contains => .bool (v.contains w)
  | .notContains => .bool !v.contains w
  | .anyOf => .bool (v.anyIn w)
  | .allOf => .bool (v.allIn w)
  | .add => v.plus w
  | .sub => .number (v.toNumber - w.toNumber)
  | .mul => .number (v.toNumber * w.toNumber)
  | .div => Value.guarded (· / ·) v w
  | .mod => Value.guarded Number.remainder v w
  | .pow => .number (v.toNumber.pow w.toNumber)

end SurveyLogic
