/-
# Operators

| level | operators |
| ---: | --- |
| 1 | `or` |
| 2 | `and` |
| 3 | `=` `<>` `<` `<=` `>` `>=` `contains` `notcontains` `anyof` `allof` `empty` `notempty` |
| 4 | `+` `-` |
| 5 | `*` `/` `%` |
| 6 | `^` |

A higher level binds tighter, and every level groups to the left, `^` too. The checks `empty` and
`notempty` stand behind an operand. In front of one stand `not` and `-`, which bind tighter than all
of these.
-/

namespace SurveyLogic

/-- An operator with one operand. The first two stand before it, the others behind it. -/
inductive UnaryOp where
  | not
  | negate
  | empty
  | notEmpty
  deriving DecidableEq, Repr

namespace UnaryOp

/-- All operators with one operand. -/
def all : List UnaryOp := [not, negate, empty, notEmpty]

/-- The name in canonical texts. -/
def name : UnaryOp → String
  | not => "Not"
  | negate => "Negate"
  | empty => "Empty"
  | notEmpty => "NotEmpty"

/-- The operator of a given name. -/
def ofName? (s : String) : Option UnaryOp :=
  all.find? (·.name == s)

theorem ofName?_name (op : UnaryOp) : ofName? op.name = some op := by
  cases op <;> decide +kernel

end UnaryOp

/-- An operator between two operands. -/
inductive BinaryOp where
  | or
  | and
  | eq
  | ne
  | lt
  | le
  | gt
  | ge
  | contains
  | notContains
  | anyOf
  | allOf
  | add
  | sub
  | mul
  | div
  | mod
  | pow
  deriving DecidableEq, Repr

namespace BinaryOp

/-- All operators with two operands, from the loosest to the tightest level. -/
def all : List BinaryOp :=
  [or, and, eq, ne, lt, le, gt, ge, contains, notContains, anyOf, allOf, add, sub, mul, div, mod,
    pow]

/-- The level, higher binding tighter. -/
def precedence : BinaryOp → Nat
  | or => 1
  | and => 2
  | eq | ne | lt | le | gt | ge | contains | notContains | anyOf | allOf => 3
  | add | sub => 4
  | mul | div | mod => 5
  | pow => 6

/-- The sign or word that writes the operator. -/
def symbol : BinaryOp → String
  | or => "or"
  | and => "and"
  | eq => "="
  | ne => "<>"
  | lt => "<"
  | le => "<="
  | gt => ">"
  | ge => ">="
  | contains => "contains"
  | notContains => "notcontains"
  | anyOf => "anyof"
  | allOf => "allof"
  | add => "+"
  | sub => "-"
  | mul => "*"
  | div => "/"
  | mod => "%"
  | pow => "^"

/-- The name in canonical texts. -/
def name : BinaryOp → String
  | or => "Or"
  | and => "And"
  | eq => "Eq"
  | ne => "Ne"
  | lt => "Lt"
  | le => "Le"
  | gt => "Gt"
  | ge => "Ge"
  | contains => "Contains"
  | notContains => "NotContains"
  | anyOf => "AnyOf"
  | allOf => "AllOf"
  | add => "Add"
  | sub => "Sub"
  | mul => "Mul"
  | div => "Div"
  | mod => "Mod"
  | pow => "Pow"

/-- The operator that a sign or word writes. -/
def ofSymbol? (s : String) : Option BinaryOp :=
  all.find? (·.symbol == s)

/-- The operator of a given name. -/
def ofName? (s : String) : Option BinaryOp :=
  all.find? (·.name == s)

theorem ofName?_name (op : BinaryOp) : ofName? op.name = some op := by
  cases op <;> decide +kernel

end BinaryOp

/-- The level of the checks `empty` and `notempty` behind an operand. -/
def suffixPrecedence : Nat := 3

end SurveyLogic
