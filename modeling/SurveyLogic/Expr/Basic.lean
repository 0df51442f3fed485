/-
# Expressions

The syntax tree of a condition or a calculation. A variable keeps its whole path (`q1`, `q1.answer`,
`matrix.0`), and a call the name of its function as written; both are resolved only when the
expression is evaluated.
-/

import SurveyLogic.Expr.Operator

namespace SurveyLogic

/-- A constant. -/
inductive Literal where
  | number (x : Float)
  | string (s : String)
  | bool (b : Bool)
  | null

/-- A syntax tree. -/
inductive Expr where
  | literal (l : Literal)
  | var (path : String)
  | unary (op : UnaryOp) (arg : Expr)
  | binary (op : BinaryOp) (lhs rhs : Expr)
  | call (name : String) (args : List Expr)
  | array (items : List Expr)
  deriving Inhabited

namespace Expr

mutual

/-- The height of a tree; a literal or a variable alone has height 1. -/
def depth : Expr → Nat
  | literal _ => 1
  | var _ => 1
  | unary _ arg => 1 + depth arg
  | binary _ lhs rhs => 1 + max (depth lhs) (depth rhs)
  | call _ args => 1 + depthAll args
  | array items => 1 + depthAll items

/-- The height of the highest tree of a list; 0 for an empty list. -/
def depthAll : List Expr → Nat
  | [] => 0
  | e :: es => max (depth e) (depthAll es)

end

/-- A tree has at least one level. -/
theorem one_le_depth (e : Expr) : 1 ≤ e.depth := by
  cases e <;> simp [depth]

end Expr
end SurveyLogic
