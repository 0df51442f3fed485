/-
# What an expression mentions

The variable paths and the functions in a tree, without evaluating it. Functions are listed in lower
case, for their names do not depend on case. A path is looked up by its head, the part before the
first dot.
-/

import SurveyLogic.Expr.Basic
import SurveyLogic.Bindings
import SurveyLogic.Text.Case

namespace SurveyLogic
namespace Expr

mutual

/-- The variable paths from left to right, repeated as often as they occur. -/
def variablePaths : Expr → List String
  | literal _ => []
  | var path => [path]
  | unary _ arg => variablePaths arg
  | binary _ lhs rhs => variablePaths lhs ++ variablePaths rhs
  | call _ args => variablePathsAll args
  | array items => variablePathsAll items

/-- The variable paths in a list of trees. -/
def variablePathsAll : List Expr → List String
  | [] => []
  | e :: es => variablePaths e ++ variablePathsAll es

end

mutual

/-- The names of the called functions in lower case, repeated as often as they occur. -/
def functions : Expr → List String
  | literal _ => []
  | var _ => []
  | unary _ arg => functions arg
  | binary _ lhs rhs => functions lhs ++ functions rhs
  | call name args => Text.lower name :: functionsAll args
  | array items => functionsAll items

/-- The names of the called functions in a list of trees. -/
def functionsAll : List Expr → List String
  | [] => []
  | e :: es => functions e ++ functionsAll es

end

/-- The part of a path before its first dot. -/
def headOfPath (path : String) : String :=
  String.ofList (path.toList.takeWhile (· ≠ '.'))

/-- The heads of the variable paths. -/
def baseNames (e : Expr) : List String :=
  e.variablePaths.map headOfPath

end Expr
end SurveyLogic
