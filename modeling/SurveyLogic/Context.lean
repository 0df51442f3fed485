/-
# Contexts

What an expression is evaluated against: up to five layers of named values. The head of a variable
path is looked up among the answers, then the variables, then the properties; the first of them that
has the name decides, even if it holds `null`. The current row and the current panel are read by
functions only.
-/

import SurveyLogic.Value.Path

namespace SurveyLogic

/-- Named values in layers, each of which may be missing. -/
structure Context where
  values : Option (Bindings Value) := none
  vars : Option (Bindings Value) := none
  properties : Option (Bindings Value) := none
  row : Option (Bindings Value) := none
  panel : Option (Bindings Value) := none

namespace Context

/-- The value under a name in a layer, if there is one. -/
def find? (layer : Option (Bindings Value)) (name : String) : Option Value :=
  layer.bind (Bindings.get? · name)

/-- The value under a name in a layer, `null` if there is none. -/
def read (layer : Option (Bindings Value)) (name : String) : Value :=
  (find? layer name).getD .null

/-- The value under a name in the first layer that has it. -/
def lookup? (ctx : Context) (name : String) : Option Value :=
  find? ctx.values name <|> find? ctx.vars name <|> find? ctx.properties name

/-- Where a path leads, its head being looked up by `head?`. -/
def resolveFrom (head? : String → Option Value) (path : String) : Value :=
  match (pathSegments path.toList).map String.ofList with
  | [] => .null
  | head :: segments => (Value.follow? (head? head) segments).getD .null

/-- Where a variable path leads; `null` if nowhere. -/
def resolve (ctx : Context) (path : String) : Value :=
  resolveFrom ctx.lookup? path

/-- Where a path leads among the answers alone. -/
def answer (ctx : Context) (path : String) : Value :=
  resolveFrom (find? ctx.values) path

end Context
end SurveyLogic
