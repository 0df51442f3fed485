/-
# Registries

The functions that expressions can call, by name. Case does not count in names: they are kept in
lower case. Registering a name again replaces its function.
-/

import SurveyLogic.Bindings
import SurveyLogic.Callable
import SurveyLogic.Text.Case
import SurveyLogic.Text.Quoted
import SurveyLogic.Text.Search

namespace SurveyLogic

/-- Functions under their names in lower case. -/
abbrev Registry (σ : Type) := Bindings (Callable σ)

namespace Registry

variable {σ : Type}

/-- The function of a name in any case. -/
def find? (r : Registry σ) (name : String) : Option (Callable σ) :=
  Bindings.get? r (Text.lower name)

/-- Whether there is a function of a name in any case. -/
def contains (r : Registry σ) (name : String) : Bool :=
  (r.find? name).isSome

/-- With a function under a name. -/
def register (r : Registry σ) (name : String) (f : Callable σ) : Registry σ :=
  Bindings.put r (Text.lower name) f

/-- With some functions registered one after the other. -/
def registerAll (r : Registry σ) (new : List (String × Callable σ)) : Registry σ :=
  new.foldl (fun r (name, f) => r.register name f) r

/-- The names in order, for a reader. -/
def describe (r : Registry σ) : String :=
  "FunctionRegistry \x7b functions: [" ++
    Text.join ", " ((Bindings.names r).map Text.quoted) ++ "] \x7d"

end Registry
end SurveyLogic
