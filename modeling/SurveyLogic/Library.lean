/-
# The library

The functions that every engine starts with. Those of dates read the clock of the host.
-/

import SurveyLogic.Library.Answers
import SurveyLogic.Library.Arithmetic
import SurveyLogic.Library.Dates
import SurveyLogic.Library.Lists
import SurveyLogic.Library.Logic
import SurveyLogic.Library.Text
import SurveyLogic.Registry

namespace SurveyLogic

/-- The functions that depend on arguments and context only. -/
def Library.timeless : List (String × Library.Function) :=
  logic ++ arithmetic ++ texts ++ lists ++ answers

/-- The whole library, `clock` being the time of the host in milliseconds since the start of
1970. -/
def library {σ : Type} (clock : σ → Int) : Registry σ :=
  let timeless := Library.timeless.map fun (name, f) => (name, Callable.ofFunction f)
  let timed := Library.dates.map fun (name, f) => (name, Callable.ofClock clock f)
  Registry.registerAll [] (timeless ++ timed)

end SurveyLogic
