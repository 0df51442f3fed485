/-
# Functions that expressions call

A function takes values that are already there and may read the context. The host of an engine may
add functions of its own. Such a function may keep a state, and while it runs it may register
further functions; those are callable from the next evaluation on.
-/

import SurveyLogic.Context
import SurveyLogic.Pattern.Syntax

namespace SurveyLogic

/-- Why an expression has no value. -/
inductive EvalError where
  | unknownFunction (name : String)
  /-- A function refuses its arguments. -/
  | argument (function reason : String)
  /-- An argument that should be a pattern is none. -/
  | pattern (problem : Pattern.Problem)
  deriving DecidableEq, Repr

/-- The wording of an error. -/
def EvalError.message : EvalError → String
  | unknownFunction name => "unknown function: " ++ name
  | argument function reason => function ++ ": " ++ reason
  | pattern problem => "regex error: " ++ problem.message

/-- What a call leaves behind: its result, the state of the host, and the functions that it
registered in order. -/
structure Reply (σ κ : Type) where
  result : Except EvalError Value
  host : σ
  registered : List (String × κ)

/-- A function that expressions can call, `σ` being the state of the host. -/
inductive Callable (σ : Type) where
  | mk (run : List Value → Context → σ → Reply σ (Callable σ))

namespace Callable

variable {σ : Type}

/-- The reply of a function to some arguments. -/
def call (f : Callable σ) (args : List Value) (ctx : Context) (host : σ) : Reply σ (Callable σ) :=
  match f with
  | mk run => run args ctx host

/-- A function that depends on its arguments and the context only. -/
def ofFunction (f : List Value → Context → Except EvalError Value) : Callable σ :=
  mk fun args ctx host => ⟨f args ctx, host, []⟩

/-- A function that also reads the time of the host in milliseconds. -/
def ofClock (clock : σ → Int) (f : Int → List Value → Value) : Callable σ :=
  mk fun args _ host => ⟨.ok (f (clock host) args), host, []⟩

end Callable
end SurveyLogic
