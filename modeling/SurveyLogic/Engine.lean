/-
# Engines

An engine runs expressions: it parses them through a cache, evaluates them with the functions of a
registry, and keeps the state of its host. An evaluation sees the functions that were registered
when it began; what is registered in its course is added when it has ended, however it ended.

Conditions of a survey run with a fallback: a missing or blank source stands for it, or for `true`
without one, and a source that fails for it, or for `false` without one.
-/

import SurveyLogic.Cache
import SurveyLogic.Evaluation
import SurveyLogic.Expr.Dependencies
import SurveyLogic.Library
import SurveyLogic.Text.Blank

namespace SurveyLogic

/-- The bounds of an engine. -/
structure EngineConfig where
  cache : CacheConfig := {}
  parser : Limits := {}
  deriving DecidableEq, Repr

/-- Why a source has no value. -/
inductive EngineError where
  | source (e : SyntaxError)
  | evaluation (e : EvalError)

/-- The wording of an error. -/
def EngineError.message : EngineError → String
  | source e => "syntax error: " ++ e.message
  | evaluation e => "evaluation error: " ++ e.message

/-- What runs expressions, `σ` being the state of the host. -/
structure Engine (σ : Type) where
  cache : Cache
  functions : Registry σ
  limits : Limits
  host : σ

/-- What is known about a source before it is used. -/
structure SourceReport where
  error : Option EngineError := none
  /-- The called functions that are not registered, in lower case and in order. -/
  unknownFunctions : List String := []

/-- Whether a source can be used. -/
def SourceReport.valid (r : SourceReport) : Bool :=
  r.error.isNone && r.unknownFunctions.isEmpty

/-- A step that uses and changes an engine. -/
abbrev Running (σ : Type) := StateM (Engine σ)

namespace Engine

variable {σ : Type}

/-- An engine with the library and an empty cache, `clock` being the time of the host. -/
def start (config : EngineConfig) (clock : σ → Int) (host : σ) : Engine σ :=
  { cache := { config := config.cache }, functions := library clock, limits := config.parser, host }

/-- The tree of a source, by way of the cache. -/
def parse (source : String) : Running σ (Except EngineError Expr) := fun engine =>
  let (result, cache) := engine.cache.getOrParse (Expr.parse engine.limits) source
  (result.mapError .source, { engine with cache })

/-- The engine after an evaluation that left the host in some state. -/
def settle (engine : Engine σ) (after : CallState σ) : Engine σ :=
  { engine with
    functions := engine.functions.registerAll after.registered
    host := after.host }

/-- The value of a tree. -/
def evaluateExpr (e : Expr) (ctx : Context) : Running σ (Except EngineError Value) := fun engine =>
  let (result, after) := e.run engine.functions ctx engine.host
  (result.mapError .evaluation, engine.settle after)

/-- The value of a source. -/
def evaluate (source : String) (ctx : Context) : Running σ (Except EngineError Value) := do
  match ← parse source with
  | .ok e => evaluateExpr e ctx
  | .error fault => return .error fault

/-- The value of a source without blanks at its ends, or the fallback. -/
def run (source : Option String) (ctx : Context) (fallback : Option Value) : Running σ Value := do
  let source := Text.trim (source.getD "")
  if source.isEmpty then return fallback.getD (.bool true)
  match ← evaluate source ctx with
  | .ok v => return v
  | .error _ => return fallback.getD (.bool false)

/-- What is known about a source: its first error, or the functions it lacks. -/
def check (source : String) : Running σ SourceReport := do
  if Text.isBlankText source then return {}
  match ← parse source with
  | .error fault => return { error := some fault }
  | .ok e =>
    let functions := (← get).functions
    let unknown := (sortedNames e.functions).filter fun name => !functions.contains name
    return { unknownFunctions := unknown }

/-- With a function under a name. -/
def register (name : String) (f : Callable σ) : Running σ Unit :=
  modify fun engine => { engine with functions := engine.functions.register name f }

/-- The names of all functions, in order. -/
def functionNames (engine : Engine σ) : List String :=
  Bindings.names engine.functions

/-- Without any tree in the cache. -/
def clearCache : Running σ Unit :=
  modify fun engine => { engine with cache := engine.cache.clear }

end Engine
end SurveyLogic
