/-
# Bounds of engines as documents

The bounds are records; each field that is missing has its usual value.
-/

import SurveyLogic.Engine
import SurveyLogic.Json.Record

namespace SurveyLogic

/-- The bounds of a cache that a document describes. -/
def CacheConfig.ofJson? (j : Json) : Option CacheConfig := do
  let r ← j.record? ["capacity", "evictionBatch"]
  let usual : CacheConfig := {}
  return {
    capacity := ← r.field? "capacity" Json.toNat? usual.capacity
    evictionBatch := ← r.field? "evictionBatch" Json.toNat? usual.evictionBatch
  }

/-- The document of the bounds of a cache. -/
def CacheConfig.toJson (c : CacheConfig) : Json :=
  .object [("capacity", .int c.capacity), ("evictionBatch", .int c.evictionBatch)]

/-- The limits that a document describes. -/
def Limits.ofJson? (j : Json) : Option Limits := do
  let r ← j.record? ["maxDepth"]
  let usual : Limits := {}
  return { maxDepth := ← r.field? "maxDepth" Json.toNat? usual.maxDepth }

/-- The bounds of an engine that a document describes. -/
def EngineConfig.ofJson? (j : Json) : Option EngineConfig := do
  let r ← j.record? ["cache", "parser"]
  return {
    cache := ← r.field? "cache" CacheConfig.ofJson? {}
    parser := ← r.field? "parser" Limits.ofJson? {}
  }

end SurveyLogic
