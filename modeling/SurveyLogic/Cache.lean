/-
# The cache of parsed expressions

A bounded queue of trees under their source texts, the oldest first. A source keeps the tree it came
in with, and being read does not move it. When the cache is full, an insertion first drops a batch
from the front, so expressions in frequent use leave like any other. Only trees come in: a source
that does not parse leaves no trace.
-/

import SurveyLogic.Syntax.Source

namespace SurveyLogic

/-- The bounds of a cache. -/
structure CacheConfig where
  /-- How many trees the cache holds at most. -/
  capacity : Nat := 1000
  /-- How many trees leave when the cache is full; at least one does. -/
  evictionBatch : Nat := 100
  deriving DecidableEq, Repr

/-- Trees under their sources, the oldest first. -/
structure Cache where
  config : CacheConfig := {}
  entries : List (String × Expr) := []

namespace Cache

/-- The number of trees. -/
def size (c : Cache) : Nat :=
  c.entries.length

/-- The tree of a source, if the cache holds it. -/
def get? (c : Cache) (source : String) : Option Expr :=
  c.entries.lookup source

/-- Whether the cache holds a source. -/
def contains (c : Cache) (source : String) : Bool :=
  (c.get? source).isSome

/-- The entries that stay when room is needed. -/
def kept (c : Cache) : List (String × Expr) :=
  if c.config.capacity ≤ c.size then c.entries.drop (max c.config.evictionBatch 1) else c.entries

/-- With a tree under a source, unless the cache holds that source or can hold none. -/
def insert (c : Cache) (source : String) (e : Expr) : Cache :=
  if c.config.capacity = 0 || c.contains source then c
  else { c with entries := c.kept ++ [(source, e)] }

/-- The tree of a source, parsed if the cache does not hold it. -/
def getOrParse (c : Cache) (parse : String → Except ε Expr) (source : String) :
    Except ε Expr × Cache :=
  match c.get? source with
  | some e => (.ok e, c)
  | none =>
    match parse source with
    | .ok e => (.ok e, c.insert source e)
    | .error fault => (.error fault, c)

/-- Without any tree. -/
def clear (c : Cache) : Cache :=
  { c with entries := [] }

end Cache
end SurveyLogic
