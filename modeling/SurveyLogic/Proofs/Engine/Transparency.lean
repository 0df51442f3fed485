/-
# The cache cannot be seen

An engine answers each operation as if it parsed every source anew. The argument is a simulation. A
relation between two engines is kept by a step if, started on related engines, the step gives the
same result on both and leaves them related (`Respects`). Keeping is closed under sequences of steps
(`Respects.bind`), so a relation that parsing, evaluating, registering and clearing keep is kept by
every operation (`Simulation.perform`) and by every run of operations (`Simulation.performAll`).

| relation | between | gives |
| --- | --- | --- |
| `Agree` | two engines that differ in sound caches only | answers do not depend on the cache |
| `Uncached` | an engine without a cache and itself | such an engine parses every time |

A cache is sound if each tree in it is the one that its source parses to. That the key is the source
as it was given, blanks at its ends included, is what makes an insertion keep this.
-/

import SurveyLogic.Engine

namespace SurveyLogic

namespace Cache

variable {ε : Type} {parse : String → Except ε Expr} {c : Cache}

/-- Each tree in the cache is the one that its source parses to. -/
def Sound (parse : String → Except ε Expr) (c : Cache) : Prop :=
  ∀ entry ∈ c.entries, parse entry.1 = .ok entry.2

/-- What a sound cache holds for a source is its tree. -/
theorem Sound.get? (h : c.Sound parse) {source : String} {e : Expr}
    (found : c.get? source = some e) : parse source = .ok e := by
  obtain ⟨before, after, split, -⟩ := List.lookup_eq_some_iff.1 found
  exact h (source, e) (by rw [split]; simp)

/-- What an eviction keeps was there before. -/
theorem mem_of_mem_kept {entry : String × Expr} (h : entry ∈ c.kept) : entry ∈ c.entries := by
  unfold kept at h
  split at h
  · exact List.mem_of_mem_drop h
  · exact h

/-- A sound cache stays sound with the tree of a source put in. -/
theorem Sound.insert (h : c.Sound parse) {source : String} {e : Expr}
    (parsed : parse source = .ok e) : (c.insert source e).Sound parse := by
  unfold Cache.insert
  split
  · exact h
  · intro entry mem
    rcases List.mem_append.1 mem with mem | mem
    · exact h entry (mem_of_mem_kept mem)
    · rw [List.mem_singleton.1 mem]
      exact parsed

/-- A cache that was cleared is sound. -/
theorem Sound.clear : c.clear.Sound parse := by
  intro entry mem
  cases mem

/-- A sound cache gives for every source what parsing it gives. -/
theorem Sound.getOrParse_fst (h : c.Sound parse) (source : String) :
    (c.getOrParse parse source).1 = parse source := by
  unfold getOrParse
  split
  · rename_i e found
    exact (h.get? found).symm
  · split
    · rename_i e parsed
      exact parsed.symm
    · rename_i fault failed
      exact failed.symm

/-- A sound cache stays sound when a source is looked up or parsed. -/
theorem Sound.getOrParse_snd (h : c.Sound parse) (source : String) :
    (c.getOrParse parse source).2.Sound parse := by
  unfold getOrParse
  split
  · exact h
  · split
    · rename_i e parsed
      exact h.insert parsed
    · exact h

/-- A cache without room stays as it is. -/
theorem getOrParse_snd_of_capacity (full : c.config.capacity = 0) (source : String) :
    (c.getOrParse parse source).2 = c := by
  have insert (e : Expr) : c.insert source e = c := by
    simp [Cache.insert, full]
  unfold getOrParse
  split
  · rfl
  · split
    · exact insert _
    · rfl

end Cache

/-- What can be asked of an engine. -/
inductive Operation (σ : Type) where
  | parse (source : String)
  | evaluate (source : String) (ctx : Context)
  | run (source : Option String) (ctx : Context) (fallback : Option Value)
  | check (source : String)
  | register (name : String) (f : Callable σ)
  | clearCache
  | functionNames

/-- What an engine answers. -/
inductive Answer where
  | tree (result : Except EngineError Expr)
  | value (result : Except EngineError Value)
  | outcome (v : Value)
  | report (r : SourceReport)
  | names (names : List String)
  | done

namespace Operation

variable {σ : Type}

/-- The answer to one operation. -/
def perform : Operation σ → Running σ Answer
  | parse source => do return .tree (← Engine.parse source)
  | evaluate source ctx => do return .value (← Engine.evaluate source ctx)
  | run source ctx fallback => do return .outcome (← Engine.run source ctx fallback)
  | check source => do return .report (← Engine.check source)
  | register name f => do
    Engine.register name f
    return .done
  | clearCache => do
    Engine.clearCache
    return .done
  | functionNames => do return .names (← get).functionNames

/-- The answers to some operations one after the other. -/
def performAll : List (Operation σ) → Running σ (List Answer)
  | [] => return []
  | op :: ops => do
    let answer ← op.perform
    return answer :: (← performAll ops)

end Operation

namespace Engine

variable {σ α β : Type} {a b c : Engine σ}

/-- A run followed by another goes on with the engine that the first one leaves. -/
theorem bind_apply (m : Running σ α) (k : α → Running σ β) (engine : Engine σ) :
    (m >>= k) engine = k (m engine).1 (m engine).2 :=
  rfl

/-- Parsing looks the source up in the cache and keeps what the cache then is. -/
theorem parse_apply (source : String) (engine : Engine σ) :
    parse source engine =
      let found := engine.cache.getOrParse (Expr.parse engine.limits) source
      (found.1.mapError .source, { engine with cache := found.2 }) :=
  rfl

/-- Evaluating a tree changes the host and adds the functions that were registered. -/
theorem evaluateExpr_apply (e : Expr) (ctx : Context) (engine : Engine σ) :
    evaluateExpr e ctx engine =
      let ran := e.run engine.functions ctx engine.host
      (ran.1.mapError .evaluation, engine.settle ran.2) :=
  rfl

/-- A step gives the same result on related engines and leaves them related. -/
def Respects (R : Engine σ → Engine σ → Prop) (m : Running σ α) : Prop :=
  ∀ a b, R a b → (m a).1 = (m b).1 ∧ R (m a).2 (m b).2

/-- Running a source keeps a relation, in every context and with every fallback. -/
def RunRespects (R : Engine σ → Engine σ → Prop) (source : String) : Prop :=
  ∀ ctx fallback, Respects R (run (some source) ctx fallback)

section

variable {R : Engine σ → Engine σ → Prop}

/-- A value without a step keeps every relation. -/
theorem Respects.pure (x : α) : Respects R (Pure.pure x) :=
  fun _ _ h => ⟨rfl, h⟩

/-- Steps one behind another keep a relation if each of them does. -/
theorem Respects.bind {m : Running σ α} {k : α → Running σ β} (hm : Respects R m)
    (hk : ∀ x, Respects R (k x)) : Respects R (m >>= k) := by
  intro a b h
  obtain ⟨same, h'⟩ := hm a b h
  rw [bind_apply, bind_apply, ← same]
  exact hk (m a).1 _ _ h'

/-- A relation that shows in the functions and that parsing, evaluating and clearing keep. -/
structure Simulation (R : Engine σ → Engine σ → Prop) : Prop where
  functions : ∀ a b, R a b → a.functions = b.functions
  parse : ∀ source, Respects R (Engine.parse source)
  evaluateExpr : ∀ e ctx, Respects R (Engine.evaluateExpr e ctx)
  clearCache : Respects R Engine.clearCache

namespace Simulation

variable (sim : Simulation R)
include sim

/-- What is read off the functions is the same on related engines. -/
theorem reading (f : Registry σ → α) :
    Respects R (do return f (← get).functions) := by
  intro a b h
  exact ⟨congrArg f (sim.functions a b h), h⟩

/-- Evaluating a source keeps what parsing and evaluating trees keep. -/
theorem evaluate (source : String) (ctx : Context) :
    Respects R (Engine.evaluate source ctx) := by
  refine (sim.parse source).bind fun parsed => ?_
  cases parsed with
  | ok e => exact sim.evaluateExpr e ctx
  | error fault => exact Respects.pure _

/-- Running a source keeps what parsing and evaluating trees keep. -/
theorem run (source : Option String) (ctx : Context) (fallback : Option Value) :
    Respects R (Engine.run source ctx fallback) := by
  unfold Engine.run
  dsimp only
  split
  · exact Respects.pure _
  · refine (sim.evaluate _ ctx).bind fun result => ?_
    cases result with
    | ok v => exact Respects.pure _
    | error fault => exact Respects.pure _

/-- Running any source, in any context, keeps it too. -/
theorem runRespects (source : String) : RunRespects R source :=
  sim.run (some source)

/-- Checking a source keeps what parsing keeps. -/
theorem check (source : String) : Respects R (Engine.check source) := by
  unfold Engine.check
  split
  · exact Respects.pure _
  · refine (sim.parse source).bind fun parsed => ?_
    cases parsed with
    | ok e =>
      exact sim.reading fun functions => SourceReport.mk none
        ((sortedNames e.functions).filter fun name => !functions.contains name)
    | error fault => exact Respects.pure _

/-- What the primitive steps keep, every operation keeps that does not register anything, and those
that do keep it if registering does. -/
theorem perform (op : Operation σ)
    (registering : ∀ name f, op = .register name f → Respects R (Engine.register name f)) :
    Respects R op.perform := by
  cases op with
  | parse source => exact (sim.parse source).bind fun _ => Respects.pure _
  | evaluate source ctx => exact (sim.evaluate source ctx).bind fun _ => Respects.pure _
  | run source ctx fallback => exact (sim.run source ctx fallback).bind fun _ => Respects.pure _
  | check source => exact (sim.check source).bind fun _ => Respects.pure _
  | register name f => exact (registering name f rfl).bind fun _ => Respects.pure _
  | clearCache => exact sim.clearCache.bind fun _ => Respects.pure _
  | functionNames =>
    exact sim.reading (α := Answer) fun functions => .names (Bindings.names functions)

/-- What every operation keeps, every run of operations keeps. -/
theorem performAll (registering : ∀ name f, Respects R (Engine.register name f))
    (ops : List (Operation σ)) : Respects R (Operation.performAll ops) := by
  induction ops with
  | nil => exact Respects.pure _
  | cons op ops ih =>
    have first := sim.perform op fun name f _ => registering name f
    exact first.bind fun _ => ih.bind fun _ => Respects.pure _

end Simulation
end

/-- Each tree in the cache of an engine is the one that its source parses to. -/
def Sound (engine : Engine σ) : Prop :=
  engine.cache.Sound (Expr.parse engine.limits)

/-- An engine starts with a sound cache. -/
theorem start_sound (config : EngineConfig) (clock : σ → Int) (host : σ) :
    (start config clock host).Sound := by
  intro entry mem
  cases mem

/-- Two engines that differ in their caches at most, both sound. -/
structure Agree (a b : Engine σ) : Prop where
  left : a.Sound
  right : b.Sound
  functions : a.functions = b.functions
  limits : a.limits = b.limits
  host : a.host = b.host

/-- An engine with a sound cache agrees with itself. -/
theorem Agree.refl (h : a.Sound) : Agree a a :=
  ⟨h, h, rfl, rfl, rfl⟩

theorem Agree.symm (h : Agree a b) : Agree b a :=
  ⟨h.right, h.left, h.functions.symm, h.limits.symm, h.host.symm⟩

theorem Agree.trans (h : Agree a b) (h' : Agree b c) : Agree a c :=
  ⟨h.left, h'.right, h.functions.trans h'.functions, h.limits.trans h'.limits,
    h.host.trans h'.host⟩

/-- **Sound caches do not show.** Two engines that differ in sound caches only parse and evaluate
alike and go on differing in sound caches only. -/
theorem agree_simulation : Simulation (Agree (σ := σ)) where
  functions _ _ h := h.functions
  parse source a b h := by
    rw [parse_apply, parse_apply]
    refine ⟨?_, h.left.getOrParse_snd source, h.right.getOrParse_snd source, h.functions,
      h.limits, h.host⟩
    dsimp only
    rw [h.left.getOrParse_fst, h.right.getOrParse_fst, h.limits]
  evaluateExpr e ctx a b h := by
    rw [evaluateExpr_apply, evaluateExpr_apply, h.functions, h.host]
    refine ⟨rfl, h.left, h.right, ?_, h.limits, rfl⟩
    dsimp only [settle]
    rw [h.functions]
  clearCache a b h :=
    ⟨rfl, Cache.Sound.clear, Cache.Sound.clear, h.functions, h.limits, h.host⟩

/-- Engines that agree still do with one more function each. -/
theorem agree_register (name : String) (f : Callable σ) : Respects Agree (register name f) := by
  intro a b h
  refine ⟨rfl, h.left, h.right, ?_, h.limits, h.host⟩
  exact congrArg (Registry.register · name f) h.functions

/-- An engine with some limits and without a cache, related to itself. -/
structure Uncached (limits : Limits) (a b : Engine σ) : Prop where
  same : a = b
  limits : a.limits = limits
  capacity : a.cache.config.capacity = 0
  entries : a.cache.entries = []

/-- An engine without a cache never holds a tree, so it parses each source each time. -/
theorem uncached_simulation (limits : Limits) : Simulation (Uncached (σ := σ) limits) where
  functions _ _ h := congrArg functions h.same
  parse source a b h := by
    rw [← h.same, parse_apply]
    dsimp only
    rw [Cache.getOrParse_snd_of_capacity h.capacity]
    exact ⟨rfl, rfl, h.limits, h.capacity, h.entries⟩
  evaluateExpr e ctx a b h := by
    rw [← h.same]
    exact ⟨rfl, rfl, h.limits, h.capacity, h.entries⟩
  clearCache a b h := by
    rw [← h.same]
    exact ⟨rfl, rfl, h.limits, h.capacity, rfl⟩

/-- An engine without a cache has none with one more function. -/
theorem uncached_register (limits : Limits) (name : String) (f : Callable σ) :
    Respects (Uncached limits) (register name f) := by
  intro a b h
  rw [← h.same]
  exact ⟨rfl, rfl, h.limits, h.capacity, h.entries⟩

/-- **The cache is invisible.** Whatever operations an engine performs from its start on, it gives
the answers of an engine whose cache has no room, also where a source fails or a function registers
others while it runs, and whatever state the functions keep. At the end, and so at any time, each
tree in the cache is the one that its source parses to, and the engine without room holds none, so
that it has parsed every time. -/
theorem performAll_eq_uncached (config : EngineConfig) (batch : Nat) (clock : σ → Int) (host : σ)
    (ops : List (Operation σ)) :
    let cached := Operation.performAll ops (start config clock host)
    let uncached := Operation.performAll ops
      (start { config with cache := { capacity := 0, evictionBatch := batch } } clock host)
    cached.1 = uncached.1 ∧
      (∀ entry ∈ cached.2.cache.entries, Expr.parse config.parser entry.1 = .ok entry.2) ∧
      uncached.2.cache.entries = [] := by
  intro cached uncached
  have agree : Agree (start config clock host)
      (start { config with cache := { capacity := 0, evictionBatch := batch } } clock host) :=
    ⟨start_sound _ _ _, start_sound _ _ _, rfl, rfl, rfl⟩
  obtain ⟨same, agree⟩ := agree_simulation.performAll agree_register ops _ _ agree
  obtain ⟨-, bare⟩ := (uncached_simulation config.parser).performAll
    (uncached_register config.parser) ops
    (start { config with cache := { capacity := 0, evictionBatch := batch } } clock host) _
    ⟨rfl, rfl, rfl, rfl⟩
  refine ⟨same, fun entry mem => ?_, bare.entries⟩
  rw [← bare.limits, ← agree.limits]
  exact agree.left entry mem

end Engine
end SurveyLogic
