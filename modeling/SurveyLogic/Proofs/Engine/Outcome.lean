/-
# What an engine answers

What a source parses to, is worth or lacks, said without the cache: as long as each tree in the
cache is the one that its source parses to, an answer is a function of the source, the context, the
registry, the limits and the host. So two engines with the same registry and limits (`Kin`) parse
and check alike, whatever their caches hold and whatever time their hosts show, and they evaluate
alike what does not depend on the host (`Kin.run_congr`).

| property of a function | its result depends on |
| --- | --- |
| `Timeless` | its arguments and the context |
| `Plain` | its arguments |
-/

import SurveyLogic.Proofs.Engine.Silence
import SurveyLogic.Proofs.Evaluation.Coincidence

namespace SurveyLogic

variable {σ : Type}

/-- The result of a function does not depend on the host. -/
def Callable.Timeless (f : Callable σ) : Prop :=
  ∀ args ctx a b, (f.call args ctx a).result = (f.call args ctx b).result

/-- The result of a function depends on its arguments only. -/
def Callable.Plain (f : Callable σ) : Prop :=
  ∀ args c₁ c₂ a b, (f.call args c₁ a).result = (f.call args c₂ b).result

/-- A function that depends on its arguments only does not depend on the host. -/
theorem Callable.Plain.timeless {f : Callable σ} (h : f.Plain) : f.Timeless :=
  fun args ctx a b => h args ctx ctx a b

/-- The functions of the library other than those of the clock do not depend on the host. -/
theorem library_timeless {clock : σ → Int} {name : String} {f : Callable σ}
    (found : Bindings.get? (library clock) name = some f) (untimed : name ∉ Library.clockReaders) :
    f.Timeless := by
  rcases Registry.mem_of_get?_registerAll found with ⟨entry, mem, named, rfl⟩ | found
  · rcases List.mem_append.1 mem with mem | mem
    · obtain ⟨⟨key, g⟩, -, rfl⟩ := List.mem_map.1 mem
      exact fun _ _ _ _ => rfl
    · obtain ⟨⟨key, g⟩, listed, rfl⟩ := List.mem_map.1 mem
      have known : key ∈ Library.clockReaders := List.mem_map_of_mem listed
      have lower := Library.lower_name key (List.mem_append_right _ known)
      exact absurd (named ▸ lower.symm ▸ known) untimed
  · exact nomatch found

/-- Those of the library that read neither clock nor context depend on their arguments only. -/
theorem library_plain {clock : σ → Int} {name : String} {f : Callable σ}
    (found : Bindings.get? (library clock) name = some f) (untimed : name ∉ Library.clockReaders)
    (unread : name ∉ Library.contextReaders) : f.Plain := by
  intro args c₁ c₂ a b
  have alike : f.Alike (fun _ _ => True) c₁ c₂ :=
    Library.alike found unread (fun timed => absurd timed untimed) c₁ c₂
  exact (alike args a b trivial).1

namespace Engine

variable {a b c engine : Engine σ}

/-- The functions that a source calls when an engine runs it. A source that does not parse calls
none. -/
def called (engine : Engine σ) (source : String) : List String :=
  match Expr.parse engine.limits (Text.trim source) with
  | .ok e => e.functions
  | .error _ => []

/-- The heads of the paths in a source when an engine runs it. -/
def mentioned (engine : Engine σ) (source : String) : List String :=
  match Expr.parse engine.limits (Text.trim source) with
  | .ok e => e.baseNames
  | .error _ => []

/-- Each function that a source calls when an engine runs it has a property. -/
def Calls (engine : Engine σ) (source : String) (P : Callable σ → Prop) : Prop :=
  ∀ name ∈ engine.called source, ∀ f, Bindings.get? engine.functions name = some f → P f

/-- What the functions that a source calls have, they have if it is weakened. -/
theorem Calls.mono {P Q : Callable σ → Prop} {source : String} (h : engine.Calls source P)
    (le : ∀ f, P f → Q f) : engine.Calls source Q :=
  fun name mem f found => le f (h name mem f found)

/-- Two engines with the same registry and the same limits, both with sound caches. Their hosts may
differ. -/
structure Kin (a b : Engine σ) : Prop where
  left : a.Sound
  right : b.Sound
  functions : a.functions = b.functions
  limits : a.limits = b.limits

theorem Kin.refl (h : a.Sound) : Kin a a :=
  ⟨h, h, rfl, rfl⟩

theorem Kin.trans (h : Kin a b) (h' : Kin b c) : Kin a c :=
  ⟨h.left, h'.right, h.functions.trans h'.functions, h.limits.trans h'.limits⟩

/-- Engines that agree are kin. -/
theorem Agree.kin (h : Agree a b) : Kin a b :=
  ⟨h.left, h.right, h.functions, h.limits⟩

/-- Every operation leaves a sound cache sound. -/
theorem sound_perform (sound : engine.Sound) (op : Operation σ) : (op.perform engine).2.Sound := by
  have keeps := agree_simulation.perform op fun name f _ => agree_register name f
  exact (keeps engine engine (Agree.refl sound)).2.left

/-- With a sound cache, parsing gives what the source parses to. -/
theorem parse_fst (sound : engine.Sound) (source : String) :
    (parse source engine).1 = (Expr.parse engine.limits source).mapError .source := by
  rw [parse_apply]
  dsimp only
  rw [sound.getOrParse_fst]

/-- Evaluating a source is parsing it and evaluating its tree. -/
theorem evaluate_apply (source : String) (ctx : Context) (engine : Engine σ) :
    evaluate source ctx engine =
      match parse source engine with
      | (.ok e, parsed) => evaluateExpr e ctx parsed
      | (.error fault, parsed) => (.error fault, parsed) := by
  rw [evaluate, bind_apply]
  cases parse source engine with
  | mk result parsed =>
    cases result with
    | ok e => rfl
    | error fault => rfl

/-- With a sound cache, evaluating a source gives what its tree gives. -/
theorem evaluate_fst (sound : engine.Sound) (source : String) (ctx : Context) :
    (evaluate source ctx engine).1 =
      match Expr.parse engine.limits source with
      | .ok e => (e.run engine.functions ctx engine.host).1.mapError .evaluation
      | .error fault => .error (.source fault) := by
  rw [evaluate_apply, parse_apply]
  dsimp only
  rw [sound.getOrParse_fst]
  cases Expr.parse engine.limits source with
  | ok e => rfl
  | error fault => rfl

/-- Running a source is evaluating its trimmed text, with the fallbacks. -/
theorem run_fst (source : Option String) (ctx : Context) (fallback : Option Value)
    (engine : Engine σ) :
    (run source ctx fallback engine).1 =
      let trimmed := Text.trim (source.getD "")
      if trimmed.isEmpty then fallback.getD (.bool true)
      else
        match (evaluate trimmed ctx engine).1 with
        | .ok v => v
        | .error _ => fallback.getD (.bool false) := by
  rw [run]
  dsimp only
  split
  · rfl
  · rw [bind_apply]
    cases (evaluate (Text.trim (source.getD "")) ctx engine).1 with
    | ok v => rfl
    | error fault => rfl

/-- With a sound cache, a check reports on the tree that the source parses to. -/
theorem check_fst (sound : engine.Sound) {source : String}
    (full : Text.isBlankText source = false) :
    (check source engine).1 =
      match Expr.parse engine.limits source with
      | .ok e =>
        { unknownFunctions := (sortedNames e.functions).filter fun name =>
            !engine.functions.contains name }
      | .error fault => { error := some (.source fault) } := by
  rw [check, full, if_neg Bool.false_ne_true, bind_apply, parse_apply]
  dsimp only
  rw [sound.getOrParse_fst]
  cases Expr.parse engine.limits source with
  | ok e => rfl
  | error fault => rfl

/-- **What does not look at its host runs alike on engines that are kin.** Two contexts may take
part: the source may not see the difference. -/
theorem Kin.run_congr (kin : Kin a b) {source : String} {c₁ c₂ : Context}
    (seen : ∀ base ∈ b.mentioned source, c₁.lookup? base = c₂.lookup? base)
    (alike : b.Calls source (Callable.Alike (fun _ _ => True) c₁ c₂))
    (fallback : Option Value) :
    (run (some source) c₁ fallback a).1 = (run (some source) c₂ fallback b).1 := by
  rw [run_fst, run_fst]
  dsimp only [Option.getD_some]
  rw [evaluate_fst kin.left, evaluate_fst kin.right, kin.limits, kin.functions]
  unfold Calls called at alike
  unfold mentioned at seen
  cases parsed : Expr.parse b.limits (Text.trim source) with
  | error fault => rfl
  | ok e =>
    rw [parsed] at seen alike
    dsimp only
    rw [Expr.run_congr seen alike (b := b.host) trivial]

/-- What calls timeless functions only is worth the same on engines that are kin. -/
theorem Calls.run_eq {source : String} (timeless : b.Calls source Callable.Timeless)
    (kin : Kin a b) (ctx : Context) (fallback : Option Value) :
    (run (some source) ctx fallback a).1 = (run (some source) ctx fallback b).1 :=
  kin.run_congr (fun _ _ => rfl)
    (timeless.mono fun _ timeless args a b _ => ⟨timeless args ctx a b, trivial⟩) fallback

/-- Kin of an engine with silent functions has silent functions. -/
theorem Kin.silent (h : Kin a b) (silent : b.Silent) : a.Silent := by
  unfold Silent
  rw [h.functions]
  exact silent

/-- Engines stay kin when time passes for one of them. -/
theorem Kin.wait (kin : Kin a b) (host : σ) : Kin { a with host } b :=
  ⟨kin.left, kin.right, kin.functions, kin.limits⟩

/-- What silent functions allow leaves an engine kin of those that it was kin of. -/
theorem Kin.after {α : Type} (kin : Kin a b) (silent : b.Silent) {m : Running σ α}
    (keeps : ∀ {R : Engine σ → Engine σ → Prop}, Simulation R → Respects R m) :
    Kin (m a).2 b := by
  have near := keeps (near_simulation (kin.silent silent))
  exact (near.steady (Agree.refl kin.left)).2.kin.trans kin

/-- With silent functions, a run leaves an engine kin of what it was kin of. -/
theorem Kin.run (kin : Kin a b) (silent : b.Silent) (source : String) (ctx : Context)
    (fallback : Option Value) : Kin (Engine.run (some source) ctx fallback a).2 b :=
  kin.after silent fun sim => sim.run (some source) ctx fallback

/-- Two engines that are kin of a third one. -/
structure Beside (base a b : Engine σ) : Prop where
  left : Kin a base
  right : Kin b base

/-- **What calls timeless functions only runs alike beside an engine with silent functions.** -/
theorem Calls.runRespects {base : Engine σ} (silent : base.Silent) {source : String}
    (timeless : base.Calls source Callable.Timeless) : RunRespects (Beside base) source := by
  intro ctx fallback a b beside
  refine ⟨?_, beside.left.run silent .., beside.right.run silent ..⟩
  rw [timeless.run_eq beside.left, timeless.run_eq beside.right]

end Engine
end SurveyLogic
