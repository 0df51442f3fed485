/-
# The sessions that come up

A session starts on an engine and then changes by what its user does: by setting answers, variables
or properties, by asking for the next step, and by using the engine that it shares. Here functions
are silent. Then, whatever happens,

* the survey stays the one that the session started with,
* the cache of the engine stays sound and its functions stay silent,
* what is derived from the answers is what deriving it anew would give, unless a function was
  registered or the host went on since.

The last rests on two facts: deriving reads survey, answers, variables and properties only
(`refresh_congr`), and deriving twice in a row on engines that agree gives the same
(`Respects.steady`).
-/

import SurveyLogic.Proofs.Engine.Silence
import SurveyLogic.Proofs.Session.Query

namespace SurveyLogic

variable {σ : Type}

namespace Operation

/-- An operation registers silent functions only. -/
def Silent : Operation σ → Prop
  | register _ f => f.Silent
  | _ => True

/-- Whether an operation registers a function. -/
def registers : Operation σ → Bool
  | register _ _ => true
  | _ => false

end Operation

namespace Engine

/-- The engines that come up when all registered functions are silent. -/
inductive Reachable : Engine σ → Prop where
  | start (config : EngineConfig) (clock : σ → Int) (host : σ) : Reachable (start config clock host)
  | perform {engine : Engine σ} (op : Operation σ) (silent : op.Silent)
      (reached : Reachable engine) : Reachable (op.perform engine).2
  /-- The host goes on by itself. -/
  | wait {engine : Engine σ} (host : σ) (reached : Reachable engine) :
      Reachable { engine with host }

/-- With silent functions, what registers nothing leaves an engine in agreement with itself. -/
theorem agree_perform {engine : Engine σ} (sound : engine.Sound) (silent : engine.Silent)
    {op : Operation σ} (h : op.registers = false) : Agree (op.perform engine).2 engine := by
  have keeps := (near_simulation silent).perform op fun name f same => by
    rw [same] at h
    exact nomatch h
  exact (keeps.steady (Agree.refl sound)).2

/-- An engine stays sound and silent as long as silent functions are registered. -/
theorem perform_sound_silent {engine : Engine σ} (sound : engine.Sound) (silent : engine.Silent)
    {op : Operation σ} (h : op.Silent) :
    (op.perform engine).2.Sound ∧ (op.perform engine).2.Silent := by
  cases registers : op.registers with
  | false =>
    have agree := agree_perform sound silent registers
    exact ⟨agree.left, agree.silent silent⟩
  | true =>
    cases op with
    | register name f => exact ⟨sound, silent.register name h⟩
    | _ => exact nomatch registers

/-- An engine that comes up has a sound cache and silent functions. -/
theorem Reachable.sound_silent {engine : Engine σ} (h : Reachable engine) :
    engine.Sound ∧ engine.Silent := by
  induction h with
  | start config clock host => exact ⟨start_sound config clock host, start_silent config clock host⟩
  | perform op silent reached ih => exact perform_sound_silent ih.1 ih.2 silent
  | wait host reached ih => exact ih

end Engine

namespace Session

section

variable {R : Engine σ → Engine σ → Prop} (sim : Engine.Simulation R)
include sim

open Engine (Respects)

/-- To judge a condition keeps what evaluating keeps. -/
theorem respects_holds (s : Session) (source : String) (fallback : Bool) :
    Respects R (s.holds source fallback) :=
  holds_respects (sim.runRespects source) fallback

/-- To derive a session keeps what evaluating keeps. -/
theorem respects_refresh (s : Session) : Respects R s.refresh :=
  refresh_respects fun source _ => sim.runRespects source

/-- To carry out an effect keeps what evaluating keeps. -/
theorem respects_act (s : Session) (effect : Effect) : Respects R (s.act effect) :=
  act_respects fun source _ => sim.runRespects source

/-- To judge triggers and carry them out keeps what evaluating keeps. -/
theorem respects_fired (s : Session) (ts : List Trigger) : Respects R (s.fired ts) :=
  fired_respects fun source _ => sim.runRespects source

/-- A step keeps what evaluating keeps. -/
theorem respects_nextStep (s : Session) : Respects R s.nextStep :=
  nextStep_respects fun source _ => sim.runRespects source

end

variable {engine base : Engine σ} {s t : Session}

/-- What is derived from the answers is what deriving it anew gives. -/
def Current (s : Session) (engine : Engine σ) : Prop :=
  (s.refresh engine).1 = s

/-- Calculating reads variables and properties, and no other part of a session. -/
theorem calculate_congr (vars : s.vars = t.vars) (properties : s.properties = t.properties)
    (cs : List CalculatedValue) (calculated all : Bindings Value) :
    (s.calculate cs calculated all : Running σ _) = t.calculate cs calculated all := by
  have same (values : Bindings Value) : s.context values = t.context values := by
    rw [context, context, vars, properties]
  induction cs generalizing calculated all with
  | nil => rfl
  | cons c cs ih =>
    rw [calculate, calculate, same]
    simp only [ih]

/-- Deriving reads survey, answers, variables and properties only. -/
theorem refresh_congr (survey : s.survey = t.survey) (values : s.values = t.values)
    (vars : s.vars = t.vars) (properties : s.properties = t.properties) :
    (s.refresh : Running σ _) = t.refresh := by
  rw [refresh, refresh, calculate_congr vars properties, survey, values, vars, properties]

/-- **A session is current once it is derived.** -/
theorem refresh_current (sound : engine.Sound) (silent : engine.Silent) (s : Session) :
    (s.refresh engine).1.Current (s.refresh engine).2 := by
  have keeps := respects_refresh (Engine.near_simulation silent) s
  have agree := (keeps.steady (Engine.Agree.refl sound)).2
  have again : ((s.refresh engine).1.refresh : Running σ _) = s.refresh :=
    refresh_congr rfl rfl rfl rfl
  rw [Current, again]
  exact (keeps.steady agree).1

/-- A session that is current is so on every engine that agrees. -/
theorem Current.of_agree (silent : base.Silent) (h : s.Current base)
    (agree : Engine.Agree engine base) : s.Current engine := by
  have keeps := respects_refresh (Engine.near_simulation silent) s
  rw [Current, (keeps.steady agree).1]
  exact h

/-- What the user of a session changes. -/
inductive Change where
  | answers (values : Bindings Value)
  | answer (name : String) (value : Value)
  | var (name : String) (value : Value)
  | properties (properties : Bindings Value)
  /-- Nothing: what is derived is derived anew. -/
  | nothing

/-- With a change. -/
def change (s : Session) : Change → Running σ Session
  | .answers values => s.setValues values
  | .answer name value => s.setValue name value
  | .var name value => s.setVariable name value
  | .properties properties => s.setProperties properties
  | .nothing => s.refresh

/-- A change derives a session of the same survey anew. -/
theorem change_eq_refresh (s : Session) (c : Change) :
    ∃ t : Session, t.survey = s.survey ∧ (s.change c : Running σ Session) = t.refresh := by
  cases c with
  | answers values => exact ⟨{ s with values }, rfl, rfl⟩
  | answer name value => exact ⟨{ s with values := Bindings.put s.values name value }, rfl, rfl⟩
  | var name value => exact ⟨{ s with vars := Bindings.put s.vars name value }, rfl, rfl⟩
  | properties properties => exact ⟨{ s with properties }, rfl, rfl⟩
  | nothing => exact ⟨s, rfl, rfl⟩

/-- The sessions of a survey that come up, each with the engine as it is then. The flag tells
whether no function was registered and the host did not go on by itself since the session was last
derived. -/
inductive Reachable (survey : Survey) : Bool → Session → Engine σ → Prop where
  | start {engine : Engine σ} (reached : engine.Reachable) :
      Reachable survey true (Session.start survey engine).1 (Session.start survey engine).2
  | change {current : Bool} {s : Session} {engine : Engine σ} (c : Change)
      (reached : Reachable survey current s engine) :
      Reachable survey true (s.change c engine).1 (s.change c engine).2
  | next {current : Bool} {s : Session} {engine : Engine σ}
      (reached : Reachable survey current s engine) :
      Reachable survey current (s.nextStep engine).1.2 (s.nextStep engine).2
  /-- The engine of the session is used, by a question about the session or otherwise. -/
  | use {current : Bool} {s : Session} {engine : Engine σ} (op : Operation σ) (silent : op.Silent)
      (reached : Reachable survey current s engine) :
      Reachable survey (current && !op.registers) s (op.perform engine).2
  | wait {current : Bool} {s : Session} {engine : Engine σ} (host : σ)
      (reached : Reachable survey current s engine) :
      Reachable survey false s { engine with host }

/-- A step asks the triggers, sets what they write, and derives the session if they do. -/
theorem nextStep_apply (s : Session) (engine : Engine σ) :
    s.nextStep engine =
      let asked := s.actions engine
      let step := (asked.1.findSome? Action.step?).getD .continue
      let writes := asked.1.filterMap Action.assignment?
      if writes.isEmpty then ((step, s), asked.2)
      else
        let derived := refresh { s with values := Bindings.putAll s.values writes } asked.2
        ((step, derived.1), derived.2) :=
  apply_ite (fun m : Running σ (Step × Session) => m (s.actions engine).2) _ _ _

/-- What holds of a session that comes up and of its engine. -/
structure Invariant (survey : Survey) (current : Bool) (s : Session) (engine : Engine σ) :
    Prop where
  survey : s.survey = survey
  sound : engine.Sound
  silent : engine.Silent
  current : current = true → s.Current engine

/-- Deriving a session of the survey establishes the invariant. -/
theorem Invariant.refresh {survey : Survey} {current : Bool}
    (h : Invariant survey current s engine) (same : t.survey = survey) :
    Invariant survey true (t.refresh engine).1 (t.refresh engine).2 := by
  have keeps := respects_refresh (Engine.near_simulation h.silent) t
  have agree := (keeps.steady (Engine.Agree.refl h.sound)).2
  exact ⟨same, agree.left, agree.silent h.silent, fun _ => refresh_current h.sound h.silent t⟩

/-- The invariant holds at the start. -/
theorem Invariant.start {survey : Survey} (sound : engine.Sound) (silent : engine.Silent) :
    Invariant survey true (Session.start survey engine).1 (Session.start survey engine).2 := by
  have fresh : Invariant survey false { survey } engine := ⟨rfl, sound, silent, nofun⟩
  exact fresh.refresh rfl

/-- A change keeps the invariant and makes the session current. -/
theorem Invariant.change {survey : Survey} {current : Bool}
    (h : Invariant survey current s engine) (c : Change) :
    Invariant survey true (s.change c engine).1 (s.change c engine).2 := by
  obtain ⟨t, same, derived⟩ := change_eq_refresh (σ := σ) s c
  rw [derived]
  exact h.refresh (same.trans h.survey)

/-- The invariant of a current session holds whatever the flag says. -/
theorem Invariant.of_current {survey : Survey} (h : Invariant survey true s engine)
    (current : Bool) : Invariant survey current s engine :=
  ⟨h.survey, h.sound, h.silent, fun _ => h.current rfl⟩

/-- The invariant holds on every engine that agrees. -/
theorem Invariant.agree {survey : Survey} {current : Bool} (h : Invariant survey current s base)
    (agree : Engine.Agree engine base) : Invariant survey current s engine :=
  ⟨h.survey, agree.left, agree.silent h.silent, fun up => (h.current up).of_agree h.silent agree⟩

/-- A step keeps the invariant. -/
theorem Invariant.nextStep {survey : Survey} {current : Bool}
    (h : Invariant survey current s engine) :
    Invariant survey current (s.nextStep engine).1.2 (s.nextStep engine).2 := by
  have keeps := respects_fired (Engine.near_simulation h.silent) s s.survey.triggers
  have agree := (keeps.steady (Engine.Agree.refl h.sound)).2
  have asked := h.agree agree
  rw [nextStep_apply]
  dsimp only
  split
  · exact asked
  · refine (Invariant.refresh asked ?_).of_current current
    exact h.survey

/-- **The invariant holds whenever a session comes up.** -/
theorem Reachable.invariant {survey : Survey} {current : Bool}
    (h : Reachable survey current s engine) : Invariant survey current s engine := by
  induction h with
  | start reached => exact Invariant.start reached.sound_silent.1 reached.sound_silent.2
  | change c reached ih => exact ih.change c
  | next reached ih => exact ih.nextStep
  | use op silent reached ih =>
    cases registers : op.registers with
    | false =>
      rw [Bool.not_false, Bool.and_true]
      exact ih.agree (Engine.agree_perform ih.sound ih.silent registers)
    | true =>
      obtain ⟨sound, silent⟩ := Engine.perform_sound_silent ih.sound ih.silent silent
      rw [Bool.not_true, Bool.and_false]
      exact ⟨ih.survey, sound, silent, nofun⟩
  | wait host reached ih => exact ⟨ih.survey, ih.sound, ih.silent, nofun⟩

end Session
end SurveyLogic
