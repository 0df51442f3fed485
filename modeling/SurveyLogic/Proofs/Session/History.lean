/-
# The past of a session does not show

While no function is registered, a session is determined by its survey, answers, variables and
properties. What is derived from them is up to date at any time, and two sessions of a survey that
came to the same answers, variables and properties on different ways, on different engines and at
different times, are the same and answer each query alike.

Time is where functions have to be restricted: those that the calculated values call, and those that
the query calls, must be timeless. What they are worth is then the same on all engines that are kin,
so that what was derived long ago is what would be derived now (`Current.of_kin`).
-/

import SurveyLogic.Proofs.Engine.Outcome
import SurveyLogic.Proofs.Session.Derived
import SurveyLogic.Proofs.Session.NextStep

namespace SurveyLogic
namespace Session

variable {σ α : Type} {survey : Survey} {base a b engine : Engine σ} {s t : Session}

open Engine (Kin Beside)

/-- The sessions of a survey that come up while no function is registered, each with the engine as
it is then. Functions and limits are those of `base`. The engine may be in use before and
otherwise. -/
inductive History (survey : Survey) (base : Engine σ) : Session → Engine σ → Prop where
  | start {engine : Engine σ} (kin : Kin engine base) :
      History survey base (Session.start survey engine).1 (Session.start survey engine).2
  | change {s : Session} {engine : Engine σ} (c : Change) (past : History survey base s engine) :
      History survey base (s.change c engine).1 (s.change c engine).2
  | next {s : Session} {engine : Engine σ} (past : History survey base s engine) :
      History survey base (s.nextStep engine).1.2 (s.nextStep engine).2
  | use {s : Session} {engine : Engine σ} (op : Operation σ) (unregistered : op.registers = false)
      (past : History survey base s engine) : History survey base s (op.perform engine).2
  /-- The host goes on by itself. -/
  | wait {s : Session} {engine : Engine σ} (host : σ) (past : History survey base s engine) :
      History survey base s { engine with host }

/-- What is up to date on one engine is up to date on all that are kin. -/
theorem Current.of_kin (silent : base.Silent)
    (timeless : ∀ source ∈ s.survey.calculations, base.Calls source Callable.Timeless)
    (h : s.Current a) (left : Kin a base) (right : Kin b base) : s.Current b := by
  have keeps : Engine.Respects (Beside base) s.refresh :=
    refresh_respects fun source mem => (timeless source mem).runRespects silent
  rw [Current, ← (keeps a b ⟨left, right⟩).1]
  exact h

/-- The engine of a session stays kin of the one that it started with. -/
theorem History.kin (silent : base.Silent) (h : History survey base s engine) :
    Kin engine base := by
  induction h with
  | start kin => exact kin.after silent fun sim => respects_refresh sim _
  | @change s engine c past ih =>
    obtain ⟨t, -, derived⟩ := change_eq_refresh (σ := σ) s c
    rw [derived]
    exact ih.after silent fun sim => respects_refresh sim t
  | @next s engine past ih => exact ih.after silent fun sim => respects_nextStep sim s
  | use op unregistered past ih =>
    exact (Engine.agree_perform ih.left (ih.silent silent) unregistered).kin.trans ih
  | wait host past ih => exact ih.wait host

/-- **What is derived never gets stale**, as long as it is derived by timeless functions. -/
theorem History.invariant (silent : base.Silent)
    (timeless : ∀ source ∈ survey.calculations, base.Calls source Callable.Timeless)
    (h : History survey base s engine) : Invariant survey true s engine := by
  induction h with
  | start kin => exact Invariant.start kin.left (kin.silent silent)
  | change c past ih => exact ih.change c
  | next past ih => exact ih.nextStep
  | use op unregistered past ih =>
    exact ih.agree (Engine.agree_perform ih.sound ih.silent unregistered)
  | @wait s engine host past ih =>
    have kin := past.kin silent
    refine ⟨ih.survey, ih.sound, ih.silent, fun _ => ?_⟩
    rw [← ih.survey] at timeless
    exact (ih.current rfl).of_kin silent timeless kin (kin.wait host)

/-- **A session is determined by its answers, variables and properties.** Whenever a session comes
up, deriving its values anew changes nothing. Under each name all values hold what was calculated,
which is something for just the names of calculated values, and otherwise the answer; what is handed
in holds what was calculated, if a calculated value of that name is to be handed in, and otherwise
the answer. Any other session of the survey with the same answers, variables and properties is the
same one, whatever happened to the two, and gives each query the same answer as long as what the
query runs calls timeless functions only. -/
theorem History.determined (silent : base.Silent)
    (timeless : ∀ source ∈ survey.calculations, base.Calls source Callable.Timeless)
    (history : History survey base s engine) :
    (s.refresh engine).1 = s ∧
      (∀ name, Bindings.get? s.allValues name =
        (Bindings.get? s.calculated name).or (Bindings.get? s.values name)) ∧
      (∀ name, Bindings.has s.calculated name ↔ name ∈ survey.calculatedNames) ∧
      (∀ name, Bindings.get? s.result name =
        if survey.handsIn name then Bindings.get? s.calculated name
        else Bindings.get? s.values name) ∧
      ∀ t other, History survey base t other →
        t.values = s.values → t.vars = s.vars → t.properties = s.properties →
          t = s ∧ ∀ (β : Type) (q : Query β),
            (∀ source ∈ q.sources survey, base.Calls source Callable.Timeless) →
              (t.ask q other).1 = (s.ask q engine).1 := by
  have kin := history.kin silent
  have invariant := history.invariant silent timeless
  have current := invariant.current rfl
  refine ⟨current, current.overlaid, ?_, ?_, ?_⟩
  · intro name
    rw [current.has_calculated, invariant.survey]
  · intro name
    rw [current.get?_result_eq, invariant.survey]
  · intro t other past values vars properties
    have kin' := past.kin silent
    have invariant' := past.invariant silent timeless
    -- The other session is up to date on its own engine, and so on this one.
    have current' : t.Current engine := by
      refine (invariant'.current rfl).of_kin silent ?_ kin' kin
      rw [invariant'.survey]
      exact timeless
    obtain rfl : t = s := eq_of_current current' current
      (invariant'.survey.trans invariant.survey.symm) values vars properties
    refine ⟨rfl, fun β q called => ?_⟩
    have keeps : Engine.Respects (Beside base) (t.ask q) := by
      refine ask_respects fun source mem => (called source ?_).runRespects silent
      rw [invariant.survey] at mem
      exact mem
    exact (keeps other engine ⟨kin', kin⟩).1

/-- A survey with calculated values that read themselves, share a name, and bear the names of
answers. -/
def tangled : Survey where
  calculatedValues := [
    { name := "n", expression := "{n} + 'x'" },
    { name := "n", expression := "Concat({n}, {m})", includeInResult := true },
    { name := "m", expression := "{n}" }]
  triggers := [{ expression := "{v} = 'go'", effect := .setValue "n" (.string "a") }]

/-- An engine whose host is a clock. -/
def clockwork : Engine Int :=
  Engine.start {} id 0

/-- A session of that survey that is given two answers and a variable. -/
def answered : Session × Engine Int :=
  let begun := start tangled clockwork
  let named := begun.1.setVariable "v" (.string "go") begun.2
  let first := named.1.setValue "n" (.string "a") named.2
  first.1.setValue "m" (.string "b") first.2

/-- A session of that survey some time later, to be given one of the answers by the trigger. -/
def waiting : Session × Engine Int :=
  let begun := start tangled clockwork
  let first := begun.1.setValue "m" (.string "b") begun.2
  first.1.setVariable "v" (.string "go") { first.2 with host := 5 }

/-- The hypotheses of `History.determined` are satisfiable: here two sessions come to the same
answers, and nothing has piled up in the values that read themselves. -/
theorem History.determined_tangled :
    let next := waiting.1.nextStep waiting.2
    clockwork.Silent ∧
      (∀ source ∈ tangled.calculations, clockwork.Calls source Callable.Timeless) ∧
      History tangled clockwork answered.1 answered.2 ∧
      History tangled clockwork next.1.2 next.2 ∧
      next.1.2 = answered.1 ∧
      (next.1.2.ask .step next.2).1 = (answered.1.ask .step answered.2).1 ∧
      (Bindings.get? next.1.2.allValues "n").map Value.toText = some "axb" ∧
      (Bindings.get? next.1.2.result "m").map Value.toText = some "b" := by
  intro next
  have silent : clockwork.Silent := Engine.start_silent {} id 0
  have kin : Kin clockwork clockwork := .refl (Engine.start_sound {} id 0)
  have concat : ((tangled.triggerSources ++ tangled.calculations).all fun source =>
      (clockwork.called source).all (· == "concat")) = true := by decide +kernel
  have timeless : ∀ source ∈ tangled.triggerSources ++ tangled.calculations,
      clockwork.Calls source Callable.Timeless := by
    intro source mem name called f found
    have only := List.all_eq_true.1 (List.all_eq_true.1 concat source mem) name called
    refine library_timeless found ?_
    rw [eq_of_beq only]
    decide +kernel
  have begun : History tangled clockwork _ _ := .start kin
  have one : History tangled clockwork answered.1 answered.2 :=
    ((begun.change (.var "v" (.string "go"))).change (.answer "n" (.string "a"))).change
      (.answer "m" (.string "b"))
  have two : History tangled clockwork next.1.2 next.2 :=
    (((begun.change (.answer "m" (.string "b"))).wait 5).change (.var "v" (.string "go"))).next
  have fires : (waiting.1.holds "{v} = 'go'" false waiting.2).1 = true := by decide +kernel
  have asked : (waiting.1.actions waiting.2).1 = [.setValue "n" (.string "a")] := by
    change (waiting.1.fired [{ expression := "{v} = 'go'", effect := _ }] waiting.2).1 = _
    rw [fired_cons_apply]
    dsimp only
    rw [if_pos fires]
    rfl
  have inputs : next.1.2.values = answered.1.values ∧ next.1.2.vars = answered.1.vars ∧
      next.1.2.properties = answered.1.properties := by
    dsimp only [next]
    rw [nextStep_apply]
    dsimp only
    rw [asked]
    exact ⟨rfl, rfl, rfl⟩
  obtain ⟨-, all, -, result, same⟩ :=
    History.determined silent (fun source mem => timeless source (List.mem_append_right _ mem)) one
  obtain ⟨equal, alike⟩ := same _ _ two inputs.1 inputs.2.1 inputs.2.2
  refine ⟨silent, fun source mem => timeless source (List.mem_append_right _ mem), one, two, equal,
    alike _ .step timeless, ?_, ?_⟩
  · rw [equal, all]
    decide +kernel
  · rw [equal, result]
    decide +kernel

end Session
end SurveyLogic
