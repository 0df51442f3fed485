/-
# The next step of a session

The triggers of a survey take effect all at once: each is judged, and each value that it carries is
read, in the state before. The program judges and reads them one after the other with an engine that
it hands on. That this makes no difference is the point where functions have to be silent
(`fired_eq`); the rest is reading off what the program then does with the list.

| trigger | decides | writes |
| --- | --- | --- |
| `complete`, `skip` | the step, if it is the first to do so | |
| `setvalue` | | its value |
| `copyvalue` | | what all values had under the source |
| `runexpression` with a target | | what the expression was worth |
| `runexpression` without one, `visible` | | |

Of several writes to one name the last counts (`Bindings.get?_putAll`).
-/

import SurveyLogic.Proofs.Session.Reachable

namespace SurveyLogic

variable {σ : Type}

/-- The step that an effect decides, if it does. -/
def Effect.step? : Effect → Option Step
  | complete => some .complete
  | skip target => some (.skipTo target)
  | _ => none

namespace Session

/-- The answer that an effect sets, if it does, with everything read in one state. -/
def write? (s : Session) (engine : Engine σ) : Effect → Option (String × Value)
  | .setValue name value => some (name, value)
  | .copyValue name source => some (name, (Bindings.get? s.allValues source).getD .null)
  | .runExpression source (some name) => some (name, (s.run (some source) engine).1)
  | _ => none

/-- The triggers whose conditions hold, in the order of declaration. -/
def triggered (s : Session) (engine : Engine σ) : List Trigger :=
  s.survey.triggers.filter fun t => (s.holds t.expression false engine).1

/-- The answers that these triggers set, in the order of declaration. -/
def writes (s : Session) (engine : Engine σ) : List (String × Value) :=
  (s.triggered engine).filterMap fun t => s.write? engine t.effect

/-- To run an expression is to set its value, if it has a target. -/
theorem act_runExpression (s : Session) (engine : Engine σ) (source : String)
    (name : Option String) :
    s.act (.runExpression source name) engine =
      let ran := s.run (some source) engine
      (.runExpression name ran.1, ran.2) := by
  rw [act, Engine.bind_apply]
  rfl

/-- What an effect has decided once it is carried out is what it says. -/
theorem step?_act (s : Session) (engine : Engine σ) (effect : Effect) :
    (s.act effect engine).1.step? = effect.step? := by
  cases effect with
  | runExpression source name =>
    rw [act_runExpression]
    rfl
  | _ => rfl

/-- An effect that is carried out sets the answer that it sets with all read in this state. -/
theorem assignment?_act (s : Session) (engine : Engine σ) (effect : Effect) :
    (s.act effect engine).1.assignment? = s.write? engine effect := by
  cases effect with
  | runExpression source name =>
    rw [act_runExpression]
    cases name with
    | some name => rfl
    | none => rfl
  | _ => rfl

/-- The first trigger is judged, acts if it holds, and the others follow on the engine left. -/
theorem fired_cons_apply (s : Session) (t : Trigger) (ts : List Trigger) (engine : Engine σ) :
    s.fired (t :: ts) engine =
      let judged := s.holds t.expression false engine
      if judged.1 then
        let asked := s.act t.effect judged.2
        let rest := s.fired ts asked.2
        (asked.1 :: rest.1, rest.2)
      else s.fired ts judged.2 := by
  rw [fired, Engine.bind_apply]
  dsimp only
  by_cases h : (s.holds t.expression false engine).1 = true
  · rw [if_pos h, if_pos h, Engine.bind_apply, Engine.bind_apply]
    rfl
  · rw [if_neg h, if_neg h]

variable {engine base : Engine σ} {s : Session}

/-- **Triggers are judged and read in the state before.** -/
theorem fired_eq (silent : base.Silent) (agree : Engine.Agree engine base) (ts : List Trigger) :
    (s.fired ts engine).1 =
      (ts.filter fun t => (s.holds t.expression false base).1).map fun t =>
        (s.act t.effect base).1 := by
  have sim := Engine.near_simulation silent
  induction ts generalizing engine with
  | nil => rfl
  | cons t ts ih =>
    obtain ⟨holds, judged⟩ := (respects_holds sim s t.expression false).steady agree
    obtain ⟨acts, asked⟩ := (respects_act sim s t.effect).steady judged
    rw [fired_cons_apply]
    dsimp only
    rw [holds]
    by_cases h : (s.holds t.expression false base).1 = true
    · rw [if_pos h, List.filter_cons_of_pos (by exact h), List.map_cons, acts, ih asked]
    · rw [if_neg h, List.filter_cons_of_neg (by exact h), ih judged]

/-- The step that the actions decide is that of the first trigger that decides one. -/
theorem findSome?_actions (sound : engine.Sound) (silent : engine.Silent) (s : Session) :
    (s.actions engine).1.findSome? Action.step? =
      (s.triggered engine).findSome? fun t => t.effect.step? := by
  rw [actions, fired_eq silent (Engine.Agree.refl sound), List.findSome?_map, triggered]
  simp only [Function.comp_def, step?_act]

/-- The answers that the actions set are those of the triggers, in order. -/
theorem filterMap_actions (sound : engine.Sound) (silent : engine.Silent) (s : Session) :
    (s.actions engine).1.filterMap Action.assignment? = s.writes engine := by
  rw [actions, fired_eq silent (Engine.Agree.refl sound), List.filterMap_map, writes, triggered]
  simp only [Function.comp_def, assignment?_act]

/-- A step sets what the triggers write, derives the values if there is any, and decides. -/
theorem nextStep_eq (sound : engine.Sound) (silent : engine.Silent) (s : Session) :
    s.nextStep engine =
      let after := (s.actions engine).2
      let step := ((s.triggered engine).findSome? fun t => t.effect.step?).getD .continue
      if (s.writes engine).isEmpty then ((step, s), after)
      else
        let derived := refresh { s with values := Bindings.putAll s.values (s.writes engine) } after
        ((step, derived.1), derived.2) := by
  rw [nextStep_apply]
  dsimp only
  rw [findSome?_actions sound silent, filterMap_actions sound silent]

/-- **The next step is one simultaneous update.** In a session that comes up, the step is that of
the first trigger that decides one among those whose conditions hold in the state before, wherever
triggers that set answers stand, and the survey goes on if there is none. Under each name there is
afterwards what the last such trigger aimed at it carries, read in the state before, and otherwise
what there was; survey, variables and properties stay. Without a trigger that sets an answer the
session stays as it is, and asking again gives the same.

What is derived is then what deriving it anew from these answers gives, if a trigger sets one or if
it was so before. It was, unless a function was registered or the host went on since the session was
started or last changed; a step that sets no answer derives nothing. -/
theorem nextStep_simultaneous {survey : Survey} {current : Bool}
    (reached : Reachable survey current s engine) :
    let step := (s.nextStep engine).1.1
    let after := (s.nextStep engine).1.2
    let used := (s.nextStep engine).2
    step = ((s.triggered engine).findSome? fun t => t.effect.step?).getD .continue ∧
      (∀ name, Bindings.get? after.values name =
        (((s.writes engine).filter (·.1 = name)).getLast?.map (·.2)).or
          (Bindings.get? s.values name)) ∧
      after.survey = survey ∧ after.vars = s.vars ∧ after.properties = s.properties ∧
      (current = true ∨ s.Current engine ∨ s.writes engine ≠ [] → after.Current used) ∧
      (s.writes engine = [] → after = s ∧ (after.nextStep used).1 = (step, s)) := by
  obtain ⟨same, sound, silent, up⟩ := reached.invariant
  have sim := Engine.near_simulation silent
  obtain ⟨-, asked⟩ :=
    (respects_fired sim s s.survey.triggers).steady (Engine.Agree.refl sound)
  -- The engine that the triggers leave agrees with the one before, so the step can be taken
  -- again.
  have again := ((respects_nextStep sim s).steady asked).1
  rw [nextStep_eq sound silent] at again ⊢
  dsimp only at again ⊢
  cases none : s.writes engine with
  | nil =>
    rw [none, List.isEmpty_nil, if_pos rfl] at again
    rw [List.isEmpty_nil, if_pos rfl]
    refine ⟨rfl, fun name => rfl, same, rfl, rfl, ?_, fun _ => ⟨rfl, again⟩⟩
    rintro (now | derived | written)
    · exact (up now).of_agree silent asked
    · exact derived.of_agree silent asked
    · exact absurd rfl written
  | cons entry rest =>
    rw [List.isEmpty_cons, if_neg Bool.false_ne_true]
    refine ⟨rfl, fun name => ?_, same, rfl, rfl, fun _ => ?_, nofun⟩
    · exact Bindings.get?_putAll s.values (entry :: rest) name
    · exact refresh_current asked.left (asked.silent silent) _

/-- A survey whose triggers write what others read, and one name twice. -/
def relay : Survey where
  calculatedValues := [{ name := "c", expression := "{a}" }]
  triggers := [
    { expression := "true", effect := .setValue "a" (.string "new") },
    { expression := "true", effect := .setValue "d" (.string "first") },
    { expression := "{a} = 'old'", effect := .skip "end" },
    { expression := "true", effect := .copyValue "b" "c" },
    { expression := "true", effect := .runExpression "{a} + '!'" (some "d") },
    { expression := "true", effect := .runExpression "{a}" none },
    { expression := "true", effect := .complete }]

/-- A session of that survey with an answer, and its engine. -/
def relayed : Session × Engine Unit :=
  let begun := start relay (Engine.start {} (fun _ => 0) ())
  begun.1.setValue "a" (.string "old") begun.2

/-- A survey that calculates with a function that the library lacks. -/
def guestbook : Survey where
  calculatedValues := [{ name := "c", expression := "greet()" }]

/-- A session of that survey from before the function was registered, and its engine since. -/
def greeted : Session × Engine Unit :=
  let begun := start guestbook (Engine.start {} (fun _ => 0) ())
  let greet := Callable.ofFunction fun _ _ => .ok (.string "hello")
  (begun.1, ((Operation.register "greet" greet).perform begun.2).2)

/-- The session comes up, with its function registered since it was derived. -/
theorem reachable_greeted : Reachable guestbook false greeted.1 greeted.2 :=
  (Reachable.start (.start {} (fun _ => 0) ())).use (.register "greet" _)
    (Callable.ofFunction_silent _)

/-- The hypothesis of `nextStep_simultaneous` is satisfiable. Here the third trigger sees the answer
that the first one replaces, the fourth copies the value calculated from it, and the fifth replaces
what the second sets with an expression of it. A session without triggers stays as it is. -/
theorem nextStep_simultaneous_relayed :
    (Reachable relay true relayed.1 relayed.2 ∧
      (relayed.1.nextStep relayed.2).1.1 = .skipTo "end" ∧
      ["a", "b", "d", "e"].map (fun name =>
          (Bindings.get? (relayed.1.nextStep relayed.2).1.2.values name).map Value.toText) =
        [some "new", some "old", some "old!", none] ∧
      (relayed.1.nextStep relayed.2).1.2.Current (relayed.1.nextStep relayed.2).2) ∧
    Reachable guestbook false greeted.1 greeted.2 ∧
      (greeted.1.nextStep greeted.2).1.2 = greeted.1 := by
  have reached : Reachable relay true relayed.1 relayed.2 :=
    (Reachable.start (.start {} (fun _ => 0) ())).change (.answer "a" (.string "old"))
  obtain ⟨step, values, -, -, -, current, -⟩ := nextStep_simultaneous reached
  obtain ⟨-, -, -, -, -, -, idle⟩ := nextStep_simultaneous reachable_greeted
  refine ⟨⟨reached, ?_, ?_, current (.inl rfl)⟩, reachable_greeted, (idle rfl).1⟩
  · rw [step]
    decide +kernel
  · simp only [values]
    decide +kernel

/-- Without a trigger that sets an answer, what is calculated may stay behind: it is blank in the
session after the step, where deriving it anew finds the greeting. -/
theorem not_current_nextStep_greeted :
    Reachable guestbook false greeted.1 greeted.2 ∧ greeted.1.writes greeted.2 = [] ∧
      let after := (greeted.1.nextStep greeted.2).1.2
      let used := (greeted.1.nextStep greeted.2).2
      (Bindings.get? after.calculated "c").map Value.toText = some "" ∧
        (Bindings.get? (after.refresh used).1.calculated "c").map Value.toText = some "hello" ∧
        ¬ after.Current used := by
  refine ⟨reachable_greeted, rfl, ?_⟩
  intro after used
  have behind : (Bindings.get? after.calculated "c").map Value.toText = some "" := by
    decide +kernel
  have ahead :
      (Bindings.get? (after.refresh used).1.calculated "c").map Value.toText = some "hello" := by
    decide +kernel
  refine ⟨behind, ahead, fun current => ?_⟩
  rw [current, behind] at ahead
  exact absurd ahead (by decide)

end Session
end SurveyLogic
