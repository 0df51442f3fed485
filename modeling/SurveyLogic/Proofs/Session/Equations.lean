/-
# Calculated values as equations

A survey reads as a system of equations, one for each calculated value: what all values hold under
its name is what its expression is worth against all values. The program goes through the
expressions once, each against the values so far. If they stand in an order in which they can be
calculated (`Engine.Orders`), this solves the system: what a value was calculated from is not
written again, neither by itself nor by the ones after it (`calculate_frame`), and an expression
sees nothing else of the final values (`Engine.Kin.run_congr`).

| condition | without it |
| --- | --- |
| the names differ | a later value of the same name takes the place of the earlier one |
| no expression mentions its own name | `{n} + 'x'` is worth more against its own value |
| no expression mentions a later name | it saw the answer of that name, if there was one |
| functions are plain | `getvalue('later')` looks where no variable path shows |
-/

import SurveyLogic.Proofs.Session.History

namespace SurveyLogic

variable {σ : Type}

/-- Calculated values stand in an order in which they can be calculated. -/
structure Engine.Orders (engine : Engine σ) (cs : List CalculatedValue) : Prop where
  distinct : (cs.map (·.name)).Nodup
  own : ∀ c ∈ cs, c.name ∉ engine.mentioned c.expression
  forward : cs.Pairwise fun c later => later.name ∉ engine.mentioned c.expression

/-- Without the first one, values are still in order. -/
theorem Engine.Orders.tail {engine : Engine σ} {c : CalculatedValue} {cs : List CalculatedValue}
    (h : engine.Orders (c :: cs)) : engine.Orders cs where
  distinct := (List.nodup_cons.1 h.distinct).2
  own := fun later mem => h.own later (List.mem_cons_of_mem _ mem)
  forward := (List.pairwise_cons.1 h.forward).2

/-- What an expression mentions is not written when it is calculated or later. -/
theorem Engine.Orders.unwritten {engine : Engine σ} {c : CalculatedValue}
    {cs : List CalculatedValue} (h : engine.Orders (c :: cs)) {name : String}
    (mem : name ∈ engine.mentioned c.expression) : name ≠ c.name ∧ name ∉ cs.map (·.name) := by
  refine ⟨fun same => h.own c List.mem_cons_self (same ▸ mem), fun listed => ?_⟩
  obtain ⟨later, after, rfl⟩ := List.mem_map.1 listed
  exact (List.pairwise_cons.1 h.forward).1 later after mem

namespace Session

variable {survey : Survey} {base engine : Engine σ} {s : Session}

open Engine (Kin)

/-- A context finds under a name what the values hold under it. -/
theorem lookup?_context_congr {values others : Bindings Value} {name : String}
    (same : Bindings.get? values name = Bindings.get? others name) :
    (s.context values).lookup? name = (s.context others).lookup? name := by
  have layer : Context.find? (some values) name = Context.find? (some others) name := same
  rw [Context.lookup?, Context.lookup?, context, context, layer]

/-- **One pass in order solves the equations** of all values that are calculated in it. -/
theorem calculate_solves (silent : base.Silent) {cs : List CalculatedValue}
    (orders : base.Orders cs) (plain : ∀ c ∈ cs, base.Calls c.expression Callable.Plain)
    (kin : Kin engine base) (calculated all : Bindings Value) :
    let final := (s.calculate cs calculated all engine).1.2
    ∀ c ∈ cs, Bindings.get? final c.name =
      some (Engine.run (some c.expression) (s.context final) (some .null) base).1 := by
  induction cs generalizing calculated all engine with
  | nil => exact fun c mem => nomatch mem
  | cons c cs ih =>
    rw [List.forall_mem_cons] at plain
    rw [calculate_cons_apply]
    intro final
    have after := kin.run silent c.expression (s.context all) (some .null)
    rw [List.forall_mem_cons]
    refine ⟨?_, ih orders.tail plain.2 after _ _⟩
    have frame {name : String} (absent : name ∉ cs.map (·.name)) :
        Bindings.get? final name = Bindings.get? (Bindings.put all c.name _) name :=
      calculate_frame s cs absent _ _ _
    rw [frame (List.nodup_cons.1 orders.distinct).1, Bindings.get?_put, if_pos rfl]
    refine congrArg some (kin.run_congr (fun name mem => ?_) ?_ _)
    · -- What the value was calculated from is still there in the end.
      obtain ⟨other, absent⟩ := orders.unwritten mem
      refine lookup?_context_congr ?_
      rw [frame absent, Bindings.get?_put, if_neg other]
    · exact plain.1.mono fun f plain args a b _ => ⟨plain args _ _ a b, trivial⟩

/-- A blank expression is worth `null`. -/
theorem run_eq_null_of_blank (s : Session) {source : String} (blank : Text.isBlankText source)
    (engine : Engine σ) : (s.run (some source) engine).1 = .null := by
  have empty : Text.trim source = "" := (Text.trim_eq_empty_iff source).2 blank
  rw [run, Engine.run_fst]
  dsimp only [Option.getD_some]
  rw [empty]
  rfl

/-- An expression that fails is worth `null`. -/
theorem run_eq_null_of_error (s : Session) {source : String} {fault : EngineError}
    {engine : Engine σ}
    (fails : (Engine.evaluate (Text.trim source) (s.context s.allValues) engine).1 = .error fault) :
    (s.run (some source) engine).1 = .null := by
  rw [run, Engine.run_fst]
  dsimp only [Option.getD_some]
  rw [fails]
  split
  · rfl
  · rfl

/-- **Calculated values in order solve their equations.** Whenever a session comes up, all values
hold under the name of each calculated value what its expression is worth against all values, with
the variables and properties of the session, if the values stand in an order in which they can be
calculated and call plain functions only. What is blank or fails is worth `null` there as well. -/
theorem History.solved (silent : base.Silent) (orders : base.Orders survey.calculatedValues)
    (plain : ∀ c ∈ survey.calculatedValues, base.Calls c.expression Callable.Plain)
    (history : History survey base s engine) :
    ∀ c ∈ survey.calculatedValues,
      Bindings.get? s.allValues c.name = some (s.run (some c.expression) engine).1 ∧
        (Text.isBlankText c.expression = true ∨
            (∃ fault, (Engine.evaluate (Text.trim c.expression) (s.context s.allValues)
              engine).1 = .error fault) →
          Bindings.get? s.allValues c.name = some .null) := by
  have kin := history.kin silent
  have timeless : ∀ c ∈ survey.calculatedValues, base.Calls c.expression Callable.Timeless :=
    fun c mem => (plain c mem).mono fun _ => Callable.Plain.timeless
  have invariant := history.invariant silent (List.forall_mem_map.2 timeless)
  obtain ⟨-, all⟩ := (invariant.current rfl).eq_calculate
  rw [invariant.survey] at all
  intro c mem
  have solved : Bindings.get? s.allValues c.name = some (s.run (some c.expression) engine).1 := by
    have solves := calculate_solves (s := s) silent orders plain kin [] s.values c mem
    rw [← all] at solves
    rw [solves, run, (timeless c mem).run_eq kin]
  refine ⟨solved, ?_⟩
  rintro (blank | ⟨fault, fails⟩)
  · rw [solved, run_eq_null_of_blank s blank]
  · rw [solved, run_eq_null_of_error s fails]

/-- A survey with calculated values that build on each other, one that fails and a blank one. -/
def chained : Survey where
  calculatedValues := [
    { name := "a", expression := "{x} + '1'" },
    { name := "b", expression := "Concat({a}, {x}, {v})" },
    { name := "c", expression := "nosuch({b})" },
    { name := "d", expression := " " }]

/-- A session of that survey in which a calculated value bears the name of an answer. -/
def overwritten : Session × Engine Int :=
  let begun := start chained clockwork
  let first := begun.1.setValues [("b", .string "old"), ("x", .string "p")] begun.2
  first.1.setVariable "v" (.string "q") { first.2 with host := 5 }

/-- The hypotheses of `History.solved` are satisfiable: here the second value is what the final
values say, and the last two are `null`. -/
theorem History.solved_chained :
    clockwork.Silent ∧ clockwork.Orders chained.calculatedValues ∧
      (∀ c ∈ chained.calculatedValues, clockwork.Calls c.expression Callable.Plain) ∧
      History chained clockwork overwritten.1 overwritten.2 ∧
      Bindings.get? overwritten.1.allValues "b" =
        some (overwritten.1.run (some "Concat({a}, {x}, {v})") overwritten.2).1 ∧
      (Bindings.get? overwritten.1.allValues "b").map Value.toText = some "p1pq" ∧
      Bindings.get? overwritten.1.allValues "c" = some .null ∧
      Bindings.get? overwritten.1.allValues "d" = some .null := by
  have silent : clockwork.Silent := Engine.start_silent {} id 0
  have mentioned : chained.calculatedValues.map (clockwork.mentioned ·.expression) =
      [["x"], ["a", "x", "v"], ["b"], []] := by decide +kernel
  have called : (chained.calculatedValues.all fun c =>
      (clockwork.called c.expression).all fun name => name == "concat" || name == "nosuch") =
      true := by decide +kernel
  have orders : clockwork.Orders chained.calculatedValues := by
    simp only [chained, List.map_cons, List.map_nil, List.cons.injEq] at mentioned
    obtain ⟨a, b, c, d, -⟩ := mentioned
    constructor
    · simp [chained]
    · simp [chained, a, b, c, d]
    · simp [chained, a, b, c, d]
  have plain : ∀ c ∈ chained.calculatedValues, clockwork.Calls c.expression Callable.Plain := by
    intro c mem name used f found
    have only := List.all_eq_true.1 (List.all_eq_true.1 called c mem) name used
    rw [Bool.or_eq_true, beq_iff_eq, beq_iff_eq] at only
    rcases only with rfl | rfl
    · exact library_plain found (by decide +kernel) (by decide +kernel)
    · exact library_plain found (by decide +kernel) (by decide +kernel)
  have history : History chained clockwork overwritten.1 overwritten.2 :=
    (((History.start (.refl (Engine.start_sound {} id 0))).change (.answers _)).wait 5).change
      (.var "v" (.string "q"))
  have solved := History.solved silent orders plain history
  simp only [chained, List.forall_mem_cons] at solved
  obtain ⟨-, ⟨joined, -⟩, ⟨-, failing⟩, ⟨-, blank⟩, -⟩ := solved
  refine ⟨silent, orders, plain, history, joined, by decide +kernel, ?_, ?_⟩
  · refine failing (.inr ?_)
    have fails : (Engine.evaluate (Text.trim "nosuch({b})")
        (overwritten.1.context overwritten.1.allValues) overwritten.2).1.isOk = false := by
      decide +kernel
    generalize (Engine.evaluate _ _ overwritten.2).1 = ran at fails ⊢
    cases ran with
    | ok v => exact nomatch fails
    | error fault => exact ⟨fault, rfl⟩
  · exact blank (.inl (by decide +kernel))

end Session
end SurveyLogic
