/-
# What is derived from the answers

Each calculated value is written into two maps at once, one that starts without entries and one
that starts with the answers. So after any number of them the second is the first laid over the
answers (`calculate_overlaid`), a name that none of them bears keeps what it had
(`calculate_frame`), and the first holds the names that they bear and no others
(`has_calculate`). None of this depends on what the expressions are worth.
-/

import SurveyLogic.Proofs.Session.Reachable

namespace SurveyLogic

variable {σ : Type}

/-- The names of the calculated values. -/
def Survey.calculatedNames (s : Survey) : List String :=
  s.calculatedValues.map (·.name)

/-- Whether a calculated value with a name is handed in with the answers. -/
def Survey.handsIn (s : Survey) (name : String) : Bool :=
  s.calculatedValues.any fun c => c.name == name && c.includeInResult

namespace Session

/-- One map is the calculated values laid over the answers. -/
def Overlaid (values calculated all : Bindings Value) : Prop :=
  ∀ name, Bindings.get? all name = (Bindings.get? calculated name).or (Bindings.get? values name)

/-- A value that is put in both maps keeps one laid over the answers. -/
theorem Overlaid.put {values calculated all : Bindings Value} (h : Overlaid values calculated all)
    (name : String) (v : Value) :
    Overlaid values (Bindings.put calculated name v) (Bindings.put all name v) := by
  intro other
  rw [Bindings.get?_put, Bindings.get?_put]
  by_cases here : other = name
  · rw [if_pos here, if_pos here]
    rfl
  · rw [if_neg here, if_neg here]
    exact h other

section

variable (s : Session) (cs : List CalculatedValue)

/-- The first value is calculated and put in both maps, and the others see it. -/
theorem calculate_cons_apply (c : CalculatedValue) (calculated all : Bindings Value)
    (engine : Engine σ) :
    s.calculate (c :: cs) calculated all engine =
      let ran := Engine.run (some c.expression) (s.context all) (some .null) engine
      s.calculate cs (Bindings.put calculated c.name ran.1) (Bindings.put all c.name ran.1)
        ran.2 := by
  rw [calculate, Engine.bind_apply]

/-- Calculating keeps all values laid over the answers. -/
theorem calculate_overlaid {values calculated all : Bindings Value}
    (h : Overlaid values calculated all) (engine : Engine σ) :
    let derived := (s.calculate cs calculated all engine).1
    Overlaid values derived.1 derived.2 := by
  induction cs generalizing calculated all engine with
  | nil => exact h
  | cons c cs ih =>
    rw [calculate_cons_apply]
    exact ih (h.put c.name _) _

/-- Calculating changes no name but those of calculated values. -/
theorem calculate_frame {name : String} (absent : name ∉ cs.map (·.name))
    (calculated all : Bindings Value) (engine : Engine σ) :
    Bindings.get? (s.calculate cs calculated all engine).1.2 name = Bindings.get? all name := by
  induction cs generalizing calculated all engine with
  | nil => rfl
  | cons c cs ih =>
    rw [List.map_cons, List.mem_cons, not_or] at absent
    rw [calculate_cons_apply]
    dsimp only
    rw [ih absent.2, Bindings.get?_put, if_neg absent.1]

/-- What is calculated has just the names of the calculated values, besides those before. -/
theorem has_calculate (calculated all : Bindings Value) (engine : Engine σ) (name : String) :
    Bindings.has (s.calculate cs calculated all engine).1.1 name ↔
      name ∈ cs.map (·.name) ∨ Bindings.has calculated name := by
  induction cs generalizing calculated all engine with
  | nil =>
    rw [List.map_nil, List.mem_nil_iff, false_or]
    rfl
  | cons c cs ih =>
    rw [calculate_cons_apply]
    dsimp only
    rw [ih, List.map_cons, List.mem_cons, Bindings.has, Bindings.get?_put]
    by_cases here : name = c.name
    · simp [here]
    · simp [here, Bindings.has]

/-- What is handed in: the calculated value, if one of that name is, and otherwise the answer. -/
theorem get?_result (name : String) :
    Bindings.get? s.result name =
      if s.survey.handsIn name then
        (Bindings.get? s.calculated name).or (Bindings.get? s.values name)
      else Bindings.get? s.values name := by
  have listed (v : Value) :
      (name, v) ∈ (s.survey.calculatedValues.filter (·.includeInResult)).filterMap (fun c =>
        (Bindings.get? s.calculated c.name).map fun v => (c.name, v)) ↔
      s.survey.handsIn name = true ∧ Bindings.get? s.calculated name = some v := by
    simp only [List.mem_filterMap, List.mem_filter, Option.map_eq_some_iff, Prod.mk.injEq,
      Survey.handsIn, List.any_eq_true, Bool.and_eq_true, beq_iff_eq]
    constructor
    · rintro ⟨c, ⟨mem, included⟩, value, found, rfl, rfl⟩
      exact ⟨⟨c, mem, rfl, included⟩, found⟩
    · rintro ⟨⟨c, mem, rfl, included⟩, found⟩
      exact ⟨c, ⟨mem, included⟩, v, found, rfl, rfl⟩
  have unlisted (h : ∀ v, ¬(s.survey.handsIn name = true ∧
      Bindings.get? s.calculated name = some v)) :
      Bindings.get? s.result name = Bindings.get? s.values name := by
    refine Bindings.get?_putAll_of_not_mem s.values fun named => ?_
    obtain ⟨⟨key, v⟩, mem, rfl⟩ := List.mem_map.1 named
    exact h v ((listed v).1 mem)
  by_cases handed : s.survey.handsIn name = true
  · rw [if_pos handed]
    cases found : Bindings.get? s.calculated name with
    | none => exact unlisted fun v h => nomatch found.symm.trans h.2
    | some v =>
      refine Bindings.get?_putAll_of_mem s.values ((listed v).2 ⟨handed, found⟩) fun w mem => ?_
      exact Option.some.inj (((listed w).1 mem).2.symm.trans found)
  · rw [if_neg handed]
    exact unlisted fun v h => handed h.1

end

variable {engine : Engine σ} {s t : Session}

/-- An up-to-date session is what deriving it gives. -/
theorem Current.eq_calculate (h : s.Current engine) :
    let derived := (s.calculate s.survey.calculatedValues [] s.values engine).1
    s.calculated = derived.1 ∧ s.allValues = derived.2 :=
  ⟨congrArg calculated h.symm, congrArg allValues h.symm⟩

/-- In an up-to-date session the calculated values are laid over the answers. -/
theorem Current.overlaid (h : s.Current engine) : Overlaid s.values s.calculated s.allValues := by
  obtain ⟨calculated, all⟩ := h.eq_calculate
  rw [calculated, all]
  exact calculate_overlaid s _ (fun _ => rfl) engine

/-- In an up-to-date session just the calculated values have been calculated. -/
theorem Current.has_calculated (h : s.Current engine) (name : String) :
    Bindings.has s.calculated name ↔ name ∈ s.survey.calculatedNames := by
  rw [h.eq_calculate.1, has_calculate, Survey.calculatedNames]
  simp [Bindings.has, Bindings.get?]

/-- An up-to-date session hands in what it has calculated, where it is to. -/
theorem Current.get?_result_eq (h : s.Current engine) (name : String) :
    Bindings.get? s.result name =
      if s.survey.handsIn name then Bindings.get? s.calculated name
      else Bindings.get? s.values name := by
  rw [get?_result]
  by_cases handed : s.survey.handsIn name = true
  · obtain ⟨c, mem, same⟩ := List.any_eq_true.1 handed
    rw [Bool.and_eq_true, beq_iff_eq] at same
    have named : name ∈ s.survey.calculatedNames := List.mem_map.2 ⟨c, mem, same.1⟩
    obtain ⟨v, found⟩ := Option.isSome_iff_exists.1 ((h.has_calculated name).2 named)
    rw [if_pos handed, if_pos handed, found]
    rfl
  · rw [if_neg handed, if_neg handed]

/-- Two sessions that are up to date are the same if nothing but what is derived could differ. -/
theorem eq_of_current (ht : t.Current engine) (hs : s.Current engine) (survey : t.survey = s.survey)
    (values : t.values = s.values) (vars : t.vars = s.vars)
    (properties : t.properties = s.properties) : t = s := by
  have same : (t.refresh : Running σ Session) = s.refresh :=
    refresh_congr survey values vars properties
  rw [← ht, ← hs, same]

end Session
end SurveyLogic
