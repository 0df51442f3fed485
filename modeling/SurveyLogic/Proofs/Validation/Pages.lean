/-
# Page by page and all at once

A survey can be validated page by page, as its session shows the pages, or all at once with what the
session says of pages, elements and questions written down by name. Both find the same complaints in
the same order, whether the validator uses the engine of the session or one of its own.

|  | page by page | all at once |
| --- | --- | --- |
| which pages | the session is asked | looked up by name |
| which questions | the session is asked | looked up by name |
| which answers are required | a table for each page | one table |

With silent functions every answer of the session and every verdict on a question is the one on the
engines before. What is left is that the tables give back what was written into them, for which
names have to be distinct (`overrides_mirrors`), and that the two walks are one
(`shownIn_eq_keptBy`).
-/

import Mathlib.Data.List.Nodup
import SurveyLogic.Proofs.Evaluation.Coincidence
import SurveyLogic.Proofs.Session.Shown
import SurveyLogic.Validation.Report

namespace SurveyLogic

/-- The names of the pages and elements of a survey. -/
def Survey.names (s : Survey) : List String :=
  s.pages.map (·.name) ++ s.items.map (·.name)

namespace Validation

variable {σ τ S : Type}

/-! ### Verdicts on questions -/

section

variable {R : Engine σ → Engine σ → Prop} (sim : Engine.Simulation R)
include sim

open Engine (Respects)

/-- To run the condition of a validator keeps what evaluating keeps. -/
theorem conditionHolds_respects (source : String) (v : Value) (all : Bindings Value) :
    Respects R (conditionHolds source v all) :=
  (sim.run (some source) _ _).bind fun _ => Respects.pure _

/-- To check a rule keeps what evaluating keeps. -/
theorem check_respects (v : Value) (all : Bindings Value) (rule : Rule) :
    Respects R (check v all rule) := by
  cases rule with
  | expression source =>
    refine (conditionHolds_respects sim source v all).bind fun holds => ?_
    cases holds with
    | true => exact Respects.pure _
    | false => exact Respects.pure _
  | _ => exact Respects.pure _

/-- To collect complaints keeps what evaluating keeps. -/
theorem complaints_respects (q : Item) (v : Value) (all : Bindings Value)
    (validators : List Validator) : Respects R (complaints q v all validators) := by
  induction validators with
  | nil => exact Respects.pure _
  | cons validator rest ih =>
    rw [complaints]
    split
    · exact ih
    · have found : Respects R (messages validator v all) :=
        (check_respects sim v all validator.rule).bind fun _ => Respects.pure _
      exact found.bind fun _ => ih.bind fun _ => Respects.pure _

/-- To judge a question keeps what evaluating keeps. -/
theorem question_respects (q : Item) (v : Value) (all : Bindings Value) (required : Option Bool) :
    Respects R (question q v all required) := by
  unfold question
  split
  · exact Respects.pure _
  · exact complaints_respects sim q v all q.validators

end

/-- What an engine finds in the answer to a question. -/
def verdict (desk : Engine τ) (values : Bindings Value) (required : Option Bool) (q : Item) :
    List Complaint :=
  (question q ((Bindings.get? values q.name).getD .null) values required desk).1

/-- Questions are judged one after the other. -/
theorem questions_eq (values : Bindings Value) (required : Bindings Bool) (qs : List Item) :
    (questions values required qs : Running σ _) = List.flatten <$> qs.mapM fun q =>
      question q ((Bindings.get? values q.name).getD .null) values
        (Bindings.get? required q.name) := by
  induction qs with
  | nil => rfl
  | cons q qs ih =>
    rw [questions, List.mapM_cons, ih]
    simp only [map_eq_pure_bind, bind_assoc, pure_bind, List.flatten_cons]

/-- With silent functions, questions are judged as each is by itself on the engine before. -/
theorem questions_yields {desk : Engine τ} (silent : desk.Silent) (values : Bindings Value)
    (required : Bindings Bool) (qs : List Item) :
    Yields (Engine.Agree · desk) (questions values required qs)
      (qs.flatMap fun q => verdict desk values (Bindings.get? required q.name) q) := by
  rw [questions_eq]
  exact Yields.flatMapM (fun q => (question_respects (Engine.near_simulation silent) q
    ((Bindings.get? values q.name).getD .null) values (Bindings.get? required q.name)).yields) qs

/-! ### What a session says, by name -/

/-- Answers to a question about some things, under their names. -/
def named {ι : Type} (name : ι → String) (ask : ι → Running σ Bool) :
    List ι → Running σ (List (String × Bool))
  | [] => return []
  | i :: is => do
    let answer ← ask i
    return (name i, answer) :: (← named name ask is)

/-- Answers that do not depend on the engine are the same when asked one after the other. -/
theorem named_yields {ι : Type} {I : Engine σ → Prop} {name : ι → String} {ask : ι → Running σ Bool}
    {answer : ι → Bool} (h : ∀ i, Yields I (ask i) (answer i)) (is : List ι) :
    Yields I (named name ask is) (is.map fun i => (name i, answer i)) := by
  induction is with
  | nil => exact Yields.pure _
  | cons i is ih =>
    rw [named, List.map_cons]
    exact (h i).bind (ih.bind (Yields.pure _))

/-- Which questions are required is asked as any such answers are. -/
theorem requirements_eq_named (s : Session) (qs : List Item) :
    (requirements s qs : Running σ _) = named (·.name) s.isRequired qs := by
  induction qs with
  | nil => rfl
  | cons q qs ih => rw [requirements, named, ih]

/-- What a session says of its survey: which pages and elements it shows and which questions have to
be answered. -/
def overrides (s : Session) : Running σ Overrides := do
  let pages ← named (·.name) s.isPageVisible s.survey.pages
  let items ← named (·.name) s.isVisible s.survey.items
  let required ← requirements s s.survey.questions
  return { required := Bindings.ofList required, visible := Bindings.ofList (pages ++ items) }

/-- Under the name of each page and element stands whether the session shows it, and under that of
each question whether it has to be answered. -/
structure Overrides.Mirrors (o : Overrides) (s : Session) (engine : Engine σ) : Prop where
  pages : ∀ p ∈ s.survey.pages,
    Bindings.get? o.visible p.name = some (s.isPageVisible p engine).1
  items : ∀ i ∈ s.survey.items, Bindings.get? o.visible i.name = some (s.isVisible i engine).1
  questions : ∀ q ∈ s.survey.questions,
    Bindings.get? o.required q.name = some (s.isRequired q engine).1

variable {engine : Engine σ} {desk : Engine τ} {s : Session} {o : Overrides}

/-- With silent functions, each question is asked as by itself on the engine before. -/
theorem requirements_yields (silent : engine.Silent) (s : Session) (qs : List Item) :
    Yields (Engine.Agree · engine) (requirements s qs)
      (qs.map fun q => (q.name, (s.isRequired q engine).1)) := by
  rw [requirements_eq_named]
  exact named_yields (fun q => s.ask_yields silent (.required q)) qs

/-- **Under distinct names all answers are kept apart.** -/
theorem overrides_mirrors (sound : engine.Sound) (silent : engine.Silent)
    (distinct : s.survey.names.Nodup) : (overrides s engine).1.Mirrors s engine := by
  let pages := s.survey.pages.map fun p => (p.name, (s.isPageVisible p engine).1)
  let items := s.survey.items.map fun i => (i.name, (s.isVisible i engine).1)
  let required := s.survey.questions.map fun q => (q.name, (s.isRequired q engine).1)
  have asked : Yields (Engine.Agree · engine) (overrides s)
      { required := Bindings.ofList required, visible := Bindings.ofList (pages ++ items) } := by
    have first : Yields (Engine.Agree · engine) (named (·.name) s.isPageVisible _) pages :=
      named_yields (fun p => s.ask_yields silent (.pageVisible p)) s.survey.pages
    have second : Yields (Engine.Agree · engine) (named (·.name) s.isVisible _) items :=
      named_yields (fun i => s.ask_yields silent (.visible i)) s.survey.items
    have third := requirements_yields silent s s.survey.questions
    exact first.bind (second.bind (third.bind (Yields.pure _)))
  have names : ((pages ++ items).map (·.1)).Nodup := by
    simpa [Survey.names, pages, items, Function.comp_def] using distinct
  have fewer : (required.map (·.1)).Nodup := by
    have sublist := (s.survey.questions_sublist_items.map (·.name)).trans
      (List.sublist_append_right (s.survey.pages.map (·.name)) _)
    simpa [required, Function.comp_def] using distinct.sublist sublist
  rw [(asked engine (Engine.Agree.refl sound)).1]
  refine ⟨fun p mem => ?_, fun i mem => ?_, fun q mem => ?_⟩
  · exact Bindings.get?_ofList_of_nodup names
      (List.mem_append_left _ (List.mem_map_of_mem mem))
  · exact Bindings.get?_ofList_of_nodup names
      (List.mem_append_right _ (List.mem_map_of_mem mem))
  · exact Bindings.get?_ofList_of_nodup fewer (List.mem_map_of_mem mem)

/-! ### All at once -/

mutual

/-- A report walks with the names that are not marked as hidden as its test. -/
theorem shownIn_eq_keptBy (o : Overrides) :
    ∀ e : Element, shownIn o e = e.keptBy fun i => !o.hides i.name
  | .mk item elements => by
    rw [shownIn, Element.keptBy, shownAmong_eq_keptAmong o elements, Bool.not_not]

/-- The same of the walk over some elements. -/
theorem shownAmong_eq_keptAmong (o : Overrides) :
    ∀ es : List Element, shownAmong o es = Element.keptAmong (fun i => !o.hides i.name) es
  | [] => by
    rw [shownAmong, Element.keptAmong]
  | e :: es => by
    rw [shownAmong, Element.keptAmong, shownIn_eq_keptBy o e, shownAmong_eq_keptAmong o es]

end

/-- A name that is marked is hidden unless it is marked as shown. -/
theorem Overrides.not_hides {name : String} {shown : Bool}
    (h : Bindings.get? o.visible name = some shown) : (!o.hides name) = shown := by
  rw [hides, h]
  cases shown with
  | true => rfl
  | false => rfl

/-- The questions that a session shows on a page. -/
def shownOn (s : Session) (engine : Engine σ) (p : Page) : List Item :=
  Element.keptAmong (fun i => (s.isVisible i engine).1) p.elements

/-- The pages that a session shows. -/
def shownPages (s : Session) (engine : Engine σ) : List Page :=
  s.survey.pages.filter fun p => (s.isPageVisible p engine).1

/-- What is shown on a page of the survey is one of its questions. -/
theorem mem_questions_of_shownOn {p : Page} (mem : p ∈ s.survey.pages) {q : Item}
    (shown : q ∈ shownOn s engine p) : q ∈ s.survey.questions :=
  List.mem_flatMap_of_mem mem ((Element.keptAmong_sublist p.elements).subset shown)

/-- With overrides that mirror a session, a report judges what the session shows. -/
theorem shownQuestions_eq (mirrors : o.Mirrors s engine) :
    shownQuestions s.survey o = (shownPages s engine).flatMap (shownOn s engine) := by
  have pages : s.survey.pages.filter (fun p => !o.hides p.name) = shownPages s engine :=
    List.filter_congr fun p mem => Overrides.not_hides (mirrors.pages p mem)
  rw [shownQuestions, pages]
  refine List.flatMap_congr fun p mem => ?_
  rw [shownAmong_eq_keptAmong]
  refine Element.keptAmong_congr p.elements fun i inside => Overrides.not_hides ?_
  exact mirrors.items i (List.mem_flatMap_of_mem (List.mem_of_mem_filter mem) inside)

/-- The complaints about what a session shows of a page, each question judged by itself. -/
def pageVerdict (s : Session) (engine : Engine σ) (desk : Engine τ) (p : Page) : List Complaint :=
  (shownOn s engine p).flatMap fun q =>
    verdict desk s.allValues (some (s.isRequired q engine).1) q

/-- **A report on all at once is the verdicts on the pages that are shown,** one after the other. -/
theorem survey_yields (silent : desk.Silent) (mirrors : o.Mirrors s engine) :
    Yields (Engine.Agree · desk) (survey s.survey s.allValues o)
      ((shownPages s engine).flatMap (pageVerdict s engine desk)) := by
  have found := questions_yields silent s.allValues o.required (shownQuestions s.survey o)
  have same : ((shownQuestions s.survey o).flatMap fun q =>
      verdict desk s.allValues (Bindings.get? o.required q.name) q) =
        (shownPages s engine).flatMap (pageVerdict s engine desk) := by
    rw [shownQuestions_eq mirrors, List.flatMap_assoc]
    refine List.flatMap_congr fun p mem => List.flatMap_congr fun q shown => ?_
    have asked := mem_questions_of_shownOn (List.mem_of_mem_filter mem) shown
    rw [mirrors.questions q asked]
  rw [survey, ← same]
  exact found

/-! ### Page by page -/

/-- Where a session and a validator run, `S` being the state of both: on which engine each. -/
structure Wiring (σ τ S : Type) where
  session : {α : Type} → Running σ α → StateM S α
  validator : {α : Type} → Running τ α → StateM S α

/-- Both run on one engine. -/
def Wiring.shared : Wiring σ σ (Engine σ) where
  session m := m
  validator m := m

/-- Each runs on an engine of its own. -/
def Wiring.apart : Wiring σ τ (Engine σ × Engine τ) where
  session m := fun (engine, desk) =>
    let (x, after) := m engine
    (x, after, desk)
  validator m := fun (engine, desk) =>
    let (x, after) := m desk
    (x, engine, after)

/-- The complaints about what a session shows of a page. -/
def visiblePageOn (w : Wiring σ τ S) (s : Session) (p : Page) : StateM S (List Complaint) := do
  let shown ← w.session (s.visibleQuestions p)
  let required ← w.session (requirements s shown)
  w.validator (questions s.allValues (Bindings.ofList required) shown)

/-- On one engine this is how the visible questions of a page are validated. -/
theorem visiblePageOn_shared (s : Session) (p : Page) :
    visiblePageOn .shared s p = (visiblePage s p : Running σ _) :=
  rfl

/-- The complaints about the pages that a session shows, one after the other. -/
def pagewise (w : Wiring σ τ S) (s : Session) : List Page → StateM S (List Complaint)
  | [] => return []
  | p :: ps => do
    if ← w.session (s.isPageVisible p) then
      let found ← visiblePageOn w s p
      return found ++ (← pagewise w s ps)
    else pagewise w s ps

/-- What agrees with two engines is run as on these. -/
structure Wiring.Keeps (w : Wiring σ τ S) (engine : Engine σ) (desk : Engine τ) (I : S → Prop) :
    Prop where
  session : ∀ {α : Type} {m : Running σ α} {x : α},
    Yields (Engine.Agree · engine) m x → Yields I (w.session m) x
  validator : ∀ {α : Type} {m : Running τ α} {x : α},
    Yields (Engine.Agree · desk) m x → Yields I (w.validator m) x

/-- On one engine, what agrees with it is run as on it. -/
theorem Wiring.keeps_shared (engine : Engine σ) :
    Wiring.shared.Keeps engine engine (Engine.Agree · engine) where
  session h := h
  validator h := h

/-- On two engines, each agrees with the one that it was. -/
theorem Wiring.keeps_apart (engine : Engine σ) (desk : Engine τ) :
    Wiring.apart.Keeps engine desk fun both =>
      Engine.Agree both.1 engine ∧ Engine.Agree both.2 desk where
  session h both agree := by
    obtain ⟨same, after⟩ := h both.1 agree.1
    exact ⟨same, after, agree.2⟩
  validator h both agree := by
    obtain ⟨same, after⟩ := h both.2 agree.2
    exact ⟨same, agree.1, after⟩

section

variable {w : Wiring σ τ S} {I : S → Prop} (keeps : w.Keeps engine desk I)
include keeps

/-- Validating a page that is shown gives the complaints about what it shows. -/
theorem visiblePageOn_yields (silent : engine.Silent) (silent' : desk.Silent)
    (mirrors : o.Mirrors s engine) {p : Page} (mem : p ∈ s.survey.pages) :
    Yields I (visiblePageOn w s p) (pageVerdict s engine desk p) := by
  let required := (shownOn s engine p).map fun q => (q.name, (s.isRequired q engine).1)
  have shown := keeps.session (s.visibleQuestions_yields silent p)
  have asked := keeps.session (requirements_yields silent s (shownOn s engine p))
  have found := keeps.validator
    (questions_yields silent' s.allValues (Bindings.ofList required) (shownOn s engine p))
  have same : ((shownOn s engine p).flatMap fun q => verdict desk s.allValues
      (Bindings.get? (Bindings.ofList required) q.name) q) = pageVerdict s engine desk p := by
    refine List.flatMap_congr fun q here => ?_
    -- Of two shown questions with one name the table `o` says the same.
    have listed : Bindings.get? (Bindings.ofList required) q.name =
        some (s.isRequired q engine).1 := by
      refine Bindings.get?_putAll_of_mem [] (List.mem_map_of_mem here) fun other there => ?_
      obtain ⟨q', here', pair⟩ := List.mem_map.1 there
      obtain ⟨name, rfl⟩ := Prod.mk.inj pair
      have first := mirrors.questions q (mem_questions_of_shownOn mem here)
      have second := mirrors.questions q' (mem_questions_of_shownOn mem here')
      rw [name, first] at second
      exact (Option.some.inj second).symm
    rw [listed]
  rw [same] at found
  exact shown.bind (asked.bind found)

/-- Validating page by page gives the complaints about the pages that are shown. -/
theorem pagewise_yields (silent : engine.Silent) (silent' : desk.Silent)
    (mirrors : o.Mirrors s engine) (ps : List Page) (within : ∀ p ∈ ps, p ∈ s.survey.pages) :
    Yields I (pagewise w s ps)
      ((ps.filter fun p => (s.isPageVisible p engine).1).flatMap (pageVerdict s engine desk)) := by
  induction ps with
  | nil => exact Yields.pure _
  | cons p ps ih =>
    rw [List.forall_mem_cons] at within
    have asked := keeps.session (s.ask_yields silent (.pageVisible p))
    have found := visiblePageOn_yields keeps silent silent' mirrors within.1
    have rest := ih within.2
    rw [pagewise]
    refine asked.bind ?_
    show Yields I (if (s.isPageVisible p engine).1 = true then _ else _) _
    split
    · rename_i shown
      rw [List.filter_cons_of_pos (by exact shown), List.flatMap_cons]
      exact found.bind (rest.bind (Yields.pure _))
    · rename_i hidden
      rw [List.filter_cons_of_neg (by exact hidden)]
      exact rest

end

/-- From a state of both engines, validation page by page and all at once come to the same. -/
structure Consistent (w : Wiring σ τ S) (survey : Survey) (s : Session) (o : Overrides)
    (start : S) : Prop where
  /-- The complaints about the pages that are shown are those about the survey, in order. -/
  complaints : (pagewise w s survey.pages start).1 =
    (w.validator (Validation.survey survey s.allValues o) start).1
  /-- The survey is valid if and only if each page that is shown is. -/
  valid : (w.validator (Validation.survey survey s.allValues o) start).1 = [] ↔
    ∀ p ∈ survey.pages, (w.session (s.isPageVisible p) start).1 = true →
      (visiblePageOn w s p start).1 = []

/-- Both ways come to the same where engines are kept in agreement. -/
theorem Wiring.Keeps.consistent {w : Wiring σ τ S} {I : S → Prop} (keeps : w.Keeps engine desk I)
    (silent : engine.Silent) (silent' : desk.Silent) (mirrors : o.Mirrors s engine) {start : S}
    (ready : I start) : Consistent w s.survey s o start := by
  have paged := pagewise_yields keeps silent silent' mirrors s.survey.pages fun _ mem => mem
  have whole := keeps.validator (survey_yields silent' mirrors)
  have each {p : Page} (mem : p ∈ s.survey.pages) :=
    visiblePageOn_yields keeps silent silent' mirrors mem
  have shows (p : Page) := keeps.session (s.ask_yields silent (.pageVisible p))
  refine ⟨(paged start ready).1.trans (whole start ready).1.symm, ?_⟩
  rw [(whole start ready).1, List.flatMap_eq_nil_iff]
  constructor
  · intro valid p mem shown
    rw [(each mem start ready).1]
    refine valid p (List.mem_filter.2 ⟨mem, ?_⟩)
    exact (shows p start ready).1.symm.trans shown
  · intro valid p listed
    obtain ⟨mem, shown⟩ := List.mem_filter.1 listed
    rw [← (each mem start ready).1]
    exact valid p mem ((shows p start ready).1.trans shown)

/-- **Validating page by page is validating all at once.** Let the names of the pages and elements
of a survey be distinct and a session of it come up, with silent functions. What the session says by
name of pages, elements and questions is then kept apart, and whoever validates the survey with it,
or with any table that says the same under these names, finds what the pages that the session shows
give one after the other. This is so if the validator uses the engine of the session, whose cache
then serves both, and if it has an engine of its own. -/
theorem pagewise_consistent {survey : Survey} (distinct : survey.names.Nodup) {current : Bool}
    (reached : Session.Reachable survey current s engine) :
    (overrides s engine).1.Mirrors s engine ∧ ∀ o : Overrides, o.Mirrors s engine →
      Consistent .shared survey s o engine ∧
        ∀ (τ : Type) (desk : Engine τ), desk.Reachable →
          Consistent .apart survey s o (engine, desk) := by
  obtain ⟨rfl, sound, silent, -⟩ := reached.invariant
  refine ⟨overrides_mirrors sound silent distinct, fun o mirrors => ⟨?_, fun τ desk ready => ?_⟩⟩
  · exact (Wiring.keeps_shared engine).consistent silent silent mirrors (Engine.Agree.refl sound)
  · obtain ⟨sound', silent'⟩ := ready.sound_silent
    exact (Wiring.keeps_apart engine desk).consistent silent silent' mirrors
      ⟨Engine.Agree.refl sound, Engine.Agree.refl sound'⟩

/-- A survey with a question that has to be answered on demand, and with questions in a panel and on
a page that are shown on demand. -/
def intake : Survey where
  pages := [
    { name := "about",
      elements := [
        .mk { name := "score", kind := "text", isRequired := some true } [],
        .mk { name := "why", kind := "text", requiredIf := some "\x7bscore\x7d = 'low'" } [],
        .mk { name := "more", kind := "panel", visibleIf := some "\x7bscore\x7d = 'high'" }
          [.mk { name := "who", kind := "text", isRequired := some true } []]] },
    { name := "thanks",
      visibleIf := some "\x7bscore\x7d = 'high'",
      elements := [.mk { name := "note", kind := "text", isRequired := some true } []] }]

/-- A session of that survey with a low score, and its engine. -/
def lowScore : Session × Engine Unit :=
  let begun := Session.start intake (Engine.start {} (fun _ => 0) ())
  begun.1.setValue "score" (.string "low") begun.2

/-- The hypotheses of `pagewise_consistent` are satisfiable: here the panel and the second page are
hidden with what they require, and an answer is missing that the condition asks for. An engine of
its own finds the same. -/
theorem pagewise_consistent_lowScore :
    let o := (overrides lowScore.1 lowScore.2).1
    let desk : Engine Unit := Engine.start {} (fun _ => 0) ()
    intake.names.Nodup ∧ Session.Reachable intake true lowScore.1 lowScore.2 ∧
      (survey intake lowScore.1.allValues o lowScore.2).1.map (·.questionName) = ["why"] ∧
      (survey intake lowScore.1.allValues o desk).1.map (·.questionName) = ["why"] := by
  intro o desk
  have distinct : intake.names.Nodup := by decide
  have reached : Session.Reachable intake true lowScore.1 lowScore.2 :=
    (Session.Reachable.start (.start {} (fun _ => 0) ())).change (.answer "score" (.string "low"))
  obtain ⟨mirrors, consistent⟩ := pagewise_consistent distinct reached
  obtain ⟨together, apart⟩ := consistent o mirrors
  have separate := apart Unit desk (.start {} (fun _ => 0) ())
  refine ⟨distinct, reached, ?_, ?_⟩
  · have same : (survey intake lowScore.1.allValues o lowScore.2).1 =
        (pagewise .shared lowScore.1 intake.pages lowScore.2).1 := together.complaints.symm
    rw [same]
    decide +kernel
  · have same : (survey intake lowScore.1.allValues o desk).1 =
        (pagewise .apart lowScore.1 intake.pages (lowScore.2, desk)).1 := separate.complaints.symm
    rw [same]
    decide +kernel

end Validation
end SurveyLogic
