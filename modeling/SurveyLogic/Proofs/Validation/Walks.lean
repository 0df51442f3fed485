/-
# The walks through the elements

The questions of a page, what a session shows of them, and what a report judges of them, are found
by three walks of their own. They agree on what a panel is and on the order: each sees the questions
with the panels around them (`Element.placed`) and leaves out those of which something is hidden.

| walk | what it leaves out |
| --- | --- |
| questions | nothing |
| session | questions that it finds hidden, or in a panel that it finds hidden |
| report | questions whose names, or those of a panel or the page around, are marked as hidden |

A session asks on its way, and a question asked may change what the next ones find. So whether an
element is shown is what the walk found when it came by (`Element.judged`). With silent functions
that is what the session says of each element by itself.
-/

import SurveyLogic.Proofs.Validation.Question

namespace SurveyLogic

/-- Something in a tree behind what is around it, from the outside to the inside. -/
structure Placed (α : Type) where
  around : List α
  leaf : α

namespace Placed

variable {α β : Type}

/-- What is placed, inside of one thing more. -/
def within (a : α) (x : Placed α) : Placed α where
  around := a :: x.around
  leaf := x.leaf

/-- With something else in each place. -/
def map (f : α → β) (x : Placed α) : Placed β where
  around := x.around.map f
  leaf := f x.leaf

/-- Whether something passes a test, as does all around it. -/
def all (keep : α → Bool) (x : Placed α) : Bool :=
  x.around.all keep && keep x.leaf

/-- What passes a test, as does all around it. -/
def passing (keep : α → Bool) (xs : List (Placed α)) : List α :=
  (xs.filter (·.all keep)).map (·.leaf)

/-- Of two parts, what passes does so in each of them. -/
theorem passing_append (keep : α → Bool) (xs ys : List (Placed α)) :
    passing keep (xs ++ ys) = passing keep xs ++ passing keep ys := by
  rw [passing, List.filter_append, List.map_append]
  rfl

/-- A test that fails around all lets nothing pass. -/
theorem passing_within (keep : α → Bool) (a : α) (xs : List (Placed α)) :
    passing keep (xs.map (within a)) = if keep a then passing keep xs else [] := by
  have further (x : Placed α) : (within a x).all keep = (keep a && x.all keep) := by
    rw [all, all, within, List.all_cons, Bool.and_assoc]
  rw [passing, List.filter_map, List.map_map]
  show ((xs.filter fun x => (within a x).all keep).map (·.leaf)) = _
  simp only [further]
  split
  · rename_i shown
    simp only [shown, Bool.true_and]
    rfl
  · rename_i hidden
    simp only [hidden, Bool.false_and, List.filter_false, List.map_nil]

/-- To change what is placed also changes what is around it. -/
theorem map_within (f : α → β) (a : α) (xs : List (Placed α)) :
    (xs.map (within a)).map (map f) = (xs.map (map f)).map (within (f a)) := by
  rw [List.map_map, List.map_map]
  rfl

/-! ### Marks -/

/-- The mark of something that nobody has looked at. -/
def unmarked (x : Placed α) : Placed (α × Bool) :=
  x.map (·, false)

/-- Marks do not change what is placed. -/
theorem map_fst_unmarked (xs : List (Placed α)) : (xs.map unmarked).map (map Prod.fst) = xs := by
  have back (x : Placed α) : x.unmarked.map Prod.fst = x := by
    simp [unmarked, map, Function.comp_def]
  rw [List.map_map]
  exact (List.map_congr_left fun x _ => back x).trans (List.map_id xs)

/-- Where nobody has looked, nothing passes. -/
theorem passing_unmarked (xs : List (Placed α)) : passing Prod.snd (xs.map unmarked) = [] := by
  have fails : ∀ x ∈ xs.map unmarked, ¬x.all Prod.snd = true := by
    intro x mem
    obtain ⟨y, -, rfl⟩ := List.mem_map.1 mem
    rw [all, unmarked, map, Bool.and_false]
    exact Bool.false_ne_true
  rw [passing, List.filter_eq_nil_iff.2 fails, List.map_nil]

end Placed

namespace Element

open Placed

mutual

/-- The questions of an element, each in the panels around it. -/
def placed : Element → List (Placed Item)
  | mk item elements =>
    if item.isPanel then (placedAll elements).map (within item) else [⟨[], item⟩]

/-- The questions of some elements, each in the panels around it. -/
def placedAll : List Element → List (Placed Item)
  | [] => []
  | e :: es => placed e ++ placedAll es

end

mutual

/-- What is placed in an element are its questions. -/
theorem map_leaf_placed : ∀ e : Element, e.placed.map (·.leaf) = e.questions
  | mk item elements => by
    rw [placed, questions]
    split
    · rw [List.map_map, ← map_leaf_placedAll elements]
      rfl
    · rfl

/-- The same of some elements. -/
theorem map_leaf_placedAll : ∀ es : List Element, (placedAll es).map (·.leaf) = questionsAll es
  | [] => by
    rw [placedAll, questionsAll, List.map_nil]
  | e :: es => by
    rw [placedAll, questionsAll, List.map_append, map_leaf_placed e, map_leaf_placedAll es]

end

mutual

/-- Around a question are panels, and it is none. -/
theorem isPanel_of_mem_placed :
    ∀ e : Element, ∀ x ∈ e.placed, x.leaf.isPanel = false ∧ ∀ i ∈ x.around, i.isPanel = true
  | mk item elements, x, mem => by
    rw [placed] at mem
    split at mem
    · rename_i panel
      obtain ⟨y, inside, rfl⟩ := List.mem_map.1 mem
      obtain ⟨leaf, around⟩ := isPanel_of_mem_placedAll elements y inside
      exact ⟨leaf, List.forall_mem_cons.2 ⟨panel, around⟩⟩
    · rename_i question
      obtain rfl := List.mem_singleton.1 mem
      exact ⟨Bool.eq_false_iff.2 question, fun i inside => absurd inside List.not_mem_nil⟩

/-- The same of the questions of some elements. -/
theorem isPanel_of_mem_placedAll : ∀ es : List Element, ∀ x ∈ placedAll es,
    x.leaf.isPanel = false ∧ ∀ i ∈ x.around, i.isPanel = true
  | [], x, mem => by
    rw [placedAll] at mem
    exact absurd mem List.not_mem_nil
  | e :: es, x, mem => by
    rw [placedAll, List.mem_append] at mem
    rcases mem with mem | mem
    · exact isPanel_of_mem_placed e x mem
    · exact isPanel_of_mem_placedAll es x mem

end

/-! ### Walks with a test -/

section

variable (keep : Item → Bool)

mutual

/-- What a walk keeps of an element is what passes with all around it. -/
theorem keptBy_eq_passing : ∀ e : Element, e.keptBy keep = passing keep e.placed
  | mk item elements => by
    rw [keptBy, placed, keptAmong_eq_passing elements]
    by_cases panel : item.isPanel
    · rw [if_pos panel, if_pos panel, passing_within]
      cases keep item <;> rfl
    · rw [if_neg panel, if_neg panel, passing, List.filter_singleton, all, List.all_nil,
        Bool.true_and]
      cases keep item <;> rfl

/-- The same of some elements. -/
theorem keptAmong_eq_passing :
    ∀ es : List Element, keptAmong keep es = passing keep (placedAll es)
  | [] => by
    rw [keptAmong, placedAll]
    rfl
  | e :: es => by
    rw [keptAmong, placedAll, passing_append, keptBy_eq_passing e, keptAmong_eq_passing es]

end

end

/-! ### Walks that ask -/

section

variable {σ : Type} (ask : Item → Running σ Bool)

mutual

/-- The questions of an element, and for each and each panel around it whether a walk that asks on
its way comes to it and finds it shown. The walk does not go into what it finds hidden. -/
def judged : Element → Running σ (List (Placed (Item × Bool)))
  | mk item elements => do
    if ← ask item then
      if item.isPanel then return (← judgedAll elements).map (within (item, true))
      else return [⟨[], (item, true)⟩]
    else return (placed (mk item elements)).map unmarked

/-- The same for some elements, one after the other. -/
def judgedAll : List Element → Running σ (List (Placed (Item × Bool)))
  | [] => return []
  | e :: es => do
    let first ← judged e
    return first ++ (← judgedAll es)

end

mutual

/-- A walk that asks gives an account of all questions, also of those that it does not come to. -/
theorem map_fst_judged :
    ∀ (e : Element) (engine : Engine σ), (judged ask e engine).1.map (map Prod.fst) = e.placed
  | mk item elements, engine => by
    rw [judged, Engine.bind_apply]
    split
    · rw [placed]
      split
      · rw [Engine.bind_apply]
        show (List.map (within (item, true)) _).map _ = _
        rw [map_within, map_fst_judgedAll elements]
      · rfl
    · exact map_fst_unmarked _

/-- The same of a walk over some elements. -/
theorem map_fst_judgedAll : ∀ (es : List Element) (engine : Engine σ),
    (judgedAll ask es engine).1.map (map Prod.fst) = placedAll es
  | [], engine => by
    rw [judgedAll, placedAll]
    rfl
  | e :: es, engine => by
    rw [judgedAll, placedAll, Engine.bind_apply, Engine.bind_apply]
    show List.map _ (_ ++ _) = _
    rw [List.map_append, map_fst_judged e, map_fst_judgedAll es]

end

end

/-- The questions that a walk found shown, as all panels around them. -/
def seen (marked : List (Placed (Item × Bool))) : List Item :=
  (passing Prod.snd marked).map Prod.fst

end Element

namespace Session

open Element

variable {σ : Type}

mutual

/-- A session shows what it finds shown on its way. -/
theorem visibleIn_eq_seen (s : Session) : ∀ e : Element,
    (s.visibleIn e : Running σ _) = seen <$> judged s.isVisible e
  | .mk item elements => by
    rw [visibleIn, judged, map_bind]
    refine bind_congr fun shown => ?_
    cases shown with
    | false =>
      show pure [] = pure (seen _)
      rw [seen, Placed.passing_unmarked, List.map_nil]
    | true =>
      show (if item.isPanel then _ else _) = seen <$> (if item.isPanel then _ else _)
      split
      · rw [visibleAmong_eq_seen s elements, map_bind, map_eq_pure_bind]
        refine bind_congr fun inside => ?_
        show pure _ = pure (seen _)
        rw [seen, seen, Placed.passing_within]
        rfl
      · rfl

/-- The same of what it shows of some elements. -/
theorem visibleAmong_eq_seen (s : Session) : ∀ es : List Element,
    (s.visibleAmong es : Running σ _) = seen <$> judgedAll s.isVisible es
  | [] => by
    rw [visibleAmong, judgedAll]
    rfl
  | e :: es => by
    rw [visibleAmong, judgedAll, visibleIn_eq_seen s e, visibleAmong_eq_seen s es]
    simp only [map_eq_pure_bind, bind_assoc, pure_bind, seen, Placed.passing_append,
      List.map_append]

end

end Session

/-- The questions of a page, each in the panels around it. -/
def Page.placed (p : Page) : List (Placed Item) :=
  Element.placedAll p.elements

/-- The questions of a survey, each in the panels around it, with its page. -/
def Survey.placed (s : Survey) : List (Page × Placed Item) :=
  s.pages.flatMap fun p => p.placed.map (p, ·)

/-- What is placed in a survey are its questions. -/
theorem Survey.map_leaf_placed (s : Survey) : s.placed.map (·.2.leaf) = s.questions := by
  rw [placed, questions, List.map_flatMap]
  refine List.flatMap_congr fun p _ => ?_
  rw [List.map_map]
  exact Element.map_leaf_placedAll p.elements

namespace Validation

variable {σ : Type}

/-- Whether nothing is marked as hidden of a question, the panels around it and its page. -/
def Overrides.spares (o : Overrides) (x : Page × Placed Item) : Bool :=
  !o.hides x.1.name && x.2.all (!o.hides ·.name)

/-- A report judges on a page what a walk with the marks as its test keeps, or nothing. -/
theorem spared_on_page (o : Overrides) (p : Page) :
    ((p.placed.map (p, ·)).filter o.spares).map (·.2.leaf) =
      if o.hides p.name then [] else shownAmong o p.elements := by
  rw [List.filter_map, List.map_map, shownAmong_eq_keptAmong, Element.keptAmong_eq_passing]
  cases hidden : o.hides p.name with
  | true =>
    have none : ∀ x ∈ p.placed, ¬(o.spares ∘ (p, ·)) x = true := fun x _ => by
      simp [Overrides.spares, hidden]
    rw [List.filter_eq_nil_iff.2 none]
    rfl
  | false =>
    have inside : o.spares ∘ (p, ·) = (·.all (!o.hides ·.name)) := funext fun x => by
      simp [Overrides.spares, hidden]
    rw [inside]
    rfl

/-- A report judges the questions that are spared. -/
theorem shownQuestions_eq_spared (s : Survey) (o : Overrides) :
    shownQuestions s o = (s.placed.filter o.spares).map (·.2.leaf) := by
  rw [shownQuestions, Survey.placed]
  induction s.pages with
  | nil => rfl
  | cons p ps ih =>
    rw [List.flatMap_cons, List.filter_append, List.map_append, spared_on_page, ← ih,
      List.filter_cons]
    cases o.hides p.name <;> rfl

/-- Questions are judged in parts one after the other. -/
theorem questions_append (values : Bindings Value) (required : Bindings Bool) (qs rs : List Item) :
    (questions values required (qs ++ rs) : Running σ _) = do
      let first ← questions values required qs
      let others ← questions values required rs
      return first ++ others := by
  rw [questions_eq, questions_eq, questions_eq, List.mapM_append]
  simp only [map_eq_pure_bind, bind_assoc, pure_bind, List.flatten_append]

/-- Where nothing is marked as hidden, a survey is judged page by page. -/
theorem survey_eq_pages {o : Overrides} (visible : ∀ name, o.hides name = false) (s : Survey)
    (values : Bindings Value) :
    (survey s values o : Running σ _) =
      List.flatten <$> s.pages.mapM fun p => page p values o.required := by
  have everything : shownQuestions s o = s.questions := by
    have spared : ∀ x ∈ s.placed, o.spares x = true := fun x _ => by
      simp [Overrides.spares, Placed.all, visible]
    rw [shownQuestions_eq_spared, List.filter_eq_self.2 spared, s.map_leaf_placed]
  rw [survey, everything, Survey.questions]
  induction s.pages with
  | nil => rfl
  | cons p ps ih =>
    rw [List.flatMap_cons, questions_append, ih, List.mapM_cons]
    simp only [map_eq_pure_bind, bind_assoc, pure_bind, List.flatten_cons, page]

/-- Each complaint is about one of the questions. -/
theorem questionName_of_mem_questions {values : Bindings Value} {required : Bindings Bool}
    {qs : List Item} {engine : Engine σ} {c : Complaint}
    (mem : c ∈ (questions values required qs engine).1) : ∃ q ∈ qs, c.questionName = q.name := by
  induction qs generalizing engine with
  | nil => exact absurd mem List.not_mem_nil
  | cons q qs ih =>
    rw [questions, Engine.bind_apply, Engine.bind_apply] at mem
    rcases List.mem_append.1 mem with mem | mem
    · exact ⟨q, List.mem_cons_self, questionName_of_mem_question mem⟩
    · obtain ⟨other, listed, name⟩ := ih mem
      exact ⟨other, List.mem_cons_of_mem _ listed, name⟩

/-- **All walks see the same questions.** The questions of a page are no panels, and around them are
panels only.

What a session shows of a page are, in their order, those of its questions that its walk found
shown, as all panels around them, whatever the conditions do to each other on the way. With silent
functions these are the questions that the session says to be visible, as all panels around them,
each asked by itself.

A report judges, in their order, the questions of a survey of which neither the page nor a panel
around them nor the name is marked as hidden, which is mapped to `false`, one after the other, and
complains about no other. Where nothing is marked as hidden it finds what the pages give one after
the other. -/
theorem walks_agree (s : Session) (p : Page) (report : Survey) (values : Bindings Value)
    (o : Overrides) (engine : Engine σ) :
    (p.placed.map (·.leaf) = p.questions ∧
      ∀ x ∈ p.placed, x.leaf.isPanel = false ∧ ∀ i ∈ x.around, i.isPanel = true) ∧
    (∃ marked after, Element.judgedAll s.isVisible p.elements engine = (marked, after) ∧
      marked.map (Placed.map Prod.fst) = p.placed ∧
      s.visibleQuestions p engine = (Element.seen marked, after)) ∧
    (engine.Silent → engine.Sound → (s.visibleQuestions p engine).1 =
      (p.placed.filter (·.all fun i => (s.isVisible i engine).1)).map (·.leaf)) ∧
    (report.placed.map (·.2.leaf) = report.questions ∧
      let hidden (name : String) : Bool := Bindings.get? o.visible name == some false
      let left := (report.placed.filter fun x =>
        !hidden x.1.name && x.2.all (!hidden ·.name)).map (·.2.leaf)
      survey report values o = (List.flatten <$> left.mapM fun q =>
        question q ((Bindings.get? values q.name).getD .null) values
          (Bindings.get? o.required q.name) : Running σ _) ∧
      ∀ c ∈ (survey report values o engine).1, ∃ q ∈ left, c.questionName = q.name) ∧
    ((∀ name, Bindings.get? o.visible name ≠ some false) → survey report values o =
      (List.flatten <$> report.pages.mapM fun p => page p values o.required : Running σ _)) := by
  refine ⟨⟨?_, ?_⟩, ⟨_, _, rfl, ?_, ?_⟩, fun silent sound => ?_, ⟨?_, ?_, fun c mem => ?_⟩,
    fun visible => ?_⟩
  · exact Element.map_leaf_placedAll p.elements
  · exact Element.isPanel_of_mem_placedAll p.elements
  · exact Element.map_fst_judgedAll s.isVisible p.elements engine
  · exact congrArg (fun m => m engine) (s.visibleAmong_eq_seen p.elements)
  · have shown := s.visibleQuestions_yields silent p engine (Engine.Agree.refl sound)
    exact shown.1.trans (Element.keptAmong_eq_passing _ p.elements)
  · exact report.map_leaf_placed
  · rw [survey, shownQuestions_eq_spared, questions_eq]
    rfl
  · rw [survey, shownQuestions_eq_spared] at mem
    exact questionName_of_mem_questions mem
  · exact survey_eq_pages (fun name => beq_eq_false_iff_ne.2 (visible name)) report values

/-- A survey with a panel in a panel, and elements in a question, which do not count. -/
def household : Survey where
  pages := [
    { name := "pets",
      elements := [
        .mk { name := "all", kind := "PaNel" } [
          .mk { name := "pet", kind := "text", isRequired := some true } [],
          .mk { name := "second", kind := "panel", visibleIf := some "\x7bpet\x7d notempty" }
            [.mk { name := "pet", kind := "text", isRequired := some true } []],
          .mk { name := "table", kind := "matrix", isRequired := some true }
            [.mk { name := "cell", kind := "text", isRequired := some true } []]]] },
    { name := "notes", elements := [.mk { name := "note", kind := "text" } []] }]

/-- The hypotheses of `walks_agree` are satisfiable: a session hides the second panel and what is in
it, a report that marks nothing as hidden does not, and one that marks that panel and the last page
leaves out what is in either. -/
theorem walks_agree_household :
    let engine : Engine Unit := Engine.start {} (fun _ => 0) ()
    let s : Session := { survey := household }
    let p : Page := { elements := household.pages.flatMap (·.elements) }
    let required : Bindings Bool := [("note", true)]
    let all : Overrides := { required, visible := [("all", true)] }
    let fewer : Overrides := { required, visible := [("notes", false), ("second", false)] }
    engine.Silent ∧ engine.Sound ∧ (∀ name, Bindings.get? all.visible name ≠ some false) ∧
      (s.visibleQuestions p engine).1.map (·.name) = ["pet", "table", "note"] ∧
      (survey household [] all engine).1.map (·.questionName) = ["pet", "pet", "table", "note"] ∧
      (survey household [] fewer engine).1.map (·.questionName) = ["pet", "table"] := by
  intro engine s p required all fewer
  have silent : engine.Silent := Engine.start_silent _ _ _
  have sound : engine.Sound := Engine.start_sound _ _ _
  have visible (name : String) : Bindings.get? all.visible name ≠ some false := by
    change List.lookup name [("all", true)] ≠ some false
    rw [List.lookup_cons]
    cases name == "all" <;> simp
  obtain ⟨-, -, shown, -, pages⟩ := walks_agree s p household [] all engine
  obtain ⟨-, -, -, ⟨-, judged, -⟩, -⟩ := walks_agree s p household [] fewer engine
  refine ⟨silent, sound, visible, ?_, ?_, ?_⟩
  · rw [shown silent sound]
    decide +kernel
  · rw [pages visible]
    decide +kernel
  · rw [judged]
    decide +kernel

end Validation
end SurveyLogic
