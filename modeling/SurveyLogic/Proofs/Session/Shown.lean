/-
# What a session shows

A session walks through the elements of a page and evaluates the condition of each on the way; a
report walks through them with the names that its caller marks as hidden. Both are one walk with a
test of its own (`Element.keptBy`): it cuts off what stands in a panel that fails the test, and does
not test what it has cut off.

The walk of a session runs conditions one after the other on an engine that it hands on. With silent
functions each condition gives what it gives on the engine before all of them, so the walk has the
answers of that one engine as its test (`visibleAmong_yields`).
-/

import SurveyLogic.Proofs.Session.Reachable

namespace SurveyLogic

namespace Element

mutual

/-- The questions of an element that pass a test, as do all panels around them. -/
def keptBy (keep : Item → Bool) : Element → List Item
  | mk item elements =>
    if !keep item then []
    else if item.isPanel then keptAmong keep elements
    else [item]

/-- The questions of some elements that pass a test, as do all panels around them. -/
def keptAmong (keep : Item → Bool) : List Element → List Item
  | [] => []
  | e :: es => keptBy keep e ++ keptAmong keep es

end

mutual

/-- An element and, if it is a panel, all elements in it at any depth. -/
def items : Element → List Item
  | mk item elements => item :: if item.isPanel then itemsAll elements else []

/-- Some elements and all elements in the panels among them. -/
def itemsAll : List Element → List Item
  | [] => []
  | e :: es => items e ++ itemsAll es

end

mutual

/-- The questions of an element are among its items, in order. -/
theorem questions_sublist_items : ∀ e : Element, e.questions.Sublist e.items
  | mk item elements => by
    rw [questions, items]
    split
    · exact (questionsAll_sublist_itemsAll elements).cons item
    · exact List.Sublist.refl _

/-- The same of the questions of some elements. -/
theorem questionsAll_sublist_itemsAll :
    ∀ es : List Element, (questionsAll es).Sublist (itemsAll es)
  | [] => List.nil_sublist _
  | e :: es => by
    rw [questionsAll, itemsAll]
    exact (questions_sublist_items e).append (questionsAll_sublist_itemsAll es)

end

section

variable {keep keep' : Item → Bool}

mutual

/-- What a test keeps of an element is among its questions, in order. -/
theorem keptBy_sublist : ∀ e : Element, (e.keptBy keep).Sublist e.questions
  | mk item elements => by
    rw [keptBy, questions]
    split
    · exact List.nil_sublist _
    · split
      · exact keptAmong_sublist elements
      · exact List.Sublist.refl _

/-- The same of what a test keeps of some elements. -/
theorem keptAmong_sublist :
    ∀ es : List Element, (keptAmong keep es).Sublist (questionsAll es)
  | [] => List.nil_sublist _
  | e :: es => by
    rw [keptAmong, questionsAll]
    exact (keptBy_sublist e).append (keptAmong_sublist es)

end

mutual

/-- The walk tests nothing but the elements it is about. -/
theorem keptBy_congr :
    ∀ e : Element, (∀ i ∈ e.items, keep i = keep' i) → e.keptBy keep = e.keptBy keep'
  | mk item elements, same => by
    rw [items, List.forall_mem_cons] at same
    rw [keptBy, keptBy, same.1]
    split
    · rfl
    · split
      · rename_i panel
        rw [if_pos panel] at same
        exact keptAmong_congr elements same.2
      · rfl

/-- The same of the walk over some elements. -/
theorem keptAmong_congr :
    ∀ es : List Element, (∀ i ∈ itemsAll es, keep i = keep' i) →
      keptAmong keep es = keptAmong keep' es
  | [], _ => by
    rw [keptAmong, keptAmong]
  | e :: es, same => by
    rw [itemsAll, List.forall_mem_append] at same
    rw [keptAmong, keptAmong, keptBy_congr e same.1, keptAmong_congr es same.2]

end

end

end Element

/-- All elements of a survey, those in panels included. -/
def Survey.items (s : Survey) : List Item :=
  s.pages.flatMap fun p => Element.itemsAll p.elements

/-- The questions of a survey are among its items, in order. -/
theorem Survey.questions_sublist_items (s : Survey) : s.questions.Sublist s.items := by
  unfold Survey.questions Survey.items
  induction s.pages with
  | nil => exact List.Sublist.refl _
  | cons p ps ih =>
    rw [List.flatMap_cons, List.flatMap_cons]
    exact (Element.questionsAll_sublist_itemsAll p.elements).append ih

section

variable {S α β : Type} {I : S → Prop}

/-- From every state of some kind a step gives the same result, and it leaves a state of the
kind. -/
def Yields (I : S → Prop) (m : StateM S α) (x : α) : Prop :=
  ∀ state, I state → (m state).1 = x ∧ I (m state).2

theorem Yields.pure (x : α) : Yields I (Pure.pure x) x :=
  fun _ h => ⟨rfl, h⟩

/-- A step yields what those that it is made of yield one after the other. -/
theorem Yields.bind {m : StateM S α} {k : α → StateM S β} {x : α} {y : β} (hm : Yields I m x)
    (hk : Yields I (k x) y) : Yields I (m >>= k) y := by
  intro state h
  obtain ⟨rfl, after⟩ := hm state h
  exact hk (m state).2 after

/-- Steps that give the same from all such states do so one after the other. -/
theorem Yields.mapM {f : α → StateM S β} {g : α → β} (h : ∀ x, Yields I (f x) (g x))
    (xs : List α) : Yields I (xs.mapM f) (xs.map g) := by
  induction xs with
  | nil => exact Yields.pure _
  | cons x xs ih =>
    rw [List.mapM_cons, List.map_cons]
    exact (h x).bind (ih.bind (Yields.pure _))

/-- Steps that yield lists yield them joined. -/
theorem Yields.flatMapM {f : α → StateM S (List β)} {g : α → List β}
    (h : ∀ x, Yields I (f x) (g x)) (xs : List α) :
    Yields I (List.flatten <$> xs.mapM f) (xs.flatMap g) := by
  rw [map_eq_pure_bind, List.flatMap_def]
  exact (Yields.mapM h xs).bind (Yields.pure _)

end

variable {σ α : Type} {base : Engine σ}

/-- What evaluations with silent functions give on an engine they give on all that agree with it. -/
theorem Engine.Respects.yields {m : Running σ α} (h : Engine.Respects (Engine.Near base) m) :
    Yields (Engine.Agree · base) m (m base).1 :=
  fun _ agree => h.steady agree

namespace Session

/-- With silent functions, a query gives the same on all engines that agree. -/
theorem ask_yields (silent : base.Silent) (s : Session) (q : Query α) :
    Yields (Engine.Agree · base) (s.ask q) (s.ask q base).1 :=
  (ask_respects fun source _ => (Engine.near_simulation silent).runRespects source).yields

mutual

/-- The questions shown of an element are those that the engine before finds visible. -/
theorem visibleIn_yields (silent : base.Silent) (s : Session) : ∀ e : Element,
    Yields (Engine.Agree · base) (s.visibleIn e) (e.keptBy fun i => (s.isVisible i base).1)
  | .mk item elements => by
    rw [visibleIn, Element.keptBy]
    refine (ask_yields silent s (.visible item)).bind ?_
    show Yields _ (if (!(s.isVisible item base).1) = true then _ else _) _
    split
    · exact Yields.pure _
    · split
      · exact visibleAmong_yields silent s elements
      · exact Yields.pure _

/-- The same of those shown of some elements. -/
theorem visibleAmong_yields (silent : base.Silent) (s : Session) : ∀ es : List Element,
    Yields (Engine.Agree · base) (s.visibleAmong es)
      (Element.keptAmong (fun i => (s.isVisible i base).1) es)
  | [] => by
    rw [visibleAmong, Element.keptAmong]
    exact Yields.pure _
  | e :: es => by
    rw [visibleAmong, Element.keptAmong]
    exact (visibleIn_yields silent s e).bind
      ((visibleAmong_yields silent s es).bind (Yields.pure _))

end

/-- **A session shows the questions that it finds visible themselves and whose panels it does,**
each judged on the engine before. -/
theorem visibleQuestions_yields (silent : base.Silent) (s : Session) (p : Page) :
    Yields (Engine.Agree · base) (s.visibleQuestions p)
      (Element.keptAmong (fun i => (s.isVisible i base).1) p.elements) :=
  visibleAmong_yields silent s p.elements

end Session
end SurveyLogic
