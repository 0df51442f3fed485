/-
# The functions that an evaluation runs

A registry can be made to record: each of its functions does what it did and also puts down its
call, with the state of the host it was called in and its answer. An evaluation with a recording
registry goes as without (`evaluate_traced`), so the record tells which functions an evaluation
runs, in which order.

The calls of a tree are listed as they stand in it, the calls in the arguments of a call before it.
An evaluation goes through this list from the front: all of it if it gives a value, else up to the
first failure.

| failure | recorded |
| --- | --- |
| a function answers with an error | the calls up to this one |
| a function is not registered | the calls in front of it, without those in its arguments |
-/

import Mathlib.Data.List.Forall2
import SurveyLogic.Evaluation

namespace SurveyLogic

variable {σ : Type}

/-- A call of a function: what it was called with, in which state of the host, and what it
answered. -/
structure Invocation (σ : Type) where
  name : String
  args : List Value
  host : σ
  result : Except EvalError Value

/-- The function answered with a value. -/
def Invocation.Succeeds (inv : Invocation σ) : Prop :=
  ∃ v, inv.result = .ok v

/-- The state of a host that keeps a record. -/
abbrev Recorded (σ : Type) := σ × List (Invocation σ)

/-! ### Recording functions -/

namespace Callable

mutual

/-- The function of a name, recording each of its calls. -/
def recorded (name : String) : Callable σ → Callable (Recorded σ)
  | mk run => mk fun args ctx state =>
      recordedReply ⟨name, args, state.1, (run args ctx state.1).result⟩ state.2
        (run args ctx state.1)

/-- A reply with the call put down in the record. -/
def recordedReply (inv : Invocation σ) (record : List (Invocation σ)) :
    Reply σ (Callable σ) → Reply (Recorded σ) (Callable (Recorded σ))
  | ⟨result, host, registered⟩ => ⟨result, (host, record ++ [inv]), recordedAll registered⟩

/-- What a function registers, recording in its turn. -/
def recordedAll : List (String × Callable σ) → List (String × Callable (Recorded σ))
  | [] => []
  | entry :: entries => recordedEntry entry :: recordedAll entries

/-- A function with its name. -/
def recordedEntry : String × Callable σ → String × Callable (Recorded σ)
  | (name, f) => (name, f.recorded (Text.lower name))

end

/-- Of two lists, each is recorded by itself. -/
theorem recordedAll_append (fs gs : List (String × Callable σ)) :
    recordedAll (fs ++ gs) = recordedAll fs ++ recordedAll gs := by
  induction fs with
  | nil => rfl
  | cons entry fs ih => rw [List.cons_append, recordedAll, recordedAll, ih, List.cons_append]

/-- A function that records answers as before, with its call put down behind the others. -/
theorem call_recorded (f : Callable σ) (name : String) (args : List Value) (ctx : Context)
    (host : σ) (record : List (Invocation σ)) :
    (f.recorded name).call args ctx (host, record) =
      let reply := f.call args ctx host
      ⟨reply.result, (reply.host, record ++ [⟨name, args, host, reply.result⟩]),
        recordedAll reply.registered⟩ := by
  cases f with
  | mk run =>
    rw [recorded]
    unfold call
    dsimp only
    cases run args ctx host with
    | mk result after registered => rw [recordedReply]

end Callable

/-- The state of an evaluation, with a record. -/
def CallState.recorded (s : CallState σ) (record : List (Invocation σ)) :
    CallState (Recorded σ) :=
  { host := (s.host, record), registered := Callable.recordedAll s.registered }

/-- A function that records does what it did, and puts down its call. -/
theorem Callable.run_invoke_recorded (f : Callable σ) (name : String) (args : List Value)
    (ctx : Context) (before : CallState σ) (record : List (Invocation σ)) :
    ((f.recorded name).invoke args ctx).run.run (before.recorded record) =
      let after := (f.invoke args ctx).run.run before
      (after.1, after.2.recorded (record ++ [⟨name, args, before.host, after.1⟩])) := by
  rw [run_invoke, run_invoke]
  change (let reply := (f.recorded name).call args ctx (before.host, record);
    (reply.result, _)) = _
  simp only [call_recorded, CallState.recorded, recordedAll_append]

namespace Registry

/-- The functions of a registry, recording their calls. -/
def recorded (r : Registry σ) : Registry (Recorded σ) :=
  r.map fun entry => (entry.1, entry.2.recorded entry.1)

/-- A registry that records has its functions under the same names. -/
theorem get?_recorded (r : Registry σ) (name : String) :
    Bindings.get? r.recorded name = (Bindings.get? r name).map (Callable.recorded name) :=
  Bindings.get?_map _ r name

/-- They are found under the same names, in any case. -/
theorem find?_recorded (r : Registry σ) (name : String) :
    r.recorded.find? name = (r.find? name).map (Callable.recorded (Text.lower name)) :=
  get?_recorded r (Text.lower name)

end Registry

namespace Expr

/-! ### Calls of a tree -/

mutual

/-- The calls of a tree in the order of their evaluation: those in the arguments of a call first. -/
def calls : Expr → List (String × List Expr)
  | literal _ => []
  | var _ => []
  | unary _ arg => calls arg
  | binary _ lhs rhs => calls lhs ++ calls rhs
  | call name args => callsAll args ++ [(name, args)]
  | array items => callsAll items

/-- The calls of a list of trees. -/
def callsAll : List Expr → List (String × List Expr)
  | [] => []
  | e :: es => calls e ++ callsAll es

end

section

variable (functions : Registry σ) (ctx : Context)

/-- An invocation carries out a call of a tree: the function of this name is run on the values of
these arguments, in the state that their evaluation left behind. -/
structure CarriesOut (inv : Invocation σ) (call : String × List Expr) : Prop where
  name : inv.name = Text.lower call.1
  args : ∃ before after, after.host = inv.host ∧
    (evaluateAll functions ctx call.2).run.run before = (.ok inv.args, after)
  result : ∃ f, functions.find? call.1 = some f ∧
    inv.result = (f.call inv.args ctx inv.host).result

/-- What is run of some calls until there is a result. -/
inductive Course {α : Type} :
    List (Invocation σ) → List (String × List Expr) → Except EvalError α → Prop where
  | done {v : α} : Course [] [] (.ok v)
  | missing {name : String} {args : List Expr} {left : List (String × List Expr)}
      (h : functions.find? name = none) :
      Course [] (callsAll args ++ (name, args) :: left) (.error (.unknownFunction name))
  | failed {inv : Invocation σ} {call : String × List Expr} {left : List (String × List Expr)}
      {err : EvalError} (out : CarriesOut functions ctx inv call) (h : inv.result = .error err) :
      Course [inv] (call :: left) (.error err)
  | answered {inv : Invocation σ} {call : String × List Expr} {made : List (Invocation σ)}
      {calls : List (String × List Expr)} {result : Except EvalError α} {v : Value}
      (out : CarriesOut functions ctx inv call) (h : inv.result = .ok v)
      (rest : Course made calls result) :
      Course (inv :: made) (call :: calls) result

end

variable {functions : Registry σ} {ctx : Context}

namespace Course

variable {α β : Type} {made more : List (Invocation σ)} {calls left : List (String × List Expr)}
  {err : EvalError}

/-- Behind a value, other calls are run. -/
theorem append {v : α} {result : Except EvalError β}
    (first : Course functions ctx made calls (.ok v : Except EvalError α))
    (second : Course functions ctx more left result) :
    Course functions ctx (made ++ more) (calls ++ left) result := by
  generalize hr : (.ok v : Except EvalError α) = r at first
  induction first with
  | done => exact second
  | missing | failed => cases hr
  | answered out h rest ih => exact .answered out h (ih hr)

/-- Behind an error, nothing is. -/
theorem cut (h : Course functions ctx made calls (.error err : Except EvalError α)) :
    Course functions ctx made (calls ++ left) (.error err : Except EvalError β) := by
  generalize hr : (.error err : Except EvalError α) = r at h
  induction h with
  | done => cases hr
  | missing h =>
    cases hr
    rw [List.append_assoc, List.cons_append]
    exact .missing h
  | failed out h =>
    cases hr
    exact .failed out h
  | answered out h rest ih => exact .answered out h (ih hr)

/-- With a value at the end, all calls are carried out. -/
theorem of_ok {v : α} (h : Course functions ctx made calls (.ok v : Except EvalError α)) :
    List.Forall₂ (CarriesOut functions ctx) made calls := by
  generalize hr : (.ok v : Except EvalError α) = r at h
  induction h with
  | done => exact .nil
  | missing | failed => cases hr
  | answered out h rest ih => exact .cons out (ih hr)

/-- With an error at the end, calls are carried out from the front. The last of them fails, or all
of them succeed and there is no function for the next call. -/
theorem of_error (h : Course functions ctx made calls (.error err : Except EvalError α)) :
    ∃ front left, calls = front ++ left ∧ List.Forall₂ (CarriesOut functions ctx) made front ∧
      ((∃ earlier last, made = earlier ++ [last] ∧ (∀ inv ∈ earlier, inv.Succeeds) ∧
          last.result = .error err) ∨
        (∀ inv ∈ made, inv.Succeeds) ∧ ∃ name args behind,
          left = callsAll args ++ (name, args) :: behind ∧ functions.find? name = none ∧
            err = .unknownFunction name) := by
  generalize hr : (.error err : Except EvalError α) = r at h
  induction h with
  | done => cases hr
  | missing h =>
    cases hr
    exact ⟨[], _, rfl, .nil, .inr ⟨List.forall_mem_nil _, _, _, _, rfl, h, rfl⟩⟩
  | @failed inv call left err out h =>
    cases hr
    exact ⟨[call], left, rfl, .cons out .nil, .inl ⟨[], inv, rfl, List.forall_mem_nil _, h⟩⟩
  | @answered inv call made calls result v out h rest ih =>
    obtain ⟨front, left, rfl, pairs, ends⟩ := ih hr
    refine ⟨call :: front, left, rfl, .cons out pairs, ?_⟩
    rcases ends with ⟨earlier, last, rfl, succeed, fails⟩ | ⟨succeed, next⟩
    · exact .inl ⟨inv :: earlier, last, rfl, List.forall_mem_cons.2 ⟨⟨v, h⟩, succeed⟩, fails⟩
    · exact .inr ⟨List.forall_mem_cons.2 ⟨⟨v, h⟩, succeed⟩, next⟩

end Course

/-! ### The record of an evaluation -/

/-- From some state, an evaluation with recording functions goes as one without, and records the
course of some calls. -/
def Traced (functions : Registry σ) (ctx : Context) {α : Type} (before : CallState σ)
    (calls : List (String × List Expr)) (m : Evaluation σ α) (m' : Evaluation (Recorded σ) α) :
    Prop :=
  ∀ record, ∃ made,
    m'.run.run (before.recorded record) =
      ((m.run.run before).1, (m.run.run before).2.recorded (record ++ made)) ∧
    Course functions ctx made calls (m.run.run before).1

namespace Traced

variable {α β : Type} {before : CallState σ} {calls left : List (String × List Expr)}

/-- A value without a step is traced without calls. -/
theorem pure (v : α) : Traced functions ctx before [] (Pure.pure v) (Pure.pure v) := by
  intro record
  refine ⟨[], ?_, .done⟩
  rw [List.append_nil]
  rfl

/-- Steps one behind another are traced with the calls of both. -/
theorem bind {m : Evaluation σ α} {m' : Evaluation (Recorded σ) α} {k : α → Evaluation σ β}
    {k' : α → Evaluation (Recorded σ) β} (first : Traced functions ctx before calls m m')
    (second : ∀ v mid, m.run.run before = (.ok v, mid) →
      Traced functions ctx mid left (k v) (k' v)) :
    Traced functions ctx before (calls ++ left) (m >>= k) (m' >>= k') := by
  intro record
  obtain ⟨made, same, course⟩ := first record
  rw [Evaluation.run_bind, Evaluation.run_bind, same]
  cases result : m.run.run before with
  | mk r mid =>
    rw [result] at course
    cases r with
    | error err => exact ⟨made, rfl, course.cut⟩
    | ok v =>
      obtain ⟨more, same, rest⟩ := second v mid result (record ++ made)
      refine ⟨made ++ more, ?_, course.append rest⟩
      rw [← List.append_assoc]
      exact same

/-- Behind an evaluation, a step that calls nothing. -/
theorem map {m : Evaluation σ α} {m' : Evaluation (Recorded σ) α} {f : α → β}
    (h : Traced functions ctx before calls m m') :
    Traced functions ctx before calls (m >>= fun v => Pure.pure (f v))
      (m' >>= fun v => Pure.pure (f v)) := by
  rw [← List.append_nil calls]
  exact h.bind fun v mid _ => .pure (f v)

/-- A call of a function whose arguments have their values. -/
theorem invoke {name : String} {args : List Expr} {f : Callable σ} {vs : List Value}
    {mid : CallState σ} (found : functions.find? name = some f)
    (values : (evaluateAll functions ctx args).run.run before = (.ok vs, mid)) :
    Traced functions ctx mid [(name, args)] (f.invoke vs ctx)
      ((f.recorded (Text.lower name)).invoke vs ctx) := by
  intro record
  refine ⟨_, Callable.run_invoke_recorded f (Text.lower name) vs ctx mid record, ?_⟩
  have out (result : Except EvalError Value) (h : ((f.invoke vs ctx).run.run mid).1 = result) :
      CarriesOut functions ctx ⟨Text.lower name, vs, mid.host, result⟩ (name, args) := by
    refine ⟨rfl, ⟨before, mid, rfl, values⟩, f, found, ?_⟩
    rw [← h, Callable.run_invoke]
  cases answer : ((f.invoke vs ctx).run.run mid).1 with
  | ok v => exact .answered (out (.ok v) answer) rfl .done
  | error err => exact .failed (out (.error err) answer) rfl

end Traced

mutual

/-- **An evaluation goes as without recording, and runs the calls of the tree.** -/
theorem evaluate_traced : ∀ (e : Expr) (before : CallState σ),
    Traced functions ctx before e.calls (e.evaluate functions ctx)
      (e.evaluate functions.recorded ctx)
  | .literal l, before => by
    rw [evaluate, evaluate, calls]
    exact .pure _
  | .var path, before => by
    rw [evaluate, evaluate, calls]
    exact .pure _
  | .unary op arg, before => by
    rw [evaluate, evaluate, calls]
    exact (evaluate_traced arg before).map
  | .binary op lhs rhs, before => by
    rw [evaluate, evaluate, calls]
    exact (evaluate_traced lhs before).bind fun v mid _ => (evaluate_traced rhs mid).map
  | .call name args, before => by
    rw [evaluate, evaluate, calls, Registry.find?_recorded]
    cases found : functions.find? name with
    | none =>
      intro record
      refine ⟨[], ?_, .missing found⟩
      rw [List.append_nil]
      rfl
    | some f =>
      exact (evaluateAll_traced args before).bind fun vs mid values => .invoke found values
  | .array items, before => by
    rw [evaluate, evaluate, calls]
    exact (evaluateAll_traced items before).map

/-- The same of a list of trees. -/
theorem evaluateAll_traced : ∀ (es : List Expr) (before : CallState σ),
    Traced functions ctx before (callsAll es) (evaluateAll functions ctx es)
      (evaluateAll functions.recorded ctx es)
  | [], before => by
    rw [evaluateAll, evaluateAll, callsAll]
    exact .pure _
  | e :: es, before => by
    rw [evaluateAll, evaluateAll, callsAll]
    exact (evaluate_traced e before).bind fun v mid _ => (evaluateAll_traced es mid).map

end

/-- The functions that an evaluation runs, in order. -/
def invocations (e : Expr) (functions : Registry σ) (ctx : Context) (host : σ) :
    List (Invocation σ) :=
  (e.run functions.recorded ctx (host, [])).2.host.2

/-- A whole evaluation goes as without recording, and its record is the course of its calls. -/
theorem run_traced (e : Expr) (functions : Registry σ) (ctx : Context) (host : σ) :
    e.run functions.recorded ctx (host, []) =
        ((e.run functions ctx host).1,
          (e.run functions ctx host).2.recorded (e.invocations functions ctx host)) ∧
      Course functions ctx (e.invocations functions ctx host) e.calls
        (e.run functions ctx host).1 := by
  have traced : Traced functions ctx { host } e.calls _ _ := evaluate_traced e { host }
  obtain ⟨made, same, course⟩ := traced []
  have whole : e.run functions.recorded ctx (host, []) =
      ((e.run functions ctx host).1, (e.run functions ctx host).2.recorded made) := same
  have record : e.invocations functions ctx host = made := by
    rw [invocations, whole]
    rfl
  rw [record]
  exact ⟨whole, course⟩

/-- **Evaluation is eager and in order.** Recording what runs does not change an evaluation. If all
functions are registered and answer with values, exactly the calls of the tree are carried out, each
once and in order. If the evaluation fails, calls are carried out from the front of this list, and
none behind the first failure: a function that answers with an error is the last one run, and where
a function is missing, no other has failed and the calls in its arguments are the next in the
list. -/
theorem evaluation_eager (e : Expr) (functions : Registry σ) (ctx : Context) (host : σ) :
    e.run functions.recorded ctx (host, []) =
        ((e.run functions ctx host).1,
          (e.run functions ctx host).2.recorded (e.invocations functions ctx host)) ∧
      ((∀ call ∈ e.calls, (functions.find? call.1).isSome) →
        (∀ inv ∈ e.invocations functions ctx host, inv.Succeeds) →
          (∃ v, (e.run functions ctx host).1 = .ok v) ∧
          List.Forall₂ (CarriesOut functions ctx) (e.invocations functions ctx host) e.calls) ∧
      ∀ err, (e.run functions ctx host).1 = .error err →
        ∃ front left, e.calls = front ++ left ∧
          List.Forall₂ (CarriesOut functions ctx) (e.invocations functions ctx host) front ∧
          ((∃ earlier last, e.invocations functions ctx host = earlier ++ [last] ∧
              (∀ inv ∈ earlier, inv.Succeeds) ∧ last.result = .error err) ∨
            (∀ inv ∈ e.invocations functions ctx host, inv.Succeeds) ∧ ∃ name args behind,
              left = callsAll args ++ (name, args) :: behind ∧ functions.find? name = none ∧
                err = .unknownFunction name) := by
  obtain ⟨same, course⟩ := run_traced e functions ctx host
  refine ⟨same, ?_, ?_⟩
  · intro registered succeed
    cases result : (e.run functions ctx host).1 with
    | ok v =>
      rw [result] at course
      exact ⟨⟨v, rfl⟩, course.of_ok⟩
    | error err =>
      rw [result] at course
      obtain ⟨front, left, split, -, ends⟩ := course.of_error
      -- A call that fails and a function that is missing are both excluded.
      rcases ends with ⟨earlier, last, made, -, fails⟩ | ⟨-, name, args, behind, rfl, missing, -⟩
      · have mem : last ∈ e.invocations functions ctx host := by simp [made]
        obtain ⟨v, answers⟩ := succeed last mem
        rw [fails] at answers
        cases answers
      · have mem : (name, args) ∈ e.calls := by simp [split]
        have found := registered (name, args) mem
        rw [missing] at found
        cases found
  · intro err result
    rw [result] at course
    exact course.of_error

/-! Both operands of an `or` are run, although the first is true. -/

example :
    let functions : Registry Unit :=
      [("f", .ofFunction fun _ _ => .ok (.bool true)), ("g", .ofFunction fun _ _ => .ok .null)]
    ((binary .or (.call "f" []) (.call "g" [])).invocations functions {} ()).map
      (fun inv => inv.name) = ["f", "g"] := by
  decide +kernel

end Expr
end SurveyLogic
