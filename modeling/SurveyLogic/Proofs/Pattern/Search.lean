/-
# What a search finds

A state of a run is an instruction at a position, and each instruction leads from there to at most
two further states (`Instruction.after`). A run from a state can succeed if some way from it leads
to success (`Succeeds`); which side of a fork is preferred, and what the slots hold, does not matter
to that. **A search finds a match exactly if a run from some position can succeed** (`isMatch_iff`),
so neither the states it does not enter twice nor its bound on steps ever cost it a match.

While nothing is found, no state that was entered succeeds at once, and what such a state leads to
was entered too or is still to be done (`Closed`). Each state entered for the first time adds at
most one task more than it takes away, so the tasks and twice the states not entered yet bound the
steps left (`room`).
-/

import Mathlib.Data.Finset.Card
import SurveyLogic.Pattern.Search

namespace SurveyLogic
namespace Pattern

/-! ### Runs -/

/-- The states that an instruction leads to from a position. -/
def Instruction.after (text : Array Char) (pc pos : Nat) : Instruction → List (Nat × Nat)
  | set a => if holdsAt text a pos then [(pc + 1, pos + 1)] else []
  | look a => if a.holds text pos then [(pc + 1, pos)] else []
  | save _ => [(pc + 1, pos)]
  | jump target => [(target, pos)]
  | fork first second => [(first, pos), (second, pos)]
  | accept => []

/-- Some run from an instruction at a position ends with success. -/
inductive Succeeds (code : Array Instruction) (text : Array Char) : (pc pos : Nat) → Prop where
  | accept {pc pos : Nat} (here : code[pc]? = some .accept) : Succeeds code text pc pos
  | step {pc pos : Nat} {i : Instruction} {next : Nat × Nat} (here : code[pc]? = some i)
      (leads : next ∈ i.after text pc pos) (rest : Succeeds code text next.1 next.2) :
      Succeeds code text pc pos

variable {code : Array Instruction} {text : Array Char} {pc pos : Nat}

/-- A run succeeds at its last instruction, or from a state that the instruction leads to. -/
theorem succeeds_iff {i : Instruction} (here : code[pc]? = some i) :
    Succeeds code text pc pos ↔
      i = .accept ∨ ∃ next ∈ i.after text pc pos, Succeeds code text next.1 next.2 := by
  constructor
  · intro run
    cases run with
    | accept found => exact .inl (Option.some.inj (here.symm.trans found))
    | step found leads rest =>
      obtain rfl := Option.some.inj (here.symm.trans found)
      exact .inr ⟨_, leads, rest⟩
  · rintro (rfl | ⟨next, leads, rest⟩)
    · exact .accept here
    · exact .step here leads rest

/-- A set holds inside of the text only. -/
theorem lt_size_of_holdsAt {a : CharSet} (h : holdsAt text a pos) : pos < text.size := by
  by_contra outside
  rw [holdsAt, Array.getElem?_eq_none (Nat.le_of_not_lt outside)] at h
  exact Bool.false_ne_true h

/-- No run leaves the text. -/
theorem Instruction.after_le {i : Instruction} {next : Nat × Nat} (h : next ∈ i.after text pc pos)
    (le : pos ≤ text.size) : next.2 ≤ text.size := by
  cases i with
  | set a =>
    rw [after] at h
    split at h
    · rename_i holds
      obtain rfl := List.mem_singleton.1 h
      exact lt_size_of_holdsAt holds
    · exact absurd h List.not_mem_nil
  | look a =>
    rw [after] at h
    split at h
    · obtain rfl := List.mem_singleton.1 h
      exact le
    · exact absurd h List.not_mem_nil
  | save | jump =>
    obtain rfl := List.mem_singleton.1 h
    exact le
  | fork first second =>
    rcases List.mem_pair.1 h with rfl | rfl <;> exact le
  | accept => exact absurd h List.not_mem_nil

/-- What an instruction other than the last leaves to be done are the states that it leads to. -/
theorem Instruction.step_of_ne_accept (text : Array Char) (pc pos : Nat) {i : Instruction}
    (h : i ≠ .accept) (slots : Slots) :
    ∃ new slots', i.step text pc pos slots = .more new slots' ∧ new.length ≤ 2 ∧
      ∀ pc' pos', .run pc' pos' ∈ new ↔ (pc', pos') ∈ i.after text pc pos := by
  cases i with
  | set a =>
    rw [step, after]
    split <;> exact ⟨_, _, rfl, by simp, by simp⟩
  | look a =>
    rw [step, after]
    split <;> exact ⟨_, _, rfl, by simp, by simp⟩
  | save | jump | fork => exact ⟨_, _, rfl, by simp, by simp [after]⟩
  | accept => exact absurd rfl h

/-! ### What is found -/

/-- **Where a search succeeds, a run from one of its tasks can.** -/
theorem exists_succeeds_of_work {fuel : Nat} {tasks : List Task} {slots : Slots}
    {entered : Entered} {found : Nat × Slots}
    (h : (work code text fuel tasks slots entered).1 = some found) :
    ∃ pc pos, .run pc pos ∈ tasks ∧ Succeeds code text pc pos := by
  fun_induction work code text fuel tasks slots entered with
  | case1 | case2 => cases h
  | case3 fuel slot old tasks slots entered ih =>
    obtain ⟨pc, pos, mem, run⟩ := ih h
    exact ⟨pc, pos, List.mem_cons_of_mem _ mem, run⟩
  | case4 fuel pc pos tasks slots entered state again ih =>
    obtain ⟨pc', pos', mem, run⟩ := ih h
    exact ⟨pc', pos', List.mem_cons_of_mem _ mem, run⟩
  | case5 fuel pc pos tasks slots entered state new entered' outside ih =>
    obtain ⟨pc', pos', mem, run⟩ := ih h
    exact ⟨pc', pos', List.mem_cons_of_mem _ mem, run⟩
  | case6 fuel pc pos tasks slots entered state new entered' i here stop last =>
    refine ⟨pc, pos, List.mem_cons_self, ?_⟩
    by_cases accepts : i = .accept
    · exact .accept (accepts ▸ here)
    · obtain ⟨more, slots', goes, -⟩ := Instruction.step_of_ne_accept text pc pos accepts slots
      rw [goes] at last
      cases last
  | case7 fuel pc pos tasks slots entered state new entered' i here more slots' goes ih =>
    obtain ⟨pc', pos', mem, run⟩ := ih h
    rcases List.mem_append.1 mem with mem | mem
    · have proper : i ≠ .accept := by
        rintro rfl
        cases goes
      obtain ⟨more', slots'', goes', -, leads⟩ :=
        Instruction.step_of_ne_accept text pc pos proper slots
      rw [goes] at goes'
      cases goes'
      exact ⟨pc, pos, List.mem_cons_self, .step here ((leads pc' pos').1 mem) run⟩
    · exact ⟨pc', pos', List.mem_cons_of_mem _ mem, run⟩

/-! ### What is not overlooked -/

/-- The number of a state. -/
def stateNumber (text : Array Char) (pc pos : Nat) : Nat :=
  pc * (text.size + 1) + pos

/-- States in the text are told apart by their numbers. -/
theorem stateNumber_inj {pc' pos' : Nat} (le : pos ≤ text.size) (le' : pos' ≤ text.size)
    (h : stateNumber text pc pos = stateNumber text pc' pos') : pc = pc' ∧ pos = pos' := by
  have quotient (pc pos : Nat) (le : pos ≤ text.size) :
      stateNumber text pc pos / (text.size + 1) = pc ∧
        stateNumber text pc pos % (text.size + 1) = pos := by
    rw [stateNumber, Nat.mul_comm, Nat.mul_add_div (Nat.succ_pos _), Nat.mul_add_mod,
      Nat.div_eq_of_lt (Nat.lt_succ_of_le le), Nat.mod_eq_of_lt (Nat.lt_succ_of_le le)]
    exact ⟨rfl, rfl⟩
  obtain ⟨q, r⟩ := quotient pc pos le
  obtain ⟨q', r'⟩ := quotient pc' pos' le'
  rw [h] at q r
  exact ⟨q.symm.trans q', r.symm.trans r'⟩

/-- The number of a state of the program is within the range of all. -/
theorem stateNumber_lt (inside : pc < code.size) (le : pos ≤ text.size) :
    stateNumber text pc pos < code.size * (text.size + 1) := by
  have := Nat.mul_le_mul_right (text.size + 1) (Nat.succ_le_of_lt inside)
  rw [Nat.succ_mul] at this
  rw [stateNumber]
  omega

/-- A state that was entered or is among the tasks. -/
def Known (text : Array Char) (tasks : List Task) (entered : Entered) (state : Nat × Nat) : Prop :=
  stateNumber text state.1 state.2 ∈ entered ∨ .run state.1 state.2 ∈ tasks

namespace Known

variable {tasks : List Task} {entered : Entered} {state : Nat × Nat}

/-- What is known stays so without a task that is no run. -/
theorem restored {slot : Nat} {old : Option Nat}
    (h : Known text (.restore slot old :: tasks) entered state) : Known text tasks entered state :=
  h.imp_right fun mem => by simpa using mem

/-- What is known stays so without a run whose state is entered. -/
theorem again (h : Known text (.run pc pos :: tasks) entered state)
    (mem : stateNumber text pc pos ∈ entered) : Known text tasks entered state := by
  rcases h with known | due
  · exact .inl known
  · rcases List.mem_cons.1 due with same | due
    · cases same
      exact .inl mem
    · exact .inr due

/-- What is known stays so when a run enters its state. -/
theorem enter (h : Known text (.run pc pos :: tasks) entered state) (new : List Task) :
    Known text (new ++ tasks) (entered.insert (stateNumber text pc pos)) state := by
  have inserted :
      Known text (.run pc pos :: tasks) (entered.insert (stateNumber text pc pos)) state :=
    h.imp_left fun mem => Std.HashSet.mem_insert.2 (.inr mem)
  exact (inserted.again Std.HashSet.mem_insert_self).imp_right (List.mem_append_right new)

end Known

/-- What holds while nothing is found: the tasks are in the text, no state entered succeeds at once,
what it leads to is known, and so are the first states of the runs from the positions tried. -/
structure Closed (code : Array Instruction) (text : Array Char) (tried : Nat) (tasks : List Task)
    (entered : Entered) : Prop where
  within : ∀ pc pos, .run pc pos ∈ tasks → pos ≤ text.size
  leads : ∀ pc pos i, pos ≤ text.size → stateNumber text pc pos ∈ entered → code[pc]? = some i →
    i ≠ .accept ∧ ∀ next ∈ i.after text pc pos, Known text tasks entered next
  starts : ∀ start < tried, Known text tasks entered (0, start)

namespace Closed

variable {tried : Nat} {tasks : List Task} {entered : Entered}

/-- All of this holds before any position is tried. -/
theorem empty : Closed code text 0 [] ∅ :=
  ⟨fun _ _ mem => absurd mem List.not_mem_nil, fun _ _ _ _ mem _ => absurd mem (by simp),
    fun _ lt => absurd lt (Nat.not_lt_zero _)⟩

/-- The next position is tried by a run from the first instruction. -/
theorem next (h : Closed code text tried [] entered) (le : tried ≤ text.size) :
    Closed code text (tried + 1) [.run 0 tried] entered := by
  have kept (state : Nat × Nat) (known : Known text [] entered state) :
      Known text [.run 0 tried] entered state :=
    known.imp_right fun mem => absurd mem List.not_mem_nil
  refine ⟨fun pc pos mem => ?_, fun pc pos i le' mem here => ?_, fun start lt => ?_⟩
  · cases List.mem_singleton.1 mem
    exact le
  · obtain ⟨proper, leads⟩ := h.leads pc pos i le' mem here
    exact ⟨proper, fun next after => kept next (leads next after)⟩
  · rcases Nat.lt_succ_iff_lt_or_eq.1 lt with lt | rfl
    · exact kept _ (h.starts start lt)
    · exact .inr List.mem_cons_self

/-- A task that is no run may go. -/
theorem restored {slot : Nat} {old : Option Nat}
    (h : Closed code text tried (.restore slot old :: tasks) entered) :
    Closed code text tried tasks entered := by
  refine ⟨fun pc pos mem => h.within pc pos (List.mem_cons_of_mem _ mem),
    fun pc pos i le mem here => ?_, fun start lt => (h.starts start lt).restored⟩
  obtain ⟨proper, leads⟩ := h.leads pc pos i le mem here
  exact ⟨proper, fun next after => (leads next after).restored⟩

/-- A run whose state is entered may go. -/
theorem again (h : Closed code text tried (.run pc pos :: tasks) entered)
    (known : stateNumber text pc pos ∈ entered) : Closed code text tried tasks entered := by
  refine ⟨fun pc pos mem => h.within pc pos (List.mem_cons_of_mem _ mem),
    fun pc' pos' i le mem here => ?_, fun start lt => (h.starts start lt).again known⟩
  obtain ⟨proper, leads⟩ := h.leads pc' pos' i le mem here
  exact ⟨proper, fun next after => (leads next after).again known⟩

/-- A run enters its state and leaves to be done what its instruction leads to. -/
theorem enter (h : Closed code text tried (.run pc pos :: tasks) entered) {new : List Task}
    (within : ∀ pc' pos', .run pc' pos' ∈ new → pos' ≤ text.size)
    (leads : ∀ i, code[pc]? = some i →
      i ≠ .accept ∧ ∀ next ∈ i.after text pc pos, .run next.1 next.2 ∈ new) :
    Closed code text tried (new ++ tasks) (entered.insert (stateNumber text pc pos)) := by
  have le : pos ≤ text.size := h.within pc pos List.mem_cons_self
  refine ⟨fun pc' pos' mem => ?_, fun pc' pos' i le' mem here => ?_,
    fun start lt => (h.starts start lt).enter new⟩
  · rcases List.mem_append.1 mem with mem | mem
    · exact within pc' pos' mem
    · exact h.within pc' pos' (List.mem_cons_of_mem _ mem)
  · rcases Std.HashSet.mem_insert.1 mem with same | mem
    · obtain ⟨rfl, rfl⟩ := stateNumber_inj le le' (beq_iff_eq.1 same)
      obtain ⟨proper, goes⟩ := leads i here
      exact ⟨proper, fun next after => .inr (List.mem_append_left _ (goes next after))⟩
    · obtain ⟨proper, goes⟩ := h.leads pc' pos' i le' mem here
      exact ⟨proper, fun next after => (goes next after).enter new⟩

/-- **With nothing left to be done no state entered succeeds.** -/
theorem not_succeeds (h : Closed code text tried [] entered) (le : pos ≤ text.size)
    (known : Known text [] entered (pc, pos)) : ¬ Succeeds code text pc pos := by
  have entered_of {state : Nat × Nat} (known : Known text [] entered state) :
      stateNumber text state.1 state.2 ∈ entered :=
    known.resolve_right List.not_mem_nil
  intro run
  induction run with
  | accept here => exact (h.leads _ _ _ le (entered_of known) here).1 rfl
  | step here after rest ih =>
    have leads := (h.leads _ _ _ le (entered_of known) here).2
    exact ih (Instruction.after_le after le) (leads _ after)

end Closed

/-! ### The bound on steps -/

/-- The states of a program that are not entered yet. -/
def freshStates (code : Array Instruction) (text : Array Char) (entered : Entered) : Finset Nat :=
  (Finset.range (code.size * (text.size + 1))).filter (· ∉ entered)

/-- A bound for the steps left. -/
def room (code : Array Instruction) (text : Array Char) (tasks : List Task) (entered : Entered) :
    Nat :=
  tasks.length + 2 * (freshStates code text entered).card

/-- Entering a state makes no other one fresh. -/
theorem freshStates_insert_subset (code : Array Instruction) (text : Array Char)
    (entered : Entered) (state : Nat) :
    freshStates code text (entered.insert state) ⊆ freshStates code text entered := by
  intro n mem
  simp only [freshStates, Finset.mem_filter, Std.HashSet.mem_insert, not_or] at mem ⊢
  exact ⟨mem.1, mem.2.2⟩

/-- Entering a fresh state leaves fewer of them. -/
theorem card_freshStates_insert {entered : Entered} (inside : pc < code.size)
    (le : pos ≤ text.size) (fresh : stateNumber text pc pos ∉ entered) :
    (freshStates code text (entered.insert (stateNumber text pc pos))).card <
      (freshStates code text entered).card := by
  have subset := freshStates_insert_subset code text entered (stateNumber text pc pos)
  refine Finset.card_lt_card ((Finset.ssubset_iff_of_subset subset).2
    ⟨stateNumber text pc pos, ?_, by simp [freshStates]⟩)
  simp only [freshStates, Finset.mem_filter, Finset.mem_range]
  exact ⟨stateNumber_lt inside le, fresh⟩

/-- Entering a state takes up room. -/
theorem room_enter (code : Array Instruction) (tasks : List Task) {entered : Entered}
    {new : List Task} (le : pos ≤ text.size)
    (fresh : stateNumber text pc pos ∉ entered)
    (few : new = [] ∨ pc < code.size ∧ new.length ≤ 2) :
    room code text (new ++ tasks) (entered.insert (stateNumber text pc pos)) <
      room code text (.run pc pos :: tasks) entered := by
  rw [room, room, List.length_append, List.length_cons]
  rcases few with rfl | ⟨inside, few⟩
  · have fewer := Finset.card_le_card
      (freshStates_insert_subset code text entered (stateNumber text pc pos))
    rw [List.length_nil]
    omega
  · have fewer := card_freshStates_insert inside le fresh
    omega

/-- **A search that finds nothing leaves nothing to be done,** if its steps suffice. -/
theorem closed_of_work {fuel tried : Nat} {tasks : List Task} {slots : Slots}
    {entered entered' : Entered} (h : Closed code text tried tasks entered)
    (enough : room code text tasks entered < fuel)
    (nothing : work code text fuel tasks slots entered = (none, entered')) :
    Closed code text tried [] entered' := by
  fun_induction work code text fuel tasks slots entered with
  | case1 => exact absurd enough (Nat.not_lt_zero _)
  | case2 fuel slots entered =>
    cases nothing
    exact h
  | case3 fuel slot old tasks slots entered ih =>
    rw [room, List.length_cons] at enough
    exact ih h.restored (by rw [room]; omega) nothing
  | case4 fuel pc pos tasks slots entered state again ih =>
    rw [room, List.length_cons] at enough
    exact ih (h.again (Std.HashSet.mem_iff_contains.2 again)) (by rw [room]; omega) nothing
  | case5 fuel pc pos tasks slots entered state fresh entered'' outside ih =>
    have le : pos ≤ text.size := h.within pc pos List.mem_cons_self
    have missing : stateNumber text pc pos ∉ entered := fun mem =>
      fresh (Std.HashSet.mem_iff_contains.1 mem)
    have less := room_enter code tasks le missing (.inl rfl)
    refine ih (h.enter (fun _ _ mem => absurd mem List.not_mem_nil) fun i here => ?_)
      (Nat.lt_of_lt_of_le less (Nat.lt_succ_iff.1 enough)) nothing
    rw [outside] at here
    cases here
  | case6 => cases nothing
  | case7 fuel pc pos tasks slots entered state fresh entered'' i here new slots' goes ih =>
    have le : pos ≤ text.size := h.within pc pos List.mem_cons_self
    have missing : stateNumber text pc pos ∉ entered := fun mem =>
      fresh (Std.HashSet.mem_iff_contains.1 mem)
    have proper : i ≠ .accept := by
      rintro rfl
      cases goes
    -- The states that the instruction leads to become tasks, so they stay known.
    obtain ⟨new', slots'', goes', few, leads⟩ :=
      Instruction.step_of_ne_accept text pc pos proper slots
    rw [goes] at goes'
    cases goes'
    obtain ⟨inside, -⟩ := Array.getElem?_eq_some_iff.1 here
    have less := room_enter code tasks le missing (.inr ⟨inside, few⟩)
    refine ih (h.enter (fun pc' pos' mem => ?_) fun j found => ?_)
      (Nat.lt_of_lt_of_le less (Nat.lt_succ_iff.1 enough)) nothing
    · exact Instruction.after_le ((leads pc' pos').1 mem) le
    · obtain rfl := Option.some.inj (here.symm.trans found)
      exact ⟨proper, fun next after => (leads next.1 next.2).2 after⟩

/-! ### Whole searches -/

namespace Program

variable {p : Program}

/-- A search has fuel for all states of its program. -/
theorem room_lt_fuel (p : Program) (text : Array Char) (pc pos : Nat) (entered : Entered) :
    room p.code text [.run pc pos] entered < p.fuel text := by
  have most : (freshStates p.code text entered).card ≤ p.code.size * (text.size + 1) :=
    (Finset.card_filter_le _ _).trans_eq (Finset.card_range _)
  rw [room, fuel, List.length_singleton, Nat.mul_assoc]
  omega

/-- Where a search from some positions succeeds, a run from one of them does. -/
theorem exists_succeeds_of_searchFrom {count start : Nat} {entered : Entered}
    (h : (p.searchFrom text count start entered).isSome) :
    ∃ pos, pos < start + count ∧ Succeeds p.code text 0 pos := by
  fun_induction searchFrom p text count start entered with
  | case1 => cases h
  | case2 count start entered slots stop slots' entered' found =>
    obtain ⟨pc, pos, mem, run⟩ := exists_succeeds_of_work (congrArg Prod.fst found)
    cases List.mem_singleton.1 mem
    exact ⟨start, by omega, run⟩
  | case3 count start entered slots entered' nothing ih =>
    obtain ⟨pos, lt, run⟩ := ih h
    exact ⟨pos, by omega, run⟩

/-- Where it finds nothing up to the end, no run from any position succeeds. -/
theorem not_succeeds_of_searchFrom {count start : Nat} {entered : Entered}
    (closed : Closed p.code text start [] entered) (whole : start + count = text.size + 1)
    (h : p.searchFrom text count start entered = none) {pos : Nat} (le : pos ≤ text.size) :
    ¬ Succeeds p.code text 0 pos := by
  fun_induction searchFrom p text count start entered with
  | case1 start entered => exact closed.not_succeeds le (closed.starts pos (by omega))
  | case2 => cases h
  | case3 count start entered slots entered' nothing ih =>
    have begun := closed.next (by omega)
    exact ih (closed_of_work begun (room_lt_fuel p text 0 start entered) nothing) (by omega) h

/-- **A pattern matches somewhere in a text exactly if a run from some position can succeed.** -/
theorem isMatch_iff (p : Program) (s : String) :
    p.isMatch s ↔ ∃ pos ≤ s.length, Succeeds p.code s.toList.toArray 0 pos := by
  have size : s.toList.toArray.size = s.length := by rw [List.size_toArray, String.length_toList]
  rw [isMatch, matchFrom?, Nat.sub_zero, size]
  constructor
  · intro found
    obtain ⟨pos, lt, run⟩ := exists_succeeds_of_searchFrom found
    exact ⟨pos, by omega, run⟩
  · rintro ⟨pos, le, run⟩
    by_contra nothing
    rw [Option.isSome_iff_ne_none, not_not] at nothing
    exact not_succeeds_of_searchFrom .empty (by omega) nothing (by omega) run

end Program
end Pattern
end SurveyLogic
