/-
# Runs over what is left of a text

What a run from an instruction needs of the text in front of it, read off instruction by
instruction: `Completes code pc front rest` says that a run from `pc` can succeed with `front`
behind it and `rest` before it. A set takes the first character of `rest`; a set with a fork back to
it, which is how `x+` is written, takes any number of characters but none (`completes_some`). A
pattern matches somewhere in a text exactly if a run completes with the text cut somewhere
(`isMatch_iff_completes`).

| instruction | `Completes code pc front rest` |
| --- | --- |
| `set a` | `rest` is `c :: cs` with `c` in `a`, and what follows completes in front of `cs` |
| `fork first second` | one of the two completes |
| `look textStart` | `front` is empty, and what follows completes |
| `look textEnd` | `rest` is empty, and what follows completes |
| `accept` | always |
-/

import SurveyLogic.Proofs.Pattern.Search

namespace SurveyLogic
namespace Pattern

theorem CharSet.has_single {c d : Char} : (single c).has d ↔ d = c := by
  simp only [has, single, between, Text.Ranges.covers, Bool.or_false, Bool.and_eq_true,
    decide_eq_true_eq, ← Nat.le_antisymm_iff, Char.toNat_inj]
  exact eq_comm

/-- A run from an instruction can succeed with `front` read and `rest` still to come. -/
def Completes (code : Array Instruction) (pc : Nat) (front rest : List Char) : Prop :=
  Succeeds code (front ++ rest).toArray pc front.length

/-- A set holds at a cut of a text if it has the first character behind the cut. -/
theorem holdsAt_append (a : CharSet) (front rest : List Char) :
    holdsAt (front ++ rest).toArray a front.length = rest.head?.any a.has := by
  rw [holdsAt, List.getElem?_toArray, List.getElem?_append_right (Nat.le_refl _), Nat.sub_self,
    List.head?_eq_getElem?]

section

variable {code : Array Instruction} {pc : Nat} {front rest : List Char}

/-- A run completes where it accepts. -/
theorem completes_accept (here : code[pc]? = some .accept) : Completes code pc front rest :=
  .accept here

/-- A run goes on where an assertion holds. -/
theorem completes_look {a : Assertion} (here : code[pc]? = some (.look a)) :
    Completes code pc front rest ↔
      a.holds (front ++ rest).toArray front.length ∧ Completes code (pc + 1) front rest := by
  rw [Completes, succeeds_iff here, Instruction.after]
  split
  · rename_i holds
    simp [holds, Completes]
  · rename_i fails
    simp [fails]

/-- At the start of a text nothing has been read. -/
theorem completes_textStart (here : code[pc]? = some (.look .textStart)) :
    Completes code pc front rest ↔ front = [] ∧ Completes code (pc + 1) front rest := by
  rw [completes_look here, Assertion.holds, beq_iff_eq, List.length_eq_zero_iff]

/-- At the end of a text nothing is still to come. -/
theorem completes_textEnd (here : code[pc]? = some (.look .textEnd)) :
    Completes code pc front rest ↔ rest = [] ∧ Completes code (pc + 1) front rest := by
  rw [completes_look here, Assertion.holds, beq_iff_eq, List.size_toArray, List.length_append,
    Nat.left_eq_add, List.length_eq_zero_iff]

/-- A run completes from a fork if it does so one way or the other. -/
theorem completes_fork {first second : Nat} (here : code[pc]? = some (.fork first second)) :
    Completes code pc front rest ↔
      Completes code first front rest ∨ Completes code second front rest := by
  rw [Completes, succeeds_iff here, Instruction.after]
  simp [Completes]

/-- A run goes on behind a character that the set has. -/
theorem completes_set {a : CharSet} (here : code[pc]? = some (.set a)) :
    Completes code pc front rest ↔
      ∃ c cs, rest = c :: cs ∧ a.has c ∧ Completes code (pc + 1) (front ++ [c]) cs := by
  have taken (c : Char) (cs : List Char) :
      Completes code (pc + 1) (front ++ [c]) cs ↔
        Succeeds code (front ++ c :: cs).toArray (pc + 1) (front.length + 1) := by
    rw [Completes, ← List.append_cons, List.length_append, List.length_singleton]
  rw [Completes, succeeds_iff here, Instruction.after, holdsAt_append]
  cases rest with
  | nil => simp
  | cons c cs =>
    rw [List.head?_cons, Option.any_some]
    split
    · rename_i has
      simp [has, taken]
    · rename_i lacks
      simp [lacks]

/-- **A set with a fork back to it takes some characters,** and at least one. The induction is on
what is left, which each way around the loop makes shorter. -/
theorem completes_some {a : CharSet} (here : code[pc]? = some (.set a))
    (back : code[pc + 1]? = some (.fork pc (pc + 2))) :
    Completes code pc front rest ↔
      ∃ cs others, rest = cs ++ others ∧ cs ≠ [] ∧ (∀ c ∈ cs, a.has c) ∧
        Completes code (pc + 2) (front ++ cs) others := by
  constructor
  · intro run
    -- Each way around the loop takes a character off what is left.
    induction rest generalizing front with
    | nil =>
      obtain ⟨c, cs, cons, -⟩ := (completes_set here).1 run
      cases cons
    | cons c rest ih =>
      obtain ⟨d, ds, cons, has, goes⟩ := (completes_set here).1 run
      obtain ⟨rfl, rfl⟩ := List.cons.inj cons
      rcases (completes_fork back).1 goes with again | on
      · obtain ⟨cs, others, rfl, -, all, ends⟩ := ih again
        refine ⟨c :: cs, others, rfl, List.cons_ne_nil _ _, List.forall_mem_cons.2 ⟨has, all⟩, ?_⟩
        rwa [List.append_cons]
      · exact ⟨[c], rest, rfl, List.cons_ne_nil _ _, by simpa using has, on⟩
  · rintro ⟨cs, others, rfl, some, all, ends⟩
    induction cs generalizing front with
    | nil => exact absurd rfl some
    | cons c cs ih =>
      obtain ⟨has, all⟩ := List.forall_mem_cons.1 all
      refine (completes_set here).2 ⟨c, cs ++ others, rfl, has, (completes_fork back).2 ?_⟩
      rw [List.append_cons] at ends
      cases cs with
      | nil =>
        rw [List.append_nil] at ends
        exact .inr ends
      | cons d cs => exact .inl (ih (List.cons_ne_nil _ _) all ends)

end

/-- **A pattern matches somewhere in a text exactly if a run completes from some cut of it.** -/
theorem Program.isMatch_iff_completes (p : Program) (s : String) :
    p.isMatch s ↔ ∃ front rest, s.toList = front ++ rest ∧ Completes p.code 0 front rest := by
  rw [isMatch_iff]
  constructor
  · rintro ⟨pos, le, run⟩
    refine ⟨s.toList.take pos, s.toList.drop pos, (List.take_append_drop _ _).symm, ?_⟩
    rw [← String.length_toList] at le
    rwa [Completes, List.take_append_drop, List.length_take_of_le le]
  · rintro ⟨front, rest, cut, run⟩
    rw [Completes, ← cut] at run
    refine ⟨front.length, ?_, run⟩
    rw [← String.length_toList, cut, List.length_append]
    exact Nat.le_add_right _ _

end Pattern
end SurveyLogic
