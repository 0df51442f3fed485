/-
# Aggregates

The entries of an aggregate may be passed each by itself, in one list, or in several lists with
others between them; they are taken out of the lists before anything is computed. The count of what
is not empty and the promoter score do not depend on the order of the entries. Neither do the least
and the greatest number, but for the sign of a zero: of equal numbers the first is taken, and `0`
and `-0` are equal.

| entries | `count` | `min` | `nps` |
| --- | --- | --- | --- |
| `null`, an empty text | 0 | 0 | `null` |
| a text of blanks | 1 | 0 | `null` |
| `true`, `"7"`, `-3` | 3 | -3 | -50 |
-/

import SurveyLogic.Proofs.Library.Computed
import SurveyLogic.Proofs.Number.Order
import SurveyLogic.Proofs.Value.Order

namespace SurveyLogic
namespace Library

variable {σ : Type}

/-! ### The best of some numbers -/

/-- The first of the best numbers, zero if there are none. -/
def best (better : Float → Float → Prop) [DecidableRel better] : List Float → Float
  | [] => 0.0
  | x :: xs => xs.foldl (fun b y => if better y b then y else b) x

/-- The least number is the best one if a smaller one is better. -/
theorem least_eq_best (xs : List Float) : least xs = best (· < ·) xs := by
  cases xs <;> rfl

/-- The greatest number is the best one if a greater one is better. -/
theorem greatest_eq_best (xs : List Float) : greatest xs = best (fun x y => y < x) xs := by
  cases xs <;> rfl

/-- A relation that orders the numbers, where only equal ones are alike. -/
structure Orders (better : Float → Float → Prop) : Prop where
  irrefl : Std.Irrefl better
  trans : IsTrans Float better
  alike : ∀ {x y : Float}, x.isNaN = false → y.isNaN = false → ¬better x y → ¬better y x → x == y

/-- Being smaller orders the numbers. -/
theorem orders_lt : Orders (· < ·) where
  irrefl := Number.irrefl_lt
  trans := Number.isTrans_lt
  alike := Number.beq_of_not_lt

/-- Being greater orders the numbers. -/
theorem orders_gt : Orders fun x y => y < x where
  irrefl := ⟨Number.irrefl_lt.irrefl⟩
  trans := ⟨fun x y z more more' => Number.isTrans_lt.trans z y x more' more⟩
  alike number number' above below := Number.beq_of_not_lt number number' below above

section

variable {better : Float → Float → Prop} [DecidableRel better] {xs ys : List Float}

/-- The best of some numbers is one of them. -/
theorem best_mem (some : xs ≠ []) : best better xs ∈ xs := by
  cases xs with
  | nil => exact absurd rfl some
  | cons x xs =>
    refine List.foldlRecOn xs _ List.mem_cons_self fun b mem y mem' => ?_
    split
    · exact List.mem_cons_of_mem _ mem'
    · exact mem

/-- The fold that picks the best number is the one that picks the best argument. -/
theorem foldl_argAux_some (x : Float) :
    xs.foldl (List.argAux better) (some x) = some (best better (x :: xs)) := by
  refine List.foldl_hom some fun b y => ?_
  rw [apply_ite some]
  rfl

/-- None of the numbers is better than the best one. -/
theorem not_better_best (orders : Orders better) : ∀ x ∈ xs, ¬better x (best better xs) := by
  intro y mem
  cases xs with
  | nil => cases mem
  | cons x xs =>
    have found : best better (x :: xs) ∈ (x :: xs).foldl (List.argAux better) none :=
      foldl_argAux_some x
    exact List.not_of_mem_foldl_argAux better orders.irrefl orders.trans mem found

/-- In another order the best number is an equal one. -/
theorem best_perm (orders : Orders better) (perm : xs.Perm ys)
    (numbers : ∀ x ∈ xs, x.isNaN = false) : best better xs == best better ys := by
  by_cases none : xs = []
  · subst none
    rw [← perm.nil_eq]
    show (0.0 : Float) == 0.0
    decide +kernel
  · have some : ys ≠ [] := fun empty => none (perm.trans (.of_eq empty)).eq_nil
    have mem : best better xs ∈ xs := best_mem none
    have mem' : best better ys ∈ xs := perm.mem_iff.2 (best_mem some)
    exact orders.alike (numbers _ mem) (numbers _ mem')
      (not_better_best orders _ (perm.mem_iff.1 mem)) (not_better_best orders _ mem')

end

/-! ### Ratings -/

/-- The score does not depend on the order of the answers. -/
theorem promoterScore?_perm {xs ys : List Float} (perm : xs.Perm ys) :
    promoterScore? xs = promoterScore? ys := by
  have scores : (ratings xs).Perm (ratings ys) := perm.filter _
  unfold promoterScore?
  dsimp only
  rw [scores.isEmpty_eq, scores.countP_eq, scores.countP_eq, scores.length_eq]

/-- There is no score exactly if no answer is between 0 and 10. -/
theorem promoterScore?_eq_none_iff {xs : List Float} :
    promoterScore? xs = none ↔ ∀ x ∈ xs, ¬(0.0 ≤ x ∧ x ≤ 10.0) := by
  have none : promoterScore? xs = none ↔ ratings xs = [] := by
    unfold promoterScore?
    simp
  rw [none, ratings, List.filter_eq_nil_iff]
  simp

/-! ### Entries -/

/-- The arguments that pass some entries: each by itself, unless it is a list, or some of them in
one list. -/
inductive Passes : List Value → List Value → Prop
  | none : Passes [] []
  | single {v : Value} {args entries : List Value} (alone : v.toList? = none)
      (rest : Passes args entries) : Passes (v :: args) (v :: entries)
  | list {items args entries : List Value} (rest : Passes args entries) :
      Passes (.array items :: args) (items ++ entries)

/-- A value that is no list is a single entry. -/
theorem spread_of_alone {v : Value} (alone : v.toList? = none) : spread v = [v] := by
  cases v with
  | array items => cases alone
  | _ => rfl

/-- The entries of arguments are those that they pass. -/
theorem items_of_passes {args entries : List Value} (passes : Passes args entries) :
    items args = entries := by
  induction passes with
  | none => rfl
  | single alone rest ih =>
    rw [items, List.flatMap_cons, spread_of_alone alone, ← items, ih]
    rfl
  | list rest ih =>
    rw [items, List.flatMap_cons, ← items, ih]
    rfl

/-- All arguments pass some entries. -/
theorem passes_items (args : List Value) : Passes args (items args) := by
  induction args with
  | nil => exact .none
  | cons v args ih =>
    rw [items, List.flatMap_cons, ← items]
    cases v with
    | array items => exact .list ih
    | null | bool b | number x | string s | object fields => exact .single rfl ih

/-! ### Values -/

section

variable (clock : σ → Int)

/-- An entry of the arithmetic functions computes what its function makes. -/
theorem computes_of_mem_arithmetic {name : String} {f : List Value → Value}
    (mem : (name, plain f) ∈ arithmetic) : Computes clock name fun _ => f :=
  computes_of_mem_timeless clock (List.mem_append_left _
    (List.mem_append_left _ (List.mem_append_left _ (List.mem_append_right _ mem))))

/-- `min` computes the least of the numbers in its entries. -/
theorem computes_min : Computes clock "min" fun _ args => .number (least (numbers args)) :=
  computes_of_mem_arithmetic clock (List.mem_of_getElem? (show arithmetic[10]? = _ from rfl))

/-- `max` computes the greatest of the numbers in its entries. -/
theorem computes_max : Computes clock "max" fun _ args => .number (greatest (numbers args)) :=
  computes_of_mem_arithmetic clock (List.mem_of_getElem? (show arithmetic[11]? = _ from rfl))

/-- `count` computes how many of its entries are not empty. -/
theorem computes_count : Computes clock "count" fun _ args => whole (count args) :=
  computes_of_mem_arithmetic clock (List.mem_of_getElem? (show arithmetic[12]? = _ from rfl))

/-- `nps` computes the score of the numbers in its entries, `null` without any. -/
theorem computes_nps :
    Computes clock "nps" fun _ args => orNull ((promoterScore? (numbers args)).map .number) :=
  computes_of_mem_timeless clock (List.mem_append_right _ List.mem_cons_self)

end

section

variable {args args' xs ys : List Value}

/-- The numbers of arguments are those that the entries carry. -/
theorem numbers_of_passes (passes : Passes args xs) :
    numbers args = xs.filterMap Value.carriedNumber? := by
  rw [numbers, items_of_passes passes]

/-- No number that an entry carries is NaN. -/
theorem isNaN_carried (xs : List Value) :
    ∀ x ∈ xs.filterMap Value.carriedNumber?, x.isNaN = false := by
  intro x mem
  obtain ⟨v, -, carried⟩ := List.mem_filterMap.1 mem
  exact Value.isNaN_of_carriedNumber? carried

/-- A number that may be missing is `null` only if it is missing. -/
theorem orNull_map_eq_null_iff {x : Option Float} : orNull (x.map .number) = .null ↔ x = none := by
  cases x with
  | none => exact iff_of_true rfl rfl
  | some x => exact iff_of_false Value.noConfusion (Option.some_ne_none x)

end

/-- **Aggregates depend neither on the order of their entries nor on how these are passed,** and the
least and the greatest number only by the sign of a zero. These are zero without any number, and
else a number that is carried with none below it or above it. There is no score exactly if no number
from 0 to 10 is carried. -/
theorem aggregates_ignore_order (clock : σ → Int) :
    ∃ count nps min max : List Value → Value,
      Computes clock "count" (fun _ => count) ∧ Computes clock "nps" (fun _ => nps) ∧
      Computes clock "min" (fun _ => min) ∧ Computes clock "max" (fun _ => max) ∧
      (∀ {xs ys args args' : List Value}, xs.Perm ys → Passes args xs → Passes args' ys →
        count args = count args' ∧ nps args = nps args' ∧
        (min args).same (min args') ∧ (max args).same (max args')) ∧
      ∀ {xs args : List Value}, Passes args xs →
        let carried := xs.filterMap Value.carriedNumber?
        (carried = [] → min args = .number 0.0 ∧ max args = .number 0.0) ∧
        (carried ≠ [] →
          (∃ m ∈ carried, min args = .number m ∧ ∀ x ∈ carried, m ≤ x) ∧
          ∃ m ∈ carried, max args = .number m ∧ ∀ x ∈ carried, x ≤ m) ∧
        (nps args = .null ↔ ∀ x ∈ carried, ¬(0.0 ≤ x ∧ x ≤ 10.0)) := by
  refine ⟨_, _, _, _, computes_count clock, computes_nps clock, computes_min clock,
    computes_max clock, ?_, ?_⟩
  · intro xs ys args args' perm passes passes'
    have carried := perm.filterMap Value.carriedNumber?
    have real := isNaN_carried xs
    refine ⟨?_, ?_, ?_, ?_⟩
    · show whole (count args) = whole (count args')
      rw [count, count, items_of_passes passes, items_of_passes passes', perm.countP_eq]
    · show orNull _ = orNull _
      rw [numbers_of_passes passes, numbers_of_passes passes', promoterScore?_perm carried]
    · show least (numbers args) == least (numbers args')
      rw [numbers_of_passes passes, numbers_of_passes passes', least_eq_best, least_eq_best]
      exact best_perm orders_lt carried real
    · show greatest (numbers args) == greatest (numbers args')
      rw [numbers_of_passes passes, numbers_of_passes passes', greatest_eq_best, greatest_eq_best]
      exact best_perm orders_gt carried real
  · intro xs args passes
    dsimp only
    rw [numbers_of_passes passes, least_eq_best, greatest_eq_best, orNull_map_eq_null_iff]
    refine ⟨?_, ?_, promoterScore?_eq_none_iff⟩
    · intro none
      rw [none]
      exact ⟨rfl, rfl⟩
    · intro some
      have real := isNaN_carried xs
      constructor
      · refine ⟨_, best_mem some, rfl, fun x mem => ?_⟩
        exact Number.le_of_not_lt (real _ (best_mem some)) (real x mem)
          (not_better_best orders_lt x mem)
      · refine ⟨_, best_mem some, rfl, fun x mem => ?_⟩
        exact Number.le_of_not_lt (real x mem) (real _ (best_mem some))
          (not_better_best orders_gt x mem)

/-- The hypotheses of `aggregates_ignore_order` are satisfiable: three entries in one list, and in
another order one by itself and the others in a list. -/
theorem aggregates_ignore_order_grouped :
    let xs : List Value := [.string "7", .bool true, .null]
    let ys : List Value := [.bool true, .string "7", .null]
    let args : List Value := [.array xs]
    let args' : List Value := [.bool true, .array [.string "7", .null]]
    let carried := xs.filterMap Value.carriedNumber?
    xs.Perm ys ∧ Passes args xs ∧ Passes args' ys ∧ carried ≠ [] ∧
      ∃ count nps min max : List Value → Value,
        Computes (id : Int → Int) "count" (fun _ => count) ∧
        Computes (id : Int → Int) "nps" (fun _ => nps) ∧
        Computes (id : Int → Int) "min" (fun _ => min) ∧
        Computes (id : Int → Int) "max" (fun _ => max) ∧
        count args = count args' ∧ nps args = nps args' ∧ (min args).same (min args') ∧
        ∃ m ∈ carried, max args = .number m ∧ ∀ x ∈ carried, x ≤ m := by
  intro xs ys args args' carried
  have perm : xs.Perm ys := .swap _ _ _
  have passes : Passes args xs := passes_items args
  have passes' : Passes args' ys := passes_items args'
  have some : carried ≠ [] := List.ne_nil_of_mem
    (List.mem_filterMap.2 ⟨.bool true, List.mem_cons_of_mem _ List.mem_cons_self, rfl⟩)
  obtain ⟨count, nps, min, max, counts, scores, least, greatest, same, among⟩ :=
    aggregates_ignore_order (id : Int → Int)
  obtain ⟨counted, scored, lowest, -⟩ := same perm passes passes'
  obtain ⟨-, extremes, -⟩ := among passes
  exact ⟨perm, passes, passes', some, count, nps, min, max, counts, scores, least, greatest,
    counted, scored, lowest, (extremes some).2⟩

end Library
end SurveyLogic
