/-
# Doubles in order

Whatever is not NaN has a rank in one row: the infinities stand at the ends, zeros of both signs in
the middle, and the others by exponent and mantissa, in reverse on the negative side. Doubles are
ordered by their ranks (`compare_eq_lt_iff`), so the order is transitive, and of two numbers one is
below the other or both are equal.
-/

import Mathlib.Data.Prod.Lex
import SurveyLogic.Proofs.Number.Comparison

namespace SurveyLogic
namespace Number

open Float.Model Float.Model.UnpackedFloat

variable {u v : UnpackedFloat} {x y z : Float}

/-! ### Ranks -/

/-- The rank of parts in the row of all numbers: the side of zero, the exponent, the mantissa. -/
def rank : UnpackedFloat → Int ×ₗ Int ×ₗ Int
  | .infinity s => toLex (s.apply 2, toLex (0, 0))
  | .finite s m e _ => toLex (s.apply 1, toLex (s.apply e, s.apply m))
  | .zero _ | .notANumber => toLex (0, toLex (0, 0))

/-- Exponents decide, and mantissas if the exponents are the same. -/
theorem compare_magnitude_eq_lt {e f : Int} {m n : Nat} :
    (compare e f).then (compare m n) = .lt ↔ e < f ∨ e = f ∧ m < n := by
  rw [Ordering.then_eq_lt, compare_lt_iff_lt, compare_eq_iff_eq, compare_lt_iff_lt]

/-- **Doubles are in the order of their ranks.** -/
theorem compare_eq_lt_iff (number : u.isNaN = false) (number' : v.isNaN = false) :
    u.compare v = some .lt ↔ rank u < rank v := by
  rcases u with s | _ | s | ⟨s, m, e, _⟩ <;> rcases v with t | _ | t | ⟨t, n, f, _⟩
  case notANumber.infinity | notANumber.zero | notANumber.finite | notANumber.notANumber =>
    cases number
  case infinity.notANumber | zero.notANumber | finite.notANumber =>
    cases number'
  case infinity.infinity => cases s <;> cases t <;> decide
  case finite.finite =>
    simp only [rank, Prod.Lex.toLex_lt_toLex]
    cases s <;> cases t
    · rw [UnpackedFloat.compare, compare_magnitude_swap, Option.some_inj, compare_magnitude_eq_lt]
      simp [Sign.apply, eq_comm]
    · exact iff_of_true rfl (.inl (by decide))
    · refine iff_of_false (fun less => ?_) (by simp [Sign.apply])
      cases less
    · rw [UnpackedFloat.compare, Option.some_inj, compare_magnitude_eq_lt]
      simp [Sign.apply]
  all_goals
    simp only [rank, Prod.Lex.toLex_lt_toLex]
    cases s <;> cases t <;> simp [UnpackedFloat.compare, Sign.apply]

/-! ### The order -/

/-- What has an order is not NaN. -/
theorem isNaN_of_compare {o : Ordering} (h : u.compare v = some o) :
    u.isNaN = false ∧ v.isNaN = false := by
  have ordered : ¬(u.isNaN ∨ v.isNaN) := by
    rw [← compare_eq_none_iff, h]
    exact Option.some_ne_none o
  rw [not_or, Bool.not_eq_true, Bool.not_eq_true] at ordered
  exact ordered

/-- Being below is transitive, also across the sign. -/
theorem isTrans_lt : IsTrans Float (· < ·) where
  trans x y z less less' := by
    rw [lt_iff_compare] at less less' ⊢
    obtain ⟨number, middle⟩ := isNaN_of_compare less
    have number' := (isNaN_of_compare less').2
    rw [compare_eq_lt_iff number middle] at less
    rw [compare_eq_lt_iff middle number'] at less'
    exact (compare_eq_lt_iff number number').2 (less.trans less')

/-- No double is below itself. -/
theorem irrefl_lt : @Std.Irrefl Float (· < ·) where
  irrefl x less := by
    rw [lt_iff_compare] at less
    have number := (isNaN_of_compare less).1
    exact lt_irrefl _ ((compare_eq_lt_iff number number).1 less)

/-- A double is at most another if it compares less or equal. -/
theorem le_iff_compare :
    x ≤ y ↔ (parts x).compare (parts y) = some .lt ∨ (parts x).compare (parts y) = some .eq := by
  change decide (((parts x).compare (parts y)).any (·.isLE) = true) = true ↔ _
  rw [decide_eq_true_iff]
  cases (parts x).compare (parts y) with
  | none => simp
  | some o => cases o <;> simp

/-- Of two numbers one is below the other, or both are equal. -/
theorem lt_or_beq_or_lt (number : x.isNaN = false) (number' : y.isNaN = false) :
    x < y ∨ x == y ∨ y < x := by
  obtain ⟨order, found⟩ := exists_compare number number'
  rw [lt_iff_compare, lt_iff_compare, beq_iff_compare, ← compare_swap (parts x), found]
  cases order with
  | lt => exact .inl rfl
  | eq => exact .inr (.inl rfl)
  | gt => exact .inr (.inr rfl)

/-- Of numbers, neither of which is below the other, both are equal. -/
theorem beq_of_not_lt (number : x.isNaN = false) (number' : y.isNaN = false) (below : ¬x < y)
    (above : ¬y < x) : x == y :=
  ((lt_or_beq_or_lt number number').resolve_left below).resolve_right above

/-- A number that another one is not below is at most that one. -/
theorem le_of_not_lt (number : x.isNaN = false) (number' : y.isNaN = false) (above : ¬y < x) :
    x ≤ y := by
  rw [le_iff_compare, ← lt_iff_compare, ← beq_iff_compare]
  rcases lt_or_beq_or_lt number number' with less | same | more
  · exact .inl less
  · exact .inr same
  · exact absurd more above

end Number
end SurveyLogic
