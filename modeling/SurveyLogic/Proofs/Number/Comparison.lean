/-
# Comparing doubles

Two doubles are equal if they have the same parts, or if both are zeros of whatever sign. The order
is reversed when the operands change places, and only a NaN has none.

The text of a number does not tell equal doubles apart: a zero is written without its sign.
-/

import SurveyLogic.Number.Format
import SurveyLogic.Proofs.Number.Parts
import SurveyLogic.Proofs.Number.Text

namespace SurveyLogic
namespace Number

open Float.Model Float.Model.UnpackedFloat

variable {u v : UnpackedFloat} {x y : Float}

/-! ### The order of parts -/

/-- Signs compare the other way round when changed round. -/
theorem compare_sign_swap (s t : Sign) : (compare s t).swap = compare t s := by
  cases s <;> cases t <;> rfl

/-- Exponents and mantissas compare the other way round when changed round. -/
theorem compare_magnitude_swap (e f : Int) (m n : Nat) :
    ((compare e f).then (compare m n)).swap = (compare f e).then (compare n m) := by
  rw [Ordering.swap_then, ← Std.OrientedOrd.eq_swap, ← Std.OrientedOrd.eq_swap]

/-- Only the same exponent and mantissa compare equal. -/
theorem eq_of_compare_magnitude {e f : Int} {m n : Nat}
    (h : (compare e f).then (compare m n) = .eq) : e = f ∧ m = n := by
  obtain ⟨exponents, mantissas⟩ := Ordering.then_eq_eq.1 h
  exact ⟨Std.LawfulEqOrd.compare_eq_iff_eq.1 exponents,
    Std.LawfulEqOrd.compare_eq_iff_eq.1 mantissas⟩

/-- The other way round, the order is reversed. -/
theorem compare_swap (u v : UnpackedFloat) : (u.compare v).map Ordering.swap = v.compare u := by
  rcases u with s | _ | s | ⟨s, m, e, _⟩ <;> rcases v with t | _ | t | ⟨t, n, f, _⟩
  case infinity.infinity => exact congrArg some (compare_sign_swap s t)
  case finite.finite =>
    cases s <;> cases t
    · exact congrArg (some ·.swap) (compare_magnitude_swap e f m n)
    · rfl
    · rfl
    · exact congrArg some (compare_magnitude_swap e f m n)
  all_goals first | rfl | (cases s <;> rfl) | (cases t <;> rfl)

/-- Equal numbers have the same parts, zeros apart. -/
theorem eq_or_zero_of_compare (h : u.compare v = some .eq) :
    u = v ∨ ∃ s t, u = .zero s ∧ v = .zero t := by
  rcases u with s | _ | s | ⟨s, m, e, _⟩ <;> rcases v with t | _ | t | ⟨t, n, f, _⟩
  case infinity.infinity => cases s <;> cases t <;> first | exact .inl rfl | cases h
  case zero.zero => exact .inr ⟨s, t, rfl, rfl⟩
  case finite.finite =>
    cases s <;> cases t
    · obtain ⟨rfl, rfl⟩ := eq_of_compare_magnitude (Ordering.swap_eq_eq.1 (Option.some.inj h))
      exact .inl rfl
    · cases h
    · cases h
    · obtain ⟨rfl, rfl⟩ := eq_of_compare_magnitude (Option.some.inj h)
      exact .inl rfl
  all_goals first | cases h | (cases s <;> cases h) | (cases t <;> cases h)

/-- Only a NaN has no order. -/
theorem compare_eq_none_iff : u.compare v = none ↔ u.isNaN ∨ v.isNaN := by
  cases u with
  | notANumber => exact iff_of_true rfl (.inl rfl)
  | infinity s | zero s | finite s m e =>
    cases v with
    | notANumber => exact iff_of_true (by cases s <;> rfl) (.inr rfl)
    | infinity t | zero t | finite t n f =>
      refine iff_of_false ?_ (not_or.2 ⟨Bool.false_ne_true, Bool.false_ne_true⟩)
      cases s <;> cases t <;> exact Option.some_ne_none _

/-! ### The order of doubles -/

/-- Doubles are equal if their parts compare equal. -/
theorem beq_iff_compare : x == y ↔ (parts x).compare (parts y) = some .eq := by
  change ((parts x).compare (parts y) == some .eq) = true ↔ _
  exact beq_iff_eq

/-- A double is below another if its parts compare less. -/
theorem lt_iff_compare : x < y ↔ (parts x).compare (parts y) = some .lt := by
  change decide (((parts x).compare (parts y) == some .lt) = true) = true ↔ _
  rw [decide_eq_true_iff]
  exact beq_iff_eq

/-- Equality of doubles is symmetric. -/
theorem beq_comm (x y : Float) : (x == y) = (y == x) := by
  rw [Bool.eq_iff_iff, beq_iff_compare, beq_iff_compare, ← compare_swap (parts x),
    Option.map_eq_some_iff]
  simp

/-- Two numbers have an order. -/
theorem exists_compare (number : x.isNaN = false) (number' : y.isNaN = false) :
    ∃ o, (parts x).compare (parts y) = some o := by
  refine Option.ne_none_iff_exists'.1 ?_
  rw [Ne, compare_eq_none_iff, ← isNaN_eq_parts, ← isNaN_eq_parts, number, number', or_self]
  exact Bool.false_ne_true

/-- Only a NaN differs from itself. -/
theorem beq_self (number : x.isNaN = false) : x == x := by
  obtain ⟨order, found⟩ := exists_compare number number
  have reversed := compare_swap (parts x) (parts x)
  rw [found, Option.map_some, Option.some_inj] at reversed
  refine beq_iff_compare.2 (found.trans (congrArg some ?_))
  cases order with
  | eq => rfl
  | lt | gt => cases reversed

/-! ### Equal doubles as texts -/

/-- A zero is written without its sign. -/
theorem answerText_of_zero {s : Sign} (h : parts x = .zero s) : answerText x = "0" := by
  have value : toBinary? x = some ⟨isMinus s, 0, -1074⟩ := by
    rw [toBinary?_eq_parts, h, exactValue?]
  have whole : Binary.isWhole ⟨isMinus s, 0, -1074⟩ = true := beq_iff_eq.2 (Nat.zero_mod _)
  have part : Binary.wholePart ⟨isMinus s, 0, -1074⟩ = 0 := Nat.zero_div _
  unfold answerText
  rw [value]
  dsimp only
  rw [whole, part]
  cases s <;> rfl

/-- An infinity is written by its sign. -/
theorem answerText_of_infinity {s : Sign} (h : parts x = .infinity s) :
    answerText x = if isMinus s then "-Infinity" else "Infinity" := by
  have value : toBinary? x = none := by rw [toBinary?_eq_parts, h, exactValue?]
  have number : x.isNaN = false := by
    rw [isNaN_eq_parts, h]
    rfl
  unfold answerText
  rw [value]
  dsimp only
  rw [number, signBit_of_infinity h]
  rfl

/-- **Equal doubles are written alike.** -/
theorem answerText_congr (h : x == y) : answerText x = answerText y := by
  have equal := beq_iff_compare.1 h
  rcases eq_or_zero_of_compare equal with same | ⟨s, t, left, right⟩
  · cases form : parts x with
    | infinity s => rw [answerText_of_infinity form, answerText_of_infinity (same ▸ form)]
    | notANumber =>
      rw [form] at equal
      cases equal
    | zero s => rw [answerText_of_zero form, answerText_of_zero (same ▸ form)]
    | finite s m e positive =>
      have left := (toBinary?_eq_parts x).trans (congrArg exactValue? form)
      have right := (toBinary?_eq_parts y).trans (congrArg exactValue? (same ▸ form))
      rw [toBinary?_inj left right]
  · rw [answerText_of_zero left, answerText_of_zero right]

end Number
end SurveyLogic
