/-
# Differences of dates as values

The time from a date to another is a whole number of units, and with the dates exchanged the number
of the opposite sign. A difference of nothing is zero either way, but the opposite of zero is the
negative zero, which is equal to it.
-/

import SurveyLogic.Proofs.Calendar.Difference
import SurveyLogic.Proofs.Library.Computed

namespace SurveyLogic
namespace Library

open Calendar

variable {σ : Type} {v w : Value} {x y : Moment}

/-- The difference in the other direction is the opposite one, in any unit. -/
theorem TimeUnit.between_swap (u : TimeUnit) (a b : Moment) : u.between a b = -u.between b a := by
  cases u with
  | years => exact yearsBetween_swap a.date b.date
  | seconds => exact Moment.secondsBetween_swap a b
  | days | hours | minutes =>
    rw [between, between, Moment.secondsBetween_swap, Int.neg_tdiv]

/-- To divide twice and drop the fractions is to divide by the product and drop one. -/
theorem tdiv_tdiv (n : Int) (j k : Nat) : (n.tdiv j).tdiv k = n.tdiv (j * k : Nat) := by
  obtain ⟨m, rfl | rfl⟩ := n.eq_nat_or_neg
  · rw [← Int.ofNat_tdiv, ← Int.ofNat_tdiv, ← Int.ofNat_tdiv, Nat.div_div_eq_div_mul]
  · rw [Int.neg_tdiv, Int.neg_tdiv, Int.neg_tdiv, ← Int.ofNat_tdiv, ← Int.ofNat_tdiv,
      ← Int.ofNat_tdiv, Nat.div_div_eq_div_mul]

/-- How long a unit is, in nanoseconds; a year has no fixed length. -/
def TimeUnit.length? : TimeUnit → Option Nat
  | years => none
  | days => some 86400000000000
  | hours => some 3600000000000
  | minutes => some 60000000000
  | seconds => some 1000000000

/-- The seconds are cut off first, but this does not change how many longer units are full. -/
theorem TimeUnit.between_of_length? {u : TimeUnit} {length : Nat} (h : u.length? = some length)
    (a b : Moment) : u.between a b = (a.nanosecondsBetween b).tdiv length := by
  cases u with
  | years => cases h
  | seconds =>
    cases h
    rfl
  | days | hours | minutes =>
    cases h
    exact tdiv_tdiv _ 1000000000 _

/-- A date is no missing value, so the current moment does not stand for it. -/
theorem momentOr_eq_some (now : Int) (h : moment? v = some x) : momentOr now v = some x := by
  cases v with
  | null => cases h
  | _ => exact h

/-- The difference of two dates is that of their moments in the unit. -/
theorem dateDifference_eq (now : Int) (unit : Value) (first : moment? v = some x)
    (last : moment? w = some y) :
    dateDifference now v w unit = whole ((TimeUnit.ofValue unit).between x y) := by
  rw [dateDifference, first, momentOr_eq_some now last]
  rfl

/-- A whole number is the opposite of its opposite, up to the sign of zero. -/
theorem same_negate_whole (n : Int) : (whole n).same (UnaryOp.negate.apply (whole (-n))) := by
  show Number.ofInt n == -(whole (-n)).toNumber
  have opposite := Number.neg_ofInt_beq (-n)
  rw [Int.neg_neg] at opposite
  rw [toNumber_whole, Number.beq_comm]
  exact opposite

/-- `datediff` computes the difference of its first two arguments in the unit of the third. -/
theorem computes_datediff (clock : σ → Int) :
    Computes clock "datediff" fun now args =>
      dateDifference now (arg args 0) (arg args 1) (arg args 2) :=
  computes_of_mem_dates clock (List.mem_of_getElem? (show dates[7]? = _ from rfl))

/-- **Differences of dates are exact, and opposite with the dates exchanged.** From a date to one
that is not before it there are as many years as anniversaries have come. The difference of two
dates in any unit is the opposite of the difference in the other direction, up to the sign of zero.
In years it is that of the calendar, and in a unit of fixed length the time between the moments with
the fraction dropped. -/
theorem date_differences (clock : σ → Int) :
    (∀ a b : Date, a.inYear a.year ≤ b.inYear b.year → ∀ k : Int,
      yearsBetween a b = k ↔
        0 ≤ k ∧ a.inYear (a.year + k) ≤ b.inYear b.year ∧
          b.inYear b.year < a.inYear (a.year + k + 1)) ∧
    (∀ a b : Date, yearsBetween a b = -yearsBetween b a) ∧
    ∃ datediff : Int → List Value → Value, Computes clock "datediff" datediff ∧
      ∀ (now : Int) (v w unit : Value) (x y : Moment), moment? v = some x → moment? w = some y →
        ∃ n : Int,
          datediff now [v, w, unit] = whole n ∧ datediff now [w, v, unit] = whole (-n) ∧
          (datediff now [v, w, unit]).same (UnaryOp.negate.apply (datediff now [w, v, unit])) ∧
          (TimeUnit.ofValue unit = .years → n = yearsBetween x.date y.date) ∧
          ∀ length : Nat, (TimeUnit.ofValue unit).length? = some length →
            n = (x.nanosecondsBetween y).tdiv length := by
  refine ⟨fun a b => yearsBetween_eq_iff, yearsBetween_swap, _, computes_datediff clock, ?_⟩
  intro now v w unit x y first last
  set u := TimeUnit.ofValue unit with named
  have forward : dateDifference now v w unit = whole (u.between x y) :=
    dateDifference_eq now unit first last
  have backward : dateDifference now w v unit = whole (-u.between x y) := by
    rw [dateDifference_eq now unit last first, TimeUnit.between_swap]
  refine ⟨u.between x y, forward, backward, ?_, ?_, ?_⟩
  · show (dateDifference now v w unit).same (UnaryOp.negate.apply (dateDifference now w v unit))
    rw [forward, backward]
    exact same_negate_whole _
  · intro years
    rw [years]
    rfl
  · intro length fixed
    exact TimeUnit.between_of_length? fixed x y

/-- The hypotheses of `date_differences` are satisfiable, for a year that starts on a leap day and
up to a leap second. -/
theorem date_differences_leap_day :
    let a : Date := ⟨2000, 2, 29⟩
    let b : Date := ⟨2024, 2, 28⟩
    let x : Moment := .startOf a
    let y : Moment := ⟨b.toNumber, 86399, 1000000000⟩
    let v : Value := .string "2000-02-29"
    let w : Value := .string "2024-02-28T23:59:60Z"
    a.inYear a.year ≤ b.inYear b.year ∧ yearsBetween a b = 23 ∧
      moment? v = some x ∧ moment? w = some y ∧
      ∃ datediff : Int → List Value → Value, Computes (id : Int → Int) "datediff" datediff ∧
        datediff 0 [v, w, .null] = whole 8766 ∧
        (datediff 0 [v, w, .null]).same (UnaryOp.negate.apply (datediff 0 [w, v, .null])) := by
  intro a b x y v w
  have first : moment? v = some x := by decide +kernel
  have last : moment? w = some y := by decide +kernel
  have forward : a.inYear a.year ≤ b.inYear b.year := by decide +kernel
  obtain ⟨counted, -, datediff, computes, opposite⟩ := date_differences (id : Int → Int)
  obtain ⟨n, days, -, same, -, truncated⟩ := opposite 0 v w .null x y first last
  have reached : a.inYear (a.year + 23) ≤ b.inYear b.year := by decide +kernel
  have missed : b.inYear b.year < a.inYear (a.year + 23 + 1) := by decide +kernel
  rw [truncated 86400000000000 rfl] at days
  have number : (x.nanosecondsBetween y).tdiv 86400000000000 = 8766 := by decide +kernel
  exact ⟨forward, (counted a b forward 23).2 ⟨by decide, reached, missed⟩, first, last, datediff,
    computes, days.trans (congrArg whole number), same⟩

end Library
end SurveyLogic
