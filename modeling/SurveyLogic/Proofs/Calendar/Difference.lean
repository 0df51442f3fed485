/-
# Differences of dates and moments

The whole years from a date to another are as many as anniversaries are reached: with `k` of them,
the same day of the `k`-th year behind has come and that of the next year has not
(`yearsBetween_eq_iff`). Days are compared by year, month and day, so a year that starts on
29 February is full on 1 March where there is no such day.

| from | to | years |
| --- | --- | --- |
| 2000-02-29 | 2001-02-28 | 0 |
| 2000-02-29 | 2001-03-01 | 1 |
| 2001-03-01 | 2000-02-29 | -1 |

With the operands exchanged all differences have the opposite sign: a leap second is counted for the
earlier moment, and fractions of a unit are dropped on both sides of zero.
-/

import Mathlib.Data.Prod.Lex
import SurveyLogic.Calendar.Moment

namespace SurveyLogic
namespace Calendar

/-! ### Years -/

variable {a b : Date} {m n : Int}

/-- The place in the calendar of the day with the same name in another year. There may be no such
day. -/
def Date.inYear (d : Date) (year : Int) : Int ×ₗ Nat ×ₗ Nat :=
  toLex (year, toLex (d.month, d.day))

/-- Earlier in the year is the order of month and day. -/
theorem Date.earlierInYear_iff :
    a.earlierInYear b ↔ toLex (a.month, a.day) < toLex (b.month, b.day) := by
  rw [Prod.Lex.toLex_lt_toLex, earlierInYear]
  simp

/-- Days in years are ordered by the year, and in the same year by the date in it. -/
theorem Date.inYear_lt_inYear :
    a.inYear m < b.inYear n ↔ m < n ∨ m = n ∧ a.earlierInYear b := by
  rw [inYear, inYear, Prod.Lex.toLex_lt_toLex, earlierInYear_iff]

/-- The same with the day itself included. -/
theorem Date.inYear_le_inYear :
    a.inYear m ≤ b.inYear n ↔ m < n ∨ m = n ∧ ¬b.earlierInYear a := by
  rw [inYear, inYear, Prod.Lex.toLex_le_toLex, earlierInYear_iff, not_lt]

/-- A date is before another in the order of year, month and day. -/
theorem Date.isBefore_iff : a.isBefore b ↔ a.inYear a.year < b.inYear b.year := by
  rw [inYear_lt_inYear, isBefore]
  simp

/-- A date is told by its year, month and day. -/
theorem Date.inYear_inj (same : a.inYear a.year = b.inYear b.year) : a = b := by
  cases a
  cases b
  cases same
  rfl

/-- From a date to itself there are no years. -/
theorem yearsForward_self (a : Date) : yearsForward a a = 0 := by
  have irreflexive : ¬a.earlierInYear a := by
    rw [Date.earlierInYear_iff]
    exact lt_irrefl _
  rw [yearsForward, if_neg irreflexive, Int.sub_self, Int.sub_zero]

/-- **Years are counted by anniversaries.** -/
theorem yearsBetween_eq_iff (forward : a.inYear a.year ≤ b.inYear b.year) (k : Int) :
    yearsBetween a b = k ↔
      0 ≤ k ∧ a.inYear (a.year + k) ≤ b.inYear b.year ∧
        b.inYear b.year < a.inYear (a.year + k + 1) := by
  have ordered : ¬b.isBefore a := by
    rw [Date.isBefore_iff]
    exact forward.not_gt
  rw [Date.inYear_le_inYear] at forward
  rw [yearsBetween, if_neg ordered, yearsForward, Date.inYear_le_inYear, Date.inYear_lt_inYear]
  -- The last anniversary has come in the year of `b` or in the year before.
  by_cases earlier : b.earlierInYear a
  · have sooner : a.year < b.year := forward.resolve_right fun same => same.2 earlier
    have reached : ¬(a.year + k = b.year ∧ ¬b.earlierInYear a) := fun same => same.2 earlier
    rw [if_pos earlier, or_iff_left reached, and_iff_left earlier]
    omega
  · have reached : ¬(b.year = a.year + k + 1 ∧ b.earlierInYear a) := fun same => earlier same.2
    rw [and_iff_left earlier] at forward
    rw [if_neg earlier, and_iff_left earlier, or_iff_left reached]
    omega

/-- The years in the other direction are the opposite. -/
theorem yearsBetween_swap (a b : Date) : yearsBetween a b = -yearsBetween b a := by
  rw [yearsBetween, yearsBetween]
  rcases lt_trichotomy (a.inYear a.year) (b.inYear b.year) with before | same | behind
  · rw [if_neg (before.not_gt ∘ Date.isBefore_iff.1), if_pos (Date.isBefore_iff.2 before),
      Int.neg_neg]
  · rw [Date.inYear_inj same, yearsForward_self, Int.neg_zero, ite_self, Int.neg_zero]
  · rw [if_pos (Date.isBefore_iff.2 behind), if_neg (behind.not_gt ∘ Date.isBefore_iff.1)]

/-! ### Seconds -/

namespace Moment

/-- The leap second passed in the other direction has the opposite sign. -/
theorem leapBetween_swap (a b : Moment) : leapBetween a b = -leapBetween b a := by
  unfold leapBetween
  grind

/-- The nanoseconds in the other direction are the opposite. -/
theorem nanosecondsBetween_swap (a b : Moment) :
    nanosecondsBetween a b = -nanosecondsBetween b a := by
  rw [nanosecondsBetween, nanosecondsBetween, leapBetween_swap]
  omega

/-- The full seconds in the other direction are the opposite. -/
theorem secondsBetween_swap (a b : Moment) : secondsBetween a b = -secondsBetween b a := by
  rw [secondsBetween, secondsBetween, nanosecondsBetween_swap, Int.neg_tdiv]

end Moment

end Calendar
end SurveyLogic
