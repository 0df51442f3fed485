/-
# The shortest decimal determines the double

The reals that read back as a double lie between the midpoints to its neighbours. These intervals
have no real in common (`ReadsBack.unique`), for a midpoint belongs to the neighbour with the even
mantissa alone. The decimal of a double lies in its interval (`shortest_readsBack`): the search ends
with a hit, since a grid of `17` digits is finer than any interval is wide,

    10^(k-17) ≤ m · 2^q / 10^16 < 2^53 · 2^q / 10^16 < 2^q.

So two doubles with one decimal are the same (`shortest_inj`).
-/

import Mathlib.Algebra.Order.Field.Power
import Mathlib.Data.Nat.Cast.Order.Field
import Mathlib.Data.Rat.Cast.Order
import Mathlib.Tactic.FieldSimp
import Mathlib.Tactic.Linarith
import Mathlib.Tactic.Ring
import SurveyLogic.Number.Shortest

namespace SurveyLogic
namespace Number

/-- The number that a decimal stands for. -/
def Decimal.value (d : Decimal) : ℚ :=
  d.digits * 10 ^ d.exponent

/-- The exact values of doubles without their signs: `53` bits at most, and all of them used unless
the exponent is the least. -/
structure IsMagnitude (m : Nat) (q : Int) : Prop where
  fits : m < 2 ^ 53
  least : -1074 ≤ q
  full : m < 2 ^ 52 → q = -1074

/-- How many quarters of `2^q` the lower midpoint lies below `m · 2^q`. -/
def lowGap (m : Nat) (q : Int) : Nat :=
  if m = Nat.pow 2 52 && -1074 < q then 1 else 2

/-- The reals that read back as `m · 2^q`. -/
structure ReadsBack (m : Nat) (q : Int) (r : ℚ) : Prop where
  low : (4 * m - lowGap m q : ℚ) * 2 ^ q ≤ 4 * r
  high : 4 * r ≤ (4 * m + 2 : ℚ) * 2 ^ q
  odd : m % 2 = 1 → (4 * m - lowGap m q : ℚ) * 2 ^ q < 4 * r ∧ 4 * r < (4 * m + 2 : ℚ) * 2 ^ q

variable {m m' : Nat} {q q' : Int} {r : ℚ}

/-- The lower midpoint lies below the value. -/
theorem lowGap_pos (m : Nat) (q : Int) : 0 < lowGap m q := by
  unfold lowGap
  split <;> decide

/-- The lower midpoint is half a unit below at most. -/
theorem lowGap_le (m : Nat) (q : Int) : lowGap m q ≤ 2 := by
  unfold lowGap
  split <;> decide

/-! ### Intervals do not meet -/

/-- With the exponents apart by `k`, all is counted in quarters of the smaller unit. -/
theorem ReadsBack.le_of_shift {k : Nat} (h : ReadsBack m q r) (h' : ReadsBack m' (q + k) r) :
    (4 * m' - lowGap m' (q + k) : ℤ) * 2 ^ k ≤ 4 * m + 2 ∧
      (m % 2 = 1 ∨ m' % 2 = 1 → (4 * m' - lowGap m' (q + k) : ℤ) * 2 ^ k < 4 * m + 2) := by
  have unit : (0 : ℚ) < 2 ^ q := zpow_pos two_pos q
  have shift : (2 : ℚ) ^ (q + k) = 2 ^ k * 2 ^ q := by
    rw [zpow_add₀ two_ne_zero, zpow_natCast, mul_comm]
  obtain ⟨low, -, lowOdd⟩ := h'
  obtain ⟨-, high, highOdd⟩ := h
  rw [shift, ← mul_assoc] at low lowOdd
  constructor
  · have := le_of_mul_le_mul_right (low.trans high) unit
    exact_mod_cast this
  · intro odd
    have strict : (4 * m' - lowGap m' (q + k) : ℚ) * 2 ^ k * 2 ^ q < (4 * m + 2) * 2 ^ q := by
      rcases odd with odd | odd
      · exact low.trans_lt (highOdd odd).2
      · exact (lowOdd odd).1.trans_le high
    have := lt_of_mul_lt_mul_right strict unit.le
    exact_mod_cast this

/-- Below a power of two the next double is half as far away. -/
theorem IsMagnitude.le_low (c : IsMagnitude m q) (above : -1074 < q) :
    2 ^ 54 - 1 ≤ 4 * m - (lowGap m q : ℤ) := by
  have large : 2 ^ 52 ≤ m := by
    by_contra small
    have least := c.full (Nat.lt_of_not_le small)
    omega
  unfold lowGap
  split
  · omega
  · rename_i other
    have ne : m ≠ 2 ^ 52 := by
      rintro rfl
      exact other (by simp [above])
    omega

/-- A double that reads the same real has no smaller unit with a larger mantissa. -/
theorem ReadsBack.eq_of_le (c : IsMagnitude m q) (c' : IsMagnitude m' q') (h : ReadsBack m q r)
    (h' : ReadsBack m' q' r) (le : q ≤ q') : q = q' ∧ m' ≤ m := by
  obtain ⟨k, rfl⟩ := Int.le.dest le
  obtain ⟨weak, strict⟩ := h.le_of_shift h'
  cases k with
  | zero =>
    have gap := lowGap_le m' (q + (0 : ℕ))
    rw [pow_zero, mul_one] at weak strict
    refine ⟨(add_zero q).symm, ?_⟩
    omega
  | succ k =>
    have least := c.least
    have fits := c.fits
    -- With the larger unit the other mantissa is full, so even its lower midpoint is too far up.
    have low := c'.le_low (by omega)
    generalize (4 * m' - lowGap m' (q + (k + 1 : ℕ)) : ℤ) = a at low weak strict
    have wide : a * 2 ≤ a * 2 ^ (k + 1) := by
      have power : (1 : ℤ) ≤ 2 ^ k := one_le_pow₀ (by decide)
      have scaled := mul_le_mul_of_nonneg_left power (show 0 ≤ a * 2 by omega)
      rwa [mul_one, mul_assoc, ← pow_succ'] at scaled
    omega

/-- **No real reads back as two doubles.** -/
theorem ReadsBack.unique (c : IsMagnitude m q) (c' : IsMagnitude m' q') (h : ReadsBack m q r)
    (h' : ReadsBack m' q' r) : m = m' ∧ q = q' := by
  rcases le_total q q' with le | le
  · obtain ⟨rfl, below⟩ := h.eq_of_le c c' h' le
    exact ⟨Nat.le_antisymm (h'.eq_of_le c' c h le_rfl).2 below, rfl⟩
  · obtain ⟨rfl, below⟩ := h'.eq_of_le c' c h le
    exact ⟨Nat.le_antisymm below (h.eq_of_le c c' h' le_rfl).2, rfl⟩

/-- Zero does not read back as any other double. -/
theorem ReadsBack.pos (h : ReadsBack m q r) (nonzero : m ≠ 0) : 0 < r := by
  have unit : (0 : ℚ) < 2 ^ q := zpow_pos two_pos q
  have gap : (lowGap m q : ℚ) < 4 * m := by
    have := lowGap_le m q
    exact_mod_cast (by omega : lowGap m q < 4 * m)
  have low := mul_pos (sub_pos.2 gap) unit
  linarith only [h.low, low]

/-! ### The decimal found -/

/-- A power with a whole exponent as a fraction of powers, one of which is `1`. -/
theorem zpow_eq_div {b : ℚ} (nonzero : b ≠ 0) (e : Int) :
    b ^ e = b ^ e.toNat / b ^ (-e).toNat := by
  rw [← zpow_natCast, ← zpow_natCast, ← zpow_sub₀ nonzero]
  congr 1
  omega

namespace Interval

/-- Comparing fractions by cross-multiplication, the unit `2^q` split into a factor on either
side. -/
theorem scaled {n d : Nat} (pos : 0 < d) (l : Nat) (q : Int) :
    ((l * 2 ^ q ≤ 4 * (n / d : ℚ)) ↔ l * 2 ^ q.toNat * d ≤ n * (4 * 2 ^ (-q).toNat)) ∧
      ((4 * (n / d : ℚ) ≤ l * 2 ^ q) ↔ n * (4 * 2 ^ (-q).toNat) ≤ l * 2 ^ q.toNat * d) := by
  have down : (0 : ℚ) < 2 ^ (-q).toNat := pow_pos two_pos _
  have denominator : (0 : ℚ) < d := Nat.cast_pos.2 pos
  have factor := mul_pos denominator down
  have left : l * 2 ^ q * (d * 2 ^ (-q).toNat) = ((l * 2 ^ q.toNat * d : ℕ) : ℚ) := by
    rw [zpow_eq_div two_ne_zero q]
    push_cast
    field_simp
  have right : 4 * (n / d : ℚ) * (d * 2 ^ (-q).toNat) =
      ((n * (4 * 2 ^ (-q).toNat) : ℕ) : ℚ) := by
    push_cast
    field_simp
  constructor
  · rw [← mul_le_mul_iff_left₀ factor, left, right, Nat.cast_le]
  · rw [← mul_le_mul_iff_left₀ factor, left, right, Nat.cast_le]

/-- A fraction in the interval of a double reads back as this double. -/
theorem readsBack_of_holds {n d : Nat} (nonzero : m ≠ 0) (pos : 0 < d)
    (h : (around m q).holds n d) : ReadsBack m q (n / d) := by
  have gap : lowGap m q ≤ 4 * m := by
    have := lowGap_le m q
    omega
  have low := scaled (n := n) pos (4 * m - lowGap m q) q
  have high := scaled (n := n) pos (4 * m + 2) q
  rw [Nat.cast_sub gap] at low
  push_cast at low high
  change (if (m % 2 == 0) = true then
    decide ((4 * m - lowGap m q) * 2 ^ q.toNat * d ≤ n * (4 * 2 ^ (-q).toNat)) &&
      decide (n * (4 * 2 ^ (-q).toNat) ≤ (4 * m + 2) * 2 ^ q.toNat * d)
    else decide ((4 * m - lowGap m q) * 2 ^ q.toNat * d < n * (4 * 2 ^ (-q).toNat)) &&
      decide (n * (4 * 2 ^ (-q).toNat) < (4 * m + 2) * 2 ^ q.toNat * d)) = true at h
  split at h
  · rename_i even
    obtain ⟨left, right⟩ : _ ∧ _ := by simpa using h
    refine ⟨low.1.2 left, high.2.2 right, fun odd => ?_⟩
    rw [odd] at even
    exact nomatch even
  · obtain ⟨left, right⟩ : _ ∧ _ := by simpa using h
    have below := low.2.not.2 (Nat.not_le.2 left)
    have above := high.1.not.2 (Nat.not_le.2 right)
    refine ⟨(not_le.1 below).le, (not_le.1 above).le, fun _ => ⟨not_le.1 below, not_le.1 above⟩⟩

end Interval

/-! ### The search ends with a hit -/

/-- A number is below the power of ten of as many digits as it has. -/
theorem lt_pow_digitCount (n : Nat) : n < 10 ^ digitCount n :=
  (Nat.length_toDigits_le_iff (by decide) Nat.length_toDigits_pos).1 le_rfl

/-- A number other than zero is at least the power of ten of one digit less. -/
theorem pow_digitCount_le {n : Nat} (nonzero : n ≠ 0) : 10 ^ (digitCount n - 1) ≤ n := by
  by_contra small
  have count : 0 < digitCount n := Nat.length_toDigits_pos
  rcases Nat.eq_zero_or_pos (digitCount n - 1) with one | more
  · rw [one, pow_zero] at small
    omega
  · have := (Nat.length_toDigits_le_iff (b := 10) (by decide) more).2 (Nat.lt_of_not_le small)
    change digitCount n ≤ _ at this
    omega

namespace Interval

variable {i : Interval} {tie : Tie} {e : Int}

/-- The magnitude is not too large. -/
theorem zpow_magnitude_le (value : 0 < i.value) (denominator : 0 < i.denominator) :
    (10 : ℚ) ^ (i.magnitude - 1) ≤ i.value / i.denominator := by
  unfold magnitude
  split
  · rename_i le
    have whole : i.value / i.denominator ≠ 0 := (Nat.div_pos le denominator).ne'
    have count : 1 ≤ digitCount (i.value / i.denominator) := Nat.length_toDigits_pos
    have exponent : (digitCount (i.value / i.denominator) - 1 : ℤ) =
        (digitCount (i.value / i.denominator) - 1 : ℕ) := by
      omega
    rw [exponent, zpow_natCast]
    calc (10 : ℚ) ^ (digitCount (i.value / i.denominator) - 1)
        ≤ (i.value / i.denominator : ℕ) := by exact_mod_cast pow_digitCount_le whole
      _ ≤ i.value / i.denominator := Nat.cast_div_le
  · have below := lt_pow_digitCount (i.denominator / i.value)
    generalize digitCount (i.denominator / i.value) = k at below
    have cross : i.denominator ≤ i.value * 10 ^ k := by
      have rest := Nat.div_add_mod i.denominator i.value
      have := Nat.mod_lt i.denominator value
      have := Nat.mul_le_mul_left i.value (Nat.succ_le_of_lt below)
      rw [Nat.succ_eq_add_one, Nat.mul_add, Nat.mul_one] at this
      omega
    have exponent : (1 - (k : ℤ) - 1) = -(k : ℤ) := by omega
    rw [exponent, zpow_neg, zpow_natCast, inv_eq_one_div,
      div_le_div_iff₀ (pow_pos (by decide) k) (Nat.cast_pos.2 denominator), one_mul]
    exact_mod_cast cross

/-- A neighbour on a grid is given only if it reads back. -/
theorem holds_of_onGrid? {d : Nat} (h : i.onGrid? tie e = some d) :
    i.holds (d * 10 ^ e.toNat) (10 ^ (-e).toNat) := by
  unfold onGrid? at h
  dsimp only at h
  split at h
  · cases h
  · rename_i below above
    cases h
    exact below
  · rename_i below above
    cases h
    exact above
  · rename_i below above
    split at h
    · cases h
      exact below
    split at h
    · cases h
      exact above
    split at h
    · cases h
      exact above
    split at h
    · cases h
      exact below
    · cases h
      exact above

/-- A grid that misses the interval is at least as coarse as the interval is wide. -/
theorem wide_of_onGrid?_eq_none (low : i.low < i.value) (high : i.value < i.high)
    (denominator : 0 < i.denominator) (h : i.onGrid? tie e = none) :
    i.high * 10 ^ (-e).toNat ≤ i.low * 10 ^ (-e).toNat + i.denominator * 10 ^ e.toNat := by
  -- Both neighbours of the value on the grid were tried, and neither lies in the interval.
  have missed : i.holds (i.value * 10 ^ (-e).toNat / (i.denominator * 10 ^ e.toNat) * 10 ^ e.toNat)
        (10 ^ (-e).toNat) = false ∧
      i.holds ((i.value * 10 ^ (-e).toNat / (i.denominator * 10 ^ e.toNat) + 1) * 10 ^ e.toNat)
        (10 ^ (-e).toNat) = false := by
    unfold onGrid? at h
    dsimp only at h
    split at h
    · rename_i below above
      exact ⟨below, above⟩
    · cases h
    · cases h
    · split at h
      · cases h
      split at h
      · cases h
      split at h <;> cases h
  have down : 0 < 10 ^ (-e).toNat := Nat.pow_pos (by decide)
  have up : 0 < 10 ^ e.toNat := Nat.pow_pos (by decide)
  generalize 10 ^ (-e).toNat = down' at *
  generalize 10 ^ e.toNat = up' at *
  have unit : 0 < i.denominator * up' := Nat.mul_pos denominator up
  have parts := Nat.div_add_mod (i.value * down') (i.denominator * up')
  have rest := Nat.mod_lt (i.value * down') unit
  have left := Nat.mul_lt_mul_of_pos_right low down
  have right := Nat.mul_lt_mul_of_pos_right high down
  generalize i.value * down' / (i.denominator * up') = n at *
  have below : n * up' * i.denominator = i.denominator * up' * n := by ring
  have above : (n + 1) * up' * i.denominator = i.denominator * up' * n + i.denominator * up' := by
    ring
  unfold holds at missed
  dsimp only at missed
  rw [below, above] at missed
  -- Counted in quotient and rest, all that is left is linear.
  generalize i.denominator * up' * n = x at *
  cases closed : i.closed <;> simp [closed] at missed <;> omega

/-- The search ends with a hit if the last grid has one. -/
theorem holds_of_search (last : i.onGrid? tie (i.magnitude - 17) ≠ none) (more : Nat) :
    i.holds ((i.search tie more).digits * 10 ^ (i.search tie more).exponent.toNat)
      (10 ^ (-(i.search tie more).exponent).toNat) := by
  induction more with
  | zero =>
    obtain ⟨d, hit⟩ := Option.ne_none_iff_exists'.1 last
    rw [search]
    dsimp only
    rw [hit]
    exact holds_of_onGrid? hit
  | succ more ih =>
    rw [search]
    split
    · rename_i d hit
      exact holds_of_onGrid? hit
    · exact ih

/-! The interval of a double -/

/-- The interval of a double starts below its value. -/
theorem around_low_lt (nonzero : m ≠ 0) : (around m q).low < (around m q).value := by
  have gap := lowGap_pos m q
  have less : 4 * m - lowGap m q < 4 * m := by omega
  exact Nat.mul_lt_mul_of_pos_right less (Nat.pow_pos (by decide))

/-- The interval of a double ends above its value. -/
theorem around_value_lt : (around m q).value < (around m q).high :=
  Nat.mul_lt_mul_of_pos_right (Nat.lt_add_of_pos_right (by decide)) (Nat.pow_pos (by decide))

/-- The numbers of an interval have a denominator. -/
theorem around_denominator_pos : 0 < (around m q).denominator :=
  Nat.mul_pos (by decide) (Nat.pow_pos (by decide))

/-- The value in an interval is the exact value of the double. -/
theorem around_value_div : ((around m q).value / (around m q).denominator : ℚ) = m * 2 ^ q := by
  have down : (2 : ℚ) ^ (-q).toNat ≠ 0 := pow_ne_zero _ two_ne_zero
  rw [zpow_eq_div two_ne_zero]
  simp only [around, Nat.pow_eq]
  push_cast
  field_simp

end Interval

/-- A grid that misses the interval of a double is at least as coarse as the interval is wide. -/
theorem le_zpow_of_onGrid?_eq_none (nonzero : m ≠ 0) {tie : Tie} {e : Int}
    (missed : (Interval.around m q).onGrid? tie e = none) :
    (lowGap m q + 2 : ℚ) * 2 ^ q ≤ 4 * 10 ^ e := by
  have gap : 4 * m + 2 = (4 * m - lowGap m q) + (lowGap m q + 2) := by
    have := lowGap_le m q
    omega
  have wide : (4 * m + 2) * 2 ^ q.toNat * 10 ^ (-e).toNat ≤
      (4 * m - lowGap m q) * 2 ^ q.toNat * 10 ^ (-e).toNat +
        4 * 2 ^ (-q).toNat * 10 ^ e.toNat :=
    Interval.wide_of_onGrid?_eq_none (Interval.around_low_lt nonzero) Interval.around_value_lt
      Interval.around_denominator_pos missed
  rw [gap, Nat.add_mul, Nat.add_mul, Nat.add_le_add_iff_left] at wide
  rw [zpow_eq_div two_ne_zero, zpow_eq_div (by decide : (10 : ℚ) ≠ 0), ← mul_div_assoc,
    ← mul_div_assoc, div_le_div_iff₀ (pow_pos two_pos _) (pow_pos (by decide) _)]
  have cast : ((lowGap m q + 2) * 2 ^ q.toNat * 10 ^ (-e).toNat : ℚ) ≤
      4 * 2 ^ (-q).toNat * 10 ^ e.toNat := by
    exact_mod_cast wide
  linarith only [cast]

/-- A grid of `17` digits misses no interval. -/
theorem onGrid?_ne_none (c : IsMagnitude m q) (nonzero : m ≠ 0) (tie : Tie) :
    (Interval.around m q).onGrid? tie ((Interval.around m q).magnitude - 17) ≠ none := by
  intro missed
  have coarse := le_zpow_of_onGrid?_eq_none nonzero missed
  have magnitude := Interval.zpow_magnitude_le
    (Nat.zero_lt_of_lt (Interval.around_low_lt (q := q) nonzero)) Interval.around_denominator_pos
  rw [Interval.around_value_div] at magnitude
  generalize (Interval.around m q).magnitude = k at coarse magnitude
  -- A grid of 17 digits is finer than the interval is wide: `10^16` exceeds `2^53`.
  have powers : (10 : ℚ) ^ (k - 1) = 10 ^ 16 * 10 ^ (k - 17) := by
    rw [← zpow_natCast, ← zpow_add₀ (by decide)]
    congr 1
    omega
  rw [powers] at magnitude
  have bits : ((lowGap m q + 2) * 10 ^ 16 : ℚ) ≤ 4 * m := by
    refine le_of_mul_le_mul_right ?_ (zpow_pos two_pos q)
    linarith only [coarse, magnitude]
  have bits' : (lowGap m q + 2) * 10 ^ 16 ≤ 4 * m := by exact_mod_cast bits
  have fits := c.fits
  unfold lowGap at bits'
  split at bits'
  · rename_i power
    simp only [Nat.pow_eq, Bool.and_eq_true, decide_eq_true_eq] at power
    omega
  · omega

/-- **The shortest decimal of a double reads back as this double.** -/
theorem shortest_readsBack (c : IsMagnitude m q) (nonzero : m ≠ 0) (tie : Tie) :
    ReadsBack m q (shortest tie m q).value := by
  have hit := Interval.holds_of_search (onGrid?_ne_none c nonzero tie) 17
  have readsBack := Interval.readsBack_of_holds nonzero (Nat.pow_pos (by decide)) hit
  rw [shortest, if_neg nonzero, Decimal.value, zpow_eq_div (by decide)]
  push_cast at readsBack
  rwa [mul_div_assoc] at readsBack

/-- The decimal of zero stands for zero, and no other does. -/
theorem value_shortest_eq_zero_iff (c : IsMagnitude m q) (tie : Tie) :
    (shortest tie m q).value = 0 ↔ m = 0 := by
  constructor
  · intro zero
    by_contra nonzero
    exact ((shortest_readsBack c nonzero tie).pos nonzero).ne' zero
  · rintro rfl
    simp [shortest, Decimal.value]

/-- **The shortest decimal determines the double.** -/
theorem shortest_inj (c : IsMagnitude m q) (c' : IsMagnitude m' q') {tie : Tie}
    (same : (shortest tie m q).value = (shortest tie m' q').value) : m = m' ∧ q = q' := by
  by_cases zero : m = 0
  · have zero' : m' = 0 := by
      rw [← value_shortest_eq_zero_iff c' tie, ← same, value_shortest_eq_zero_iff c, zero]
    subst zero zero'
    exact ⟨rfl, (c.full (by decide)).trans (c'.full (by decide)).symm⟩
  · have nonzero' : m' ≠ 0 := by
      rw [Ne, ← value_shortest_eq_zero_iff c' tie, ← same, value_shortest_eq_zero_iff c]
      exact zero
    have readsBack := shortest_readsBack c zero tie
    rw [same] at readsBack
    exact readsBack.unique c c' (shortest_readsBack c' nonzero' tie)

end Number
end SurveyLogic
