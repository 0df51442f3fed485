/-
# Whole numbers as doubles

The doubles below `2^53` have all whole numbers among them: the mantissa of one is its digits in
base two, shifted until they are 53. They are added without rounding (`ofInt_add`), for the sum has
the same digits however many zeros stand behind them, and they are read back (`toInt?_ofInt`).

The opposite of a double differs in its sign only, so the double nearest to a whole number other
than zero has the one nearest to the opposite number for its opposite. The opposite of zero is the
negative zero, which is equal to zero.
-/

import Mathlib
import SurveyLogic.Proofs.Number.Comparison
import SurveyLogic.Proofs.Number.Reading

namespace SurveyLogic
namespace Number

open Float.Model Float.Model.UnpackedFloat

variable {x y : Float}

/-! ### Taking apart and packing -/

/-- A double is packed again from its parts. -/
theorem ofModel_pack_parts (x : Float) : Float.ofModel (.pack (parts x)) = x :=
  Float.ofBits_toBits x

/-- Doubles with the same parts are the same. -/
theorem parts_inj (h : parts x = parts y) : x = y := by
  rw [← ofModel_pack_parts x, h, ofModel_pack_parts]

/-- What has an exact value other than zero has its parts. -/
theorem parts_of_toBinary? {b : Binary} (h : toBinary? x = some b) (positive : 0 < b.mantissa) :
    ∃ s, isMinus s = b.negative ∧ parts x = .finite s b.mantissa b.exponent positive := by
  rw [toBinary?_eq_parts] at h
  cases form : parts x with
  | infinity s | notANumber =>
    rw [form] at h
    cases h
  | zero s =>
    rw [form] at h
    cases h
    exact absurd positive (Nat.lt_irrefl 0)
  | finite s m e p =>
    rw [form] at h
    cases h
    exact ⟨s, rfl, rfl⟩

/-- Bits that are not those of a NaN are kept. -/
theorem toBits_ofBits {b : UInt64} (number : b.toNat / 2 ^ 52 % 2 ^ 11 ≠ 2047) :
    (Float.ofBits b).toBits = b := by
  have apart : @isNaNBits Format.binary64 b.toBitVec = false := by
    rw [isNaNBits, decide_eq_false_iff_not]
    rintro ⟨ones, -⟩
    have field := congrArg BitVec.toNat ones
    rw [toNat_unpackExponent] at field
    exact number field
  refine UInt64.toBitVec_inj.1 ?_
  change UnpackedFloat.pack Format.binary64 (UnpackedFloat.unpack Format.binary64 b.toBitVec) = _
  rw [pack_unpack, apart]
  rfl

/-- The double with a sign, an exponent field that is neither empty nor full, and a mantissa. -/
theorem toBinary?_ofBits (negative : Bool) {field mantissa : Nat} (least : 0 < field)
    (most : field < 2047) (full : 2 ^ 52 ≤ mantissa) (small : mantissa < 2 ^ 53) :
    toBinary? (Float.ofBits ((if negative then 2 ^ 63 else 0) +
        ((field - 1) * 2 ^ 52 + mantissa)).toUInt64) =
      some ⟨negative, mantissa, (field : Int) - 1075⟩ := by
  set bits := (if negative then 2 ^ 63 else 0) + ((field - 1) * 2 ^ 52 + mantissa) with bits_eq
  have fits : bits < 2 ^ 64 := by split at bits_eq <;> omega
  have value : bits.toUInt64.toNat = bits := UInt64.toNat_ofNat_of_lt fits
  have field_eq : bits / 2 ^ 52 % 2 ^ 11 = field := by split at bits_eq <;> omega
  have fraction_eq : bits % 2 ^ 52 = mantissa - 2 ^ 52 := by split at bits_eq <;> omega
  have sign_eq : (bits / 2 ^ 63 == 1) = negative := by
    rw [Bool.eq_iff_iff, beq_iff_eq]
    split at bits_eq
    · rename_i minus
      exact iff_of_true (by omega) minus
    · rename_i plus
      exact iff_of_false (by omega) plus
  have kept : (Float.ofBits bits.toUInt64).toBits = bits.toUInt64 := by
    refine toBits_ofBits ?_
    rw [value, field_eq]
    omega
  rw [toBinary?, signBit, kept, value]
  simp only [Nat.pow_eq]
  rw [field_eq, fraction_eq, sign_eq, if_neg (by omega), if_neg (by omega),
    Nat.add_sub_cancel' full]

/-! ### Mantissas with all bits -/

/-- A number shifted until its highest bit is the 53rd. -/
def fullMantissa (m : Nat) : Nat :=
  m * 2 ^ (52 - m.log2)

variable {m : Nat}

/-- A number below `2^53` has 53 bits at most. -/
theorem log2_le_of_lt (small : m < 2 ^ 53) : m.log2 ≤ 52 := by
  by_cases zero : m = 0
  · rw [zero]
    decide
  · exact Nat.le_of_lt_succ ((Nat.log2_lt zero).2 small)

/-- A shifted number has exactly 53 bits. -/
theorem fullMantissa_bounds (positive : 0 < m) (small : m < 2 ^ 53) :
    2 ^ 52 ≤ fullMantissa m ∧ fullMantissa m < 2 ^ 53 := by
  have high : m.log2 + (52 - m.log2) = 52 := Nat.add_sub_cancel' (log2_le_of_lt small)
  have shifted : 0 < 2 ^ (52 - m.log2) := Nat.two_pow_pos _
  constructor
  · calc 2 ^ 52 = 2 ^ m.log2 * 2 ^ (52 - m.log2) := by rw [← Nat.pow_add, high]
      _ ≤ fullMantissa m := Nat.mul_le_mul_right _ (Nat.log2_self_le positive.ne')
  · calc fullMantissa m < 2 ^ (m.log2 + 1) * 2 ^ (52 - m.log2) :=
        Nat.mul_lt_mul_of_pos_right Nat.lt_log2_self shifted
      _ = 2 ^ 53 := by rw [← Nat.pow_add, Nat.add_right_comm, high]

/-- **A whole number below `2^53` is a double.** -/
theorem toBinary?_ofInt {n : Int} (small : n.natAbs < 2 ^ 53) (nonzero : n ≠ 0) :
    toBinary? (ofInt n) =
      some ⟨decide (n < 0), fullMantissa n.natAbs, (n.natAbs.log2 : Int) - 52⟩ := by
  have positive : 0 < n.natAbs := Int.natAbs_pos.2 nonzero
  have high := log2_le_of_lt small
  obtain ⟨least, most⟩ := fullMantissa_bounds positive small
  have within : n.natAbs < Nat.pow 2 53 := small
  have normal : ¬0 + (n.natAbs.log2 : Int) < -1022 := by omega
  have shifted : shift n.natAbs (52 - n.natAbs.log2) = fullMantissa n.natAbs := by
    rw [shift, if_pos (by omega), fullMantissa, Nat.pow_eq]
    congr 2
    omega
  have excess : (0 + (n.natAbs.log2 : Int) + 1022).toNat = n.natAbs.log2 + 1022 := by omega
  have first : 0 < n.natAbs.log2 + 1023 := by omega
  have last : n.natAbs.log2 + 1023 < 2047 := by omega
  have double := toBinary?_ofBits (decide (n < 0)) first last least most
  rw [ofInt, if_pos within, Binary.toFloat]
  dsimp only
  rw [if_neg positive.ne', if_neg normal, shifted, excess]
  rw [show (n.natAbs.log2 : Int) - 52 = (n.natAbs.log2 + 1023 : Nat) - 1075 by omega]
  exact double

/-- The parts of a whole number below `2^53`. -/
def wholeParts (n : Int) : UnpackedFloat :=
  if h : n = 0 then .zero .positive
  else .finite (if n < 0 then .negative else .positive) (fullMantissa n.natAbs)
    ((n.natAbs.log2 : Int) - 52) (Nat.mul_pos (Int.natAbs_pos.2 h) (Nat.two_pow_pos _))

/-- A whole number below `2^53` has these parts. -/
theorem parts_ofInt {n : Int} (small : n.natAbs < 2 ^ 53) : parts (ofInt n) = wholeParts n := by
  by_cases zero : n = 0
  · subst zero
    exact Eq.refl (UnpackedFloat.zero .positive)
  · have positive : 0 < fullMantissa n.natAbs :=
      Nat.mul_pos (Int.natAbs_pos.2 zero) (Nat.two_pow_pos _)
    obtain ⟨s, sign, form⟩ := parts_of_toBinary? (toBinary?_ofInt small zero) positive
    rw [form, wholeParts, dif_neg zero]
    congr 1
    by_cases negative : n < 0 <;> cases s <;> simp_all [isMinus]

/-! ### Rounding what is exact -/

/-- Bits that are zero are shifted out without a trace. -/
theorem shiftRight_exact (m k : Nat) :
    ExtendedMantissa.mk (m * 2 ^ k) false false >>> k = ExtendedMantissa.mk m false false := by
  induction k generalizing m with
  | zero =>
    rw [Nat.pow_zero, Nat.mul_one]
    rfl
  | succ k ih =>
    have last : (ExtendedMantissa.mk (m * 2) false false).shiftRightOne = ⟨m, false, false⟩ := by
      simp [ExtendedMantissa.shiftRightOne]
    rw [Nat.pow_succ', ← Nat.mul_assoc, ← last, ← ih (m * 2)]
    rfl

/-- Each factor two is one bit more. -/
theorem log2_mul_two_pow {m : Nat} (positive : 0 < m) (k : Nat) :
    (m * 2 ^ k).log2 = m.log2 + k := by
  induction k with
  | zero => rw [Nat.pow_zero, Nat.mul_one, Nat.add_zero]
  | succ k ih =>
    have shifted : m * 2 ^ k ≠ 0 := (Nat.mul_pos positive (Nat.two_pow_pos k)).ne'
    rw [Nat.pow_succ, ← Nat.mul_assoc, Nat.mul_comm, Nat.log2_two_mul shifted, ih, Nat.add_assoc]

/-- Zeros behind the bits do not change the exponent of the highest bit. -/
theorem totalExponent_shift {m : Nat} (positive : 0 < m) (e : Int) (k : Nat) :
    totalExponent (m * 2 ^ k) (e - k) = totalExponent m e := by
  rw [totalExponent, totalExponent, log2_mul_two_pow positive]
  push_cast
  ring

/-- **A number that the format holds is rounded to itself,** however many zeros stand behind its
bits. -/
theorem roundWithAccuracy_exact (s : Sign) {m : Nat} {e : Int} (positive : 0 < m)
    (canonical : Format.binary64.targetExponent (totalExponent m e) = e) (k : Nat) :
    roundWithAccuracy Format.binary64 s (m * 2 ^ k) (e - k) .exact = .finite s m e positive := by
  have shifted (k : Nat) : shiftToTargetExponent Format.binary64 (m * 2 ^ k) (e - k) .exact =
      (⟨m, false, false⟩, e) := by
    have amount : (e - (e - (k : Int))).toNat = k := by omega
    have exponent : e - (k : Int) + (k : Nat) = e := by omega
    rw [shiftToTargetExponent, totalExponent_shift positive, canonical, shiftToExponent,
      amount, exponent]
    exact congrArg (·, e) (shiftRight_exact m k)
  have again := shifted 0
  rw [Nat.pow_zero, Nat.mul_one, Nat.cast_zero, Int.sub_zero] at again
  rw [roundWithAccuracy, shifted]
  dsimp only
  rw [ExtendedMantissa.roundedMantissa, ExtendedMantissa.accuracy, Accuracy.roundToNearestEven,
    again]
  exact dif_neg positive.ne'

/-- The last bit that the format keeps of a whole number is 52 below its highest one. -/
theorem targetExponent_whole {m : Nat} (small : m < 2 ^ 53) :
    Format.binary64.targetExponent (totalExponent m 0) = (m.log2 : Int) - 52 := by
  have high := log2_le_of_lt small
  simp only [Format.targetExponent, totalExponent, Format.mantissaBits, Format.minExponent]
  omega

/-- A whole number with zeros behind its bits is rounded to itself. -/
theorem round_whole (s : Sign) {m : Nat} (positive : 0 < m) (small : m < 2 ^ 53) (k : Nat) :
    UnpackedFloat.round Format.binary64 s (m * 2 ^ k) (-k) =
      .finite s (fullMantissa m) ((m.log2 : Int) - 52)
        (Nat.mul_pos positive (Nat.two_pow_pos _)) := by
  have high := log2_le_of_lt small
  have canonical : Format.binary64.targetExponent
      (totalExponent (fullMantissa m) ((m.log2 : Int) - 52)) = (m.log2 : Int) - 52 := by
    have low : (m.log2 : Int) - 52 = 0 - (52 - m.log2 : Nat) := by omega
    rw [fullMantissa, low, totalExponent_shift positive, targetExponent_whole small, ← low]
  obtain ⟨r, zeros⟩ : ∃ r, k + (-(k : Int) - (m.log2 - 52)).toNat = 52 - m.log2 + r :=
    Nat.exists_eq_add_of_le (by omega)
  have exponent : -(k : Int) - (-(k : Int) - (m.log2 - 52)).toNat = (m.log2 : Int) - 52 - r := by
    omega
  have total := totalExponent_shift positive 0 k
  rw [Int.zero_sub] at total
  rw [UnpackedFloat.round, total, targetExponent_whole small, decreaseExponent]
  dsimp only
  rw [exponent, Nat.shiftLeft_eq, Nat.mul_assoc, ← Nat.pow_add, zeros, Nat.pow_add, ← Nat.mul_assoc]
  exact roundWithAccuracy_exact s (Nat.mul_pos positive (Nat.two_pow_pos _)) canonical r

/-- Normalizing a whole number with zeros behind its bits gives its parts. -/
theorem normalize_whole {n : Int} (small : n.natAbs < 2 ^ 53) (k : Nat) :
    UnpackedFloat.normalize Format.binary64 (n * 2 ^ k) (-k) .positive = wholeParts n := by
  have shifted : (0 : Int) < 2 ^ k := by positivity
  have magnitude : (n * 2 ^ k).natAbs = n.natAbs * 2 ^ k := by
    rw [Int.natAbs_mul, Int.natAbs_pow]
    rfl
  rw [UnpackedFloat.normalize]
  rcases lt_trichotomy n 0 with negative | rfl | positive
  · have below : n * 2 ^ k < 0 := Int.mul_neg_of_neg_of_pos negative shifted
    have opposite : (-(n * 2 ^ k)).toNat = n.natAbs * 2 ^ k := by omega
    rw [compare_lt_iff_lt.2 below, opposite]
    dsimp only
    rw [round_whole _ (by omega) small, wholeParts, dif_neg negative.ne]
    congr 1
    exact (if_pos negative).symm
  · rw [Int.zero_mul]
    rfl
  · have above : 0 < n * 2 ^ k := Int.mul_pos positive shifted
    have same : (n * 2 ^ k).toNat = n.natAbs * 2 ^ k := by omega
    rw [compare_gt_iff_gt.2 above, same]
    dsimp only
    rw [round_whole _ (by omega) small, wholeParts, dif_neg positive.ne']
    congr 1
    exact (if_neg positive.not_gt).symm

/-! ### Sums -/

/-- The mantissa of a whole number with its sign. -/
theorem apply_fullMantissa (n : Int) (j : Nat) :
    (if n < 0 then Sign.negative else .positive).apply (fullMantissa n.natAbs <<< j : Nat) =
      n * 2 ^ (52 - n.natAbs.log2 + j) := by
  have value : ((fullMantissa n.natAbs <<< j : Nat) : Int) =
      n.natAbs * 2 ^ (52 - n.natAbs.log2 + j) := by
    rw [Nat.shiftLeft_eq, fullMantissa, Nat.mul_assoc, ← Nat.pow_add]
    push_cast
    rfl
  split
  · rename_i negative
    rw [Sign.apply, value, ← Int.neg_mul]
    congr 1
    omega
  · rename_i positive
    rw [Sign.apply, value]
    congr 1
    omega

/-- Adding the parts of whole numbers gives those of the sum, below `2^53`. -/
theorem add_wholeParts {a b : Int} (small : a.natAbs < 2 ^ 53) (small' : b.natAbs < 2 ^ 53)
    (sum : (a + b).natAbs < 2 ^ 53) :
    UnpackedFloat.add Format.binary64 (wholeParts a) (wholeParts b) = wholeParts (a + b) := by
  by_cases zero : a = 0
  · rw [zero, Int.zero_add]
    by_cases zero' : b = 0
    · rw [zero']
      rfl
    · rw [wholeParts, wholeParts, dif_pos rfl, dif_neg zero']
      rfl
  by_cases zero' : b = 0
  · rw [zero', Int.add_zero, wholeParts, wholeParts, dif_neg zero, dif_pos rfl]
    rfl
  have high := log2_le_of_lt small
  have high' := log2_le_of_lt small'
  -- Both mantissas are brought to the exponent of the smaller number.
  obtain ⟨k, lowest⟩ : ∃ k : Nat, min ((a.natAbs.log2 : Int) - 52) (b.natAbs.log2 - 52) = -k :=
    ⟨52 - min a.natAbs.log2 b.natAbs.log2, by omega⟩
  have places : 52 - a.natAbs.log2 + ((a.natAbs.log2 : Int) - 52 - -k).toNat = k := by omega
  have places' : 52 - b.natAbs.log2 + ((b.natAbs.log2 : Int) - 52 - -k).toNat = k := by omega
  rw [← normalize_whole sum k, Int.add_mul]
  rw [wholeParts, wholeParts, dif_neg zero, dif_neg zero']
  simp only [UnpackedFloat.add, decreaseExponent]
  rw [lowest, apply_fullMantissa, apply_fullMantissa, places, places']

/-- **The sum of whole numbers is exact** below `2^53`. -/
theorem ofInt_add {a b : Int} (small : a.natAbs < 2 ^ 53) (small' : b.natAbs < 2 ^ 53)
    (sum : (a + b).natAbs < 2 ^ 53) : ofInt a + ofInt b = ofInt (a + b) := by
  rw [← ofModel_pack_parts (ofInt (a + b)), parts_ofInt sum, ← add_wholeParts small small' sum,
    ← parts_ofInt small, ← parts_ofInt small']
  rfl

/-- A whole number below `2^53` is read back from its double. -/
theorem toInt?_ofInt {n : Int} (small : n.natAbs < 2 ^ 53) : toInt? (ofInt n) = some n := by
  by_cases zero : n = 0
  · subst zero
    decide +kernel
  have high := log2_le_of_lt small
  have part : shift (fullMantissa n.natAbs) ((n.natAbs.log2 : Int) - 52) = n.natAbs := by
    rw [shift]
    split
    · have whole : 52 - n.natAbs.log2 = 0 := by omega
      have none : ((n.natAbs.log2 : Int) - 52).toNat = 0 := by omega
      rw [fullMantissa, whole, none, Nat.pow_eq, Nat.pow_zero, Nat.mul_one, Nat.mul_one]
    · have places : (-((n.natAbs.log2 : Int) - 52)).toNat = 52 - n.natAbs.log2 := by omega
      rw [fullMantissa, places, Nat.pow_eq, Nat.mul_div_cancel _ (Nat.two_pow_pos _)]
  rw [toInt?, toBinary?_ofInt small zero, Option.map_some, Option.some_inj, Binary.wholePart]
  dsimp only
  rw [part]
  split
  · rename_i negative
    rw [Int.ofNat_natAbs_of_nonpos (of_decide_eq_true negative).le, Int.neg_neg]
  · rename_i positive
    exact Int.natAbs_of_nonneg (Int.not_lt.1 (positive ∘ decide_eq_true))

/-- What has a whole part is not NaN. -/
theorem isNaN_of_toInt? {n : Int} (h : toInt? x = some n) : x.isNaN = false := by
  rw [toInt?, toBinary?_eq_parts] at h
  rw [isNaN_eq_parts]
  generalize parts x = u at h ⊢
  cases u with
  | notANumber => cases h
  | infinity s | zero s | finite s m e p => rfl

/-! ### Opposites -/

/-- Packed fields are a NaN if the exponent is full and the mantissa not empty. -/
theorem isNaNBits_packComponents (s : Sign) (e : BitVec 11) (m : BitVec 52) :
    isNaNBits (packComponents Format.binary64 s e m) = decide (e = -1#11 ∧ m ≠ 0#52) := by
  rw [isNaNBits, unpackExponent_packComponents, unpackMantissa_packComponents]

/-- The sign bit is all that an opposite differs in. -/
theorem neg_unpack_packComponents (s : Sign) (e : BitVec 11) (m : BitVec 52) :
    (UnpackedFloat.unpack Format.binary64 (packComponents Format.binary64 s e m)).neg =
      UnpackedFloat.unpack Format.binary64 (packComponents Format.binary64 (-s) e m) := by
  unfold UnpackedFloat.unpack
  simp only [unpackExponent_packComponents, unpackMantissa_packComponents,
    unpackSign_packComponents, Sign.ofBitVec_toBitVec]
  split
  · split <;> rfl
  split
  · split <;> rfl
  · rfl

/-- The opposite of a double is packed without loss. -/
theorem unpack_pack_neg (b : BitVec Format.binary64.numBits) :
    UnpackedFloat.unpack Format.binary64
      (UnpackedFloat.pack Format.binary64 (UnpackedFloat.unpack Format.binary64 b).neg) =
        (UnpackedFloat.unpack Format.binary64 b).neg := by
  rw [← packComponents_unpackSign_unpackExponent_unpackMantissa b, neg_unpack_packComponents,
    pack_unpack]
  split
  · rename_i nan
    rw [isNaNBits_packComponents, decide_eq_true_eq] at nan
    rw [unpack_packedNaN, nan.1]
    simp [UnpackedFloat.unpack, nan.2]
  · rfl

/-- The parts of the opposite are the opposite parts. -/
theorem parts_neg (x : Float) : parts (-x) = (parts x).neg :=
  unpack_pack_neg x.toBits.toBitVec

/-- The opposite of the opposite is the double itself, NaN included. -/
theorem neg_neg (x : Float) : - -x = x := by
  refine parts_inj ?_
  rw [parts_neg, parts_neg]
  rcases parts x with s | _ | s | ⟨s, m, e, positive⟩
  all_goals first | rfl | (cases s <;> rfl)

/-- Whole numbers from `2^53` on are rounded. -/
theorem ofInt_of_large {n : Int} (large : ¬n.natAbs < 2 ^ 53) : ofInt n = Float.ofInt n :=
  if_neg large

/-- The opposite of a whole number other than zero, also of one that is rounded. -/
theorem neg_ofInt {n : Int} (nonzero : n ≠ 0) : -ofInt n = ofInt (-n) := by
  by_cases small : n.natAbs < 2 ^ 53
  · have small' : (-n).natAbs < 2 ^ 53 := by rwa [Int.natAbs_neg]
    refine parts_inj ?_
    rw [parts_neg, parts_ofInt small, parts_ofInt small', wholeParts, wholeParts, dif_neg nonzero,
      dif_neg (Int.neg_ne_zero.2 nonzero)]
    rcases Int.lt_or_gt_of_ne nonzero with negative | positive
    · simp only [if_pos negative, if_neg (Int.neg_pos_of_neg negative).not_gt, Int.natAbs_neg]
      rfl
    · simp only [if_neg positive.not_gt, if_pos (Int.neg_neg_of_pos positive), Int.natAbs_neg]
      rfl
  · have large : ¬(-n).natAbs < 2 ^ 53 := by rwa [Int.natAbs_neg]
    rw [ofInt_of_large small, ofInt_of_large large]
    rcases n with n | n
    · cases n with
      | zero => exact absurd rfl nonzero
      | succ n => rfl
    · exact neg_neg _

/-- No whole number becomes NaN. -/
theorem isNaN_ofInt (n : Int) : (ofInt n).isNaN = false := by
  by_cases small : n.natAbs < 2 ^ 53
  · rw [isNaN_eq_parts, parts_ofInt small, wholeParts]
    split <;> rfl
  · rw [ofInt_of_large small]
    rcases n with n | n
    · exact isNaN_ofScientific n false 0
    · exact isNaN_neg (isNaN_ofScientific (n + 1) false 0)

/-- The double of an opposite is the opposite, up to the sign of zero. -/
theorem neg_ofInt_beq (n : Int) : -ofInt n == ofInt (-n) := by
  by_cases zero : n = 0
  · rw [zero]
    decide +kernel
  · rw [neg_ofInt zero]
    exact beq_self (isNaN_ofInt (-n))

end Number
end SurveyLogic
