/-
# Doubles taken apart

The operations on doubles take their operands apart, compute on the parts, and pack the result. This
module tells what becomes of the parts on the two ways:

| parts | exact value | after packing |
| --- | --- | --- |
| NaN | none | a NaN |
| an infinity | none | the infinity |
| a zero | zero, with the sign | the zero |
| sign, mantissa, exponent | these | the same, or an infinity where they do not fit |

So a finite double has the parts of its exact value (`toBinary?_eq_parts`), and only a NaN is packed
into one (`isNaN_pack`).
-/

import Mathlib
import SurveyLogic.Number.Binary

namespace SurveyLogic
namespace Number

open Float.Model Float.Model.UnpackedFloat

/-- A double taken apart. -/
def parts (x : Float) : UnpackedFloat :=
  x.toModel.unpack

/-- A double is NaN if its parts are. -/
theorem isNaN_eq_parts (x : Float) : x.isNaN = (parts x).isNaN :=
  rfl

/-- Whether a sign is a minus. -/
def isMinus : Sign → Bool
  | .negative => true
  | .positive => false

/-- The exact value of finite parts. -/
def exactValue? : UnpackedFloat → Option Binary
  | .infinity _ => none
  | .notANumber => none
  | .zero s => some ⟨isMinus s, 0, -1074⟩
  | .finite s m e _ => some ⟨isMinus s, m, e⟩

/-! ### Taking apart -/

section

variable (b : BitVec Format.binary64.numBits)

/-- The exponent field is what stands behind the sign bit. -/
theorem toNat_unpackExponent : (unpackExponent b).toNat = b.toNat / 2 ^ 52 % 2 ^ 11 := by
  unfold unpackExponent
  rw [BitVec.toNat_cast, BitVec.extractLsb_toNat, Nat.shiftRight_eq_div_pow]
  rfl

/-- The mantissa field is the last 52 bits. -/
theorem toNat_unpackMantissa : (unpackMantissa b).toNat = b.toNat % 2 ^ 52 := by
  unfold unpackMantissa
  rw [BitVec.toNat_cast, BitVec.extractLsb_toNat, Nat.shiftRight_eq_div_pow]
  change b.toNat / 2 ^ 0 % 2 ^ 52 = _
  rw [Nat.pow_zero, Nat.div_one]

/-- The sign is the first bit. -/
theorem isMinus_unpackSign : isMinus (.ofBitVec (unpackSign b)) = (b.toNat / 2 ^ 63 == 1) := by
  have fits : b.toNat < 2 ^ 64 := b.isLt
  have value : (unpackSign b).toNat = b.toNat / 2 ^ 63 := by
    unfold unpackSign
    rw [BitVec.toNat_cast, BitVec.extractLsb_toNat, Nat.shiftRight_eq_div_pow]
    change b.toNat / 2 ^ 63 % 2 ^ 1 = _
    omega
  rw [← value]
  generalize unpackSign b = v
  decide +revert

/-- A normal double has a bit in front of those of its mantissa. -/
theorem toNat_one_append (m : BitVec 52) : (1#1 ++ m).toNat = 2 ^ 52 + m.toNat := by
  rw [BitVec.toNat_append, ← Nat.shiftLeft_add_eq_or_of_lt m.isLt]
  rfl

/-- The exact value of a double follows from its three fields. -/
theorem exactValue?_unpack :
    exactValue? (UnpackedFloat.unpack Format.binary64 b) =
      if b.toNat / 2 ^ 52 % 2 ^ 11 = 2047 then none
      else if b.toNat / 2 ^ 52 % 2 ^ 11 = 0 then
        some ⟨b.toNat / 2 ^ 63 == 1, b.toNat % 2 ^ 52, -1074⟩
      else
        some ⟨b.toNat / 2 ^ 63 == 1, 2 ^ 52 + b.toNat % 2 ^ 52,
          (b.toNat / 2 ^ 52 % 2 ^ 11 : Nat) - 1075⟩ := by
  rw [← toNat_unpackExponent, ← toNat_unpackMantissa, ← isMinus_unpackSign]
  have full : unpackExponent b = -1#_ ↔ (unpackExponent b).toNat = 2047 := BitVec.toNat_inj.symm
  have empty : unpackExponent b = 0#_ ↔ (unpackExponent b).toNat = 0 := BitVec.toNat_inj.symm
  fun_cases UnpackedFloat.unpack Format.binary64 b with
  | case1 _ _ _ _ ones => rw [if_pos (full.1 ones), exactValue?]
  | case2 _ _ ones => rw [if_pos (full.1 ones), exactValue?]
  | case3 _ _ _ _ ones zeros zero =>
    have mantissa : (unpackMantissa b).toNat = 0 := congrArg BitVec.toNat zero
    rw [if_neg (ones ∘ full.2), if_pos (empty.1 zeros), exactValue?, mantissa]
  | case4 _ _ _ _ _ ones zeros =>
    have lowest : ((unpackExponent b).toNat : Int) - (1023 + 52) + 1 = -1074 := by
      rw [empty.1 zeros]
      rfl
    rw [if_neg (ones ∘ full.2), if_pos (empty.1 zeros), exactValue?]
    exact congrArg (fun e : Int => some (⟨_, _, e⟩ : Binary)) lowest
  | case5 _ _ _ _ _ ones zeros =>
    rw [if_neg (ones ∘ full.2), if_neg (zeros ∘ empty.2), exactValue?, toNat_one_append]
    rfl

/-- The sign of an infinity is its first bit. -/
theorem isMinus_of_unpack_infinity {s : Sign} :
    UnpackedFloat.unpack Format.binary64 b = .infinity s → isMinus s = (b.toNat / 2 ^ 63 == 1) := by
  rw [← isMinus_unpackSign]
  fun_cases UnpackedFloat.unpack Format.binary64 b
  case case1 =>
    intro same
    rw [← UnpackedFloat.infinity.inj same]
  all_goals
    intro same
    cases same

end

/-- **A finite double has the parts of its exact value.** -/
theorem toBinary?_eq_parts (x : Float) : toBinary? x = exactValue? (parts x) :=
  (exactValue?_unpack x.toBits.toBitVec).symm

/-- The sign bit of an infinity is its sign. -/
theorem signBit_of_infinity {x : Float} {s : Sign} (h : parts x = .infinity s) :
    signBit x = isMinus s :=
  (isMinus_of_unpack_infinity x.toBits.toBitVec h).symm

/-! ### Packing -/

/-- A NaN is what has all bits of the exponent set and some bit of the mantissa. -/
theorem isNaN_unpack {b : BitVec Format.binary64.numBits} :
    (UnpackedFloat.unpack Format.binary64 b).isNaN ↔
      unpackExponent b = -1#_ ∧ unpackMantissa b ≠ 0#_ := by
  fun_cases UnpackedFloat.unpack Format.binary64 b with
  | case1 _ _ _ _ _ zero => exact iff_of_false Bool.false_ne_true fun h => h.2 zero
  | case2 _ _ ones some => exact iff_of_true rfl ⟨ones, some⟩
  | case3 _ _ _ _ ones => exact iff_of_false Bool.false_ne_true fun h => ones h.1
  | case4 _ _ _ _ _ ones => exact iff_of_false Bool.false_ne_true fun h => ones h.1
  | case5 _ _ _ _ _ ones => exact iff_of_false Bool.false_ne_true fun h => ones h.1

/-- **Only a NaN is packed into one.** A number that does not fit becomes an infinity. -/
theorem isNaN_pack {u : UnpackedFloat} (h : u.isNaN = false) :
    (Float.ofModel (.pack u)).isNaN = false := by
  change (UnpackedFloat.unpack Format.binary64 (UnpackedFloat.pack Format.binary64 u)).isNaN = false
  rw [Bool.eq_false_iff, Ne, isNaN_unpack]
  fun_cases UnpackedFloat.pack Format.binary64 u with
  | case1 => cases h
  | case2 => simp [packedInfinity]
  | case3 => simp [packedZero]
  | case4 => simp [packedInfinity]
  | case5 s m e _ _ biased fits =>
    rintro ⟨ones, -⟩
    rw [unpackExponent_packComponents] at ones
    have field := congrArg BitVec.toNat ones
    rw [BitVec.toNat_ofNat] at field
    change biased % 2048 = 2047 at field
    change ¬2048 ≤ biased + 1 at fits
    omega
  | case6 =>
    rintro ⟨ones, -⟩
    rw [unpackExponent_packComponents] at ones
    cases ones

end Number
end SurveyLogic
