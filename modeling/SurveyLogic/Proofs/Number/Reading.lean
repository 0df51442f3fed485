/-
# No text is read as NaN

A NaN comes out of an operation on numbers only where infinities or zeros meet: `∞ · 0`, `∞ / ∞`,
`0 / 0`. The double nearest to a decimal is computed without these. Small decimals are a whole
number times or over a power of ten, which is neither zero nor infinite; all others are rounded from
their exact value.
-/

import SurveyLogic.Number.Read
import SurveyLogic.Proofs.Number.Parts

namespace SurveyLogic
namespace Number

open Float.Model Float.Model.UnpackedFloat

variable {x y : Float}

/-! ### Parts -/

/-- Rounding gives a zero or a finite number. -/
theorem isNaN_roundWithAccuracy (spec : Format) (s : Sign) (m : Nat) (e : Int) (a : Accuracy) :
    (roundWithAccuracy spec s m e a).isNaN = false := by
  unfold roundWithAccuracy
  dsimp only
  split <;> rfl

/-- No number in scientific form is rounded to NaN. -/
theorem isNaN_ofScientific_parts (spec : Format) (m : Nat) (e : Int) :
    (UnpackedFloat.ofScientific spec m e).isNaN = false := by
  unfold UnpackedFloat.ofScientific
  split
  · rfl
  split
  · rfl
  split
  · rfl
  split
  · exact isNaN_roundWithAccuracy ..
  · exact isNaN_roundWithAccuracy ..

/-- Whether parts are those of a finite number other than zero. -/
def isUnit : UnpackedFloat → Bool
  | .finite _ _ _ _ => true
  | _ => false

/-! ### Operations -/

/-- The opposite of a number is a number. -/
theorem isNaN_neg (number : x.isNaN = false) : (-x).isNaN = false := by
  refine isNaN_pack (u := (parts x).neg) ?_
  rw [isNaN_eq_parts] at number
  generalize parts x = u at number ⊢
  cases u with
  | notANumber => cases number
  | infinity s | zero s | finite s m e => rfl

/-- A number times a finite one other than zero is a number. -/
theorem isNaN_mul (number : x.isNaN = false) (unit : isUnit (parts y)) :
    (x * y).isNaN = false := by
  refine isNaN_pack (u := UnpackedFloat.mul Format.binary64 (parts x) (parts y)) ?_
  rw [isNaN_eq_parts] at number
  generalize parts x = u at number ⊢
  generalize parts y = v at unit ⊢
  cases v with
  | infinity t | notANumber | zero t => cases unit
  | finite t n f =>
    cases u with
    | notANumber => cases number
    | infinity s | zero s => rfl
    | finite s m e => exact isNaN_roundWithAccuracy ..

/-- A number over a finite one other than zero is a number. -/
theorem isNaN_div (number : x.isNaN = false) (unit : isUnit (parts y)) :
    (x / y).isNaN = false := by
  refine isNaN_pack (u := UnpackedFloat.div Format.binary64 (parts x) (parts y)) ?_
  rw [isNaN_eq_parts] at number
  generalize parts x = u at number ⊢
  generalize parts y = v at unit ⊢
  cases v with
  | infinity t | notANumber | zero t => cases unit
  | finite t n f =>
    cases u with
    | notANumber => cases number
    | infinity s | zero s => rfl
    | finite s m e => exact isNaN_roundWithAccuracy ..

/-- No natural number becomes NaN. -/
theorem isNaN_toFloat (n : UInt64) : n.toFloat.isNaN = false := by
  refine isNaN_pack (u := UnpackedFloat.ofUInt64 Format.binary64 n) ?_
  unfold UnpackedFloat.ofUInt64 UnpackedFloat.ofNat UnpackedFloat.ofInt UnpackedFloat.normalize
  split
  · exact isNaN_roundWithAccuracy ..
  · rfl
  · exact isNaN_roundWithAccuracy ..

/-! ### Decimals -/

/-- The powers of ten that are exact are finite and not zero. -/
theorem isUnit_powers :
    Float.exactlyRepresentablePowersOfTen.all fun x => isUnit (parts x) := by
  decide +kernel

/-- No number in scientific form becomes NaN. -/
theorem isNaN_ofScientific (m : Nat) (s : Bool) (e : Nat) :
    (Float.ofScientific m s e).isNaN = false := by
  unfold Float.ofScientific
  split
  · rename_i small
    have bound : e < Float.exactlyRepresentablePowersOfTen.size := Nat.lt_succ_of_le small.2
    have unit := Array.all_eq_true.1 isUnit_powers e bound
    split
    · exact isNaN_div (isNaN_toFloat _) unit
    · exact isNaN_mul (isNaN_toFloat _) unit
  · exact isNaN_pack (isNaN_ofScientific_parts ..)

/-- No decimal becomes NaN. -/
theorem isNaN_ofDecimal (m : Nat) (e : Int) : (ofDecimal m e).isNaN = false := by
  unfold ofDecimal
  dsimp only
  split
  · decide +kernel
  split
  · decide +kernel
  · exact isNaN_ofScientific ..

/-- **No text is read as NaN.** -/
theorem isNaN_of_read? {cs : List Char} (h : read? cs = some x) : x.isNaN = false := by
  unfold read? at h
  dsimp only at h
  split at h
  · cases h
  obtain ⟨e, -, rfl⟩ := Option.map_eq_some_iff.1 h
  split
  · exact isNaN_neg (isNaN_ofDecimal ..)
  · exact isNaN_ofDecimal ..

end Number
end SurveyLogic
