/-
# Numbers as text

Three ways to write a double, all from its shortest decimal.

| form | layout | tie | not finite |
| --- | --- | --- | --- |
| plain | positional always; no point without a fraction | up | `inf`, `-inf`, `NaN` |
| answer | whole numbers below `10^15` as integers, else plain | up | `Infinity`, `NaN` |
| JSON | from `10^-5` to below `10^16` positional, else `d.ddde+XX` | even | none |
-/

import SurveyLogic.Number.Shortest

namespace SurveyLogic
namespace Number

/-- The decimal digits of a natural number. -/
def natDigits (n : Nat) : List Char :=
  Nat.toDigits 10 n

/-- `digits` with a point in front of the last `k`, led by a zero where none would stand before the
point. -/
def withPoint (digits : List Char) (k : Nat) : List Char :=
  let padded := List.replicate (k + 1 - digits.length) '0' ++ digits
  padded.take (padded.length - k) ++ '.' :: padded.drop (padded.length - k)

/-- A decimal without an exponent, with a point only if it has a fraction. -/
def Decimal.positional (d : Decimal) : List Char :=
  if 0 ≤ d.exponent then natDigits (d.digits * Nat.pow 10 d.exponent.toNat)
  else withPoint (natDigits d.digits) (-d.exponent).toNat

/-- A decimal as one digit, the others behind a point, and the exponent with its sign. -/
def Decimal.scientific (d : Decimal) : List Char :=
  let ds := natDigits d.digits
  let e := d.exponent + (ds.length - 1 : Nat)
  let fraction := if ds.length ≤ 1 then [] else '.' :: ds.drop 1
  ds.take 1 ++ fraction ++ 'e' :: (if e < 0 then '-' else '+') :: natDigits e.natAbs

/-- A minus sign before the text of a negative number. -/
def signed (negative : Bool) (text : List Char) : String :=
  String.ofList (if negative then '-' :: text else text)

/-- The plain text of a double. -/
def plain (x : Float) : String :=
  match toBinary? x with
  | some b => signed b.negative (shortest .up b.mantissa b.exponent).positional
  | none => if x.isNaN then "NaN" else if signBit x then "-inf" else "inf"

/-- The text of a number inside an answer. -/
def answerText (x : Float) : String :=
  match toBinary? x with
  | some b =>
    if b.isWhole && b.wholePart < Nat.pow 10 15 then
      signed (b.negative && b.mantissa != 0) (natDigits b.wholePart)
    else plain x
  | none => if x.isNaN then "NaN" else if signBit x then "-Infinity" else "Infinity"

/-- The JSON text of a finite double. -/
def jsonText? (x : Float) : Option String :=
  (toBinary? x).map fun b =>
    let d := shortest .toEven b.mantissa b.exponent
    let magnitude := d.exponent + digitCount d.digits
    signed b.negative <|
      if d.digits = 0 then ['0', '.', '0']
      else if -5 < magnitude && magnitude ≤ 16 then
        if 0 ≤ d.exponent then d.positional ++ ['.', '0'] else d.positional
      else d.scientific

/-! The three forms at the ends of their ranges. -/

example : plain 1e21 = "1000000000000000000000" ∧ plain (-0.0) = "-0" := by decide +kernel

example : answerText 1e14 = "100000000000000" ∧ answerText (-0.0) = "0" ∧
    answerText 2.5 = "2.5" := by
  decide +kernel

example : jsonText? 1e15 = some "1000000000000000.0" ∧ jsonText? 1e16 = some "1e+16" ∧
    jsonText? 0.00001 = some "0.00001" ∧ jsonText? 0.000001 = some "1e-6" := by
  decide +kernel

end Number
end SurveyLogic
