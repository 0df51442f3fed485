/-
# Exact values of doubles

A finite double is `± m · 2^q` with a natural `m < 2^53`. This module reads `m` and `q` off the
bits and puts them back, and computes exactly on them what the hardware does without rounding: the
whole part of a number and the remainder of a division.

| bits | exponent field `e` | value |
| --- | --- | --- |
| sign, `e`, fraction `f` | `0` | `± f · 2^(-1074)` |
| | `1` … `2046` | `± (2^52 + f) · 2^(e - 1075)` |
| | `2047` | not finite |
-/

namespace SurveyLogic
namespace Number

/-- The number `± mantissa · 2^exponent`. -/
structure Binary where
  negative : Bool
  mantissa : Nat
  exponent : Int
  deriving DecidableEq, Repr

/-- The sign bit of a double; set also for `-0`. -/
def signBit (x : Float) : Bool :=
  x.toBits.toNat / Nat.pow 2 63 == 1

/-- The exact value of a finite double. -/
def toBinary? (x : Float) : Option Binary :=
  let bits := x.toBits.toNat
  let field : Nat := bits / Nat.pow 2 52 % Nat.pow 2 11
  let fraction := bits % Nat.pow 2 52
  if field = 2047 then none
  else if field = 0 then some ⟨signBit x, fraction, -1074⟩
  else some ⟨signBit x, Nat.pow 2 52 + fraction, (field : Int) - 1075⟩

/-- `m · 2^k`, rounded down if `k` is negative. -/
def shift (m : Nat) (k : Int) : Nat :=
  if 0 ≤ k then m * Nat.pow 2 k.toNat else m / Nat.pow 2 (-k).toNat

/-- The double of an exact value that is one. -/
def Binary.toFloat (b : Binary) : Float :=
  let sign := if b.negative then Nat.pow 2 63 else 0
  let excess := b.exponent + Nat.log2 b.mantissa
  let magnitude :=
    if b.mantissa = 0 then 0
    else if excess < -1022 then shift b.mantissa (b.exponent + 1074)
    else (excess + 1022).toNat * Nat.pow 2 52 + shift b.mantissa (52 - Nat.log2 b.mantissa)
  Float.ofBits (sign + magnitude).toUInt64

/-- The double of a whole number, the nearest one if none is exact. -/
def ofInt (n : Int) : Float :=
  if n.natAbs < Nat.pow 2 53 then Binary.toFloat ⟨n < 0, n.natAbs, 0⟩ else Float.ofInt n

/-- Whether a value has no fraction. -/
def Binary.isWhole (b : Binary) : Bool :=
  0 ≤ b.exponent || b.mantissa % Nat.pow 2 (-b.exponent).toNat == 0

/-- The whole part of the magnitude. -/
def Binary.wholePart (b : Binary) : Nat :=
  shift b.mantissa b.exponent

/-- A value rounded to a whole number; `away` tells whether a fraction moves it away from zero. -/
def Binary.toWhole (b : Binary) (away : Bool) : Binary :=
  if b.isWhole then b
  else { b with mantissa := b.wholePart + (if away then 1 else 0), exponent := 0 }

/-- Rounding to a whole number, in the direction that `away` gives for each sign. An infinity or a
NaN stays what it is, and the sign is kept even where nothing else is left. -/
def roundWhole (away : (negative : Bool) → Bool) (x : Float) : Float :=
  match toBinary? x with
  | none => x
  | some b => (b.toWhole (away b.negative)).toFloat

/-- Rounding toward zero. -/
def trunc : Float → Float :=
  roundWhole fun _ => false

/-- Rounding down. -/
def floor : Float → Float :=
  roundWhole id

/-- Rounding up. -/
def ceil : Float → Float :=
  roundWhole (!·)

/-- Whether a double is finite and has no fraction. -/
def isWhole (x : Float) : Bool :=
  (toBinary? x).any (·.isWhole)

/-- The whole number below the magnitude of a finite double, with its sign. -/
def toInt? (x : Float) : Option Int :=
  (toBinary? x).map fun b => if b.negative then -(b.wholePart : Int) else b.wholePart

/-- The remainder of a division that truncates: the sign of the dividend and less than the divisor
in magnitude. It is exact. NaN for an infinite dividend, a zero divisor or a NaN. -/
def remainder (x y : Float) : Float :=
  match toBinary? x, toBinary? y with
  | some a, some b =>
    if b.mantissa = 0 then 0.0 / 0.0
    else
      let e := min a.exponent b.exponent
      let m := shift a.mantissa (a.exponent - e) % shift b.mantissa (b.exponent - e)
      Binary.toFloat ⟨a.negative, m, e⟩
  | some _, none => if y.isNaN then y else x
  | none, _ => 0.0 / 0.0

/-- `10 ^ n`, by squaring: `r` and `b` start from `1` and `10`, each bit of `n` from the lowest on
multiplies `r` by `b` if it is set, and then squares `b`. -/
def powerOfTen (n : Nat) : Float :=
  go n.log2 n 1.0 10.0
where
  /-- The bits of `n` still to come, at most `bits + 1` of them. -/
  go (bits n : Nat) (r b : Float) : Float :=
    let r := if n % 2 = 1 then r * b else r
    match bits with
    | 0 => r
    | bits + 1 => go bits (n / 2) r (b * b)

/-- `10 ^ n` for a whole `n` of either sign: below zero the reciprocal of the positive power. -/
def scaleOfTen (n : Int) : Float :=
  if n < 0 then 1.0 / powerOfTen n.natAbs else powerOfTen n.natAbs

end Number
end SurveyLogic
