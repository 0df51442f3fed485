/-
# The shortest decimal of a double

Among the decimals that read back as a given double, the one with the fewest digits, and of these
the nearest. The reals that read back as `m · 2^q` are those between the midpoints to the two
neighbouring doubles, the midpoints included if `m` is even. Below a power of two the doubles lie
twice as close, so there the lower midpoint is half as far away.

The digits are found by trying one grid of decimals after the other, from the power of ten above
the value to `17` digits. On each grid it is enough to look at the two neighbours of the value: if
any point of the grid reads back, so does one of these. A hit has no trailing zero, for it would lie
on an earlier grid. What happens when both neighbours read back and are equally near is left to the
caller.
-/

import SurveyLogic.Number.Binary

namespace SurveyLogic
namespace Number

/-- The number `digits · 10^exponent`. -/
structure Decimal where
  digits : Nat
  exponent : Int
  deriving DecidableEq, Repr

/-- Which of two equally near decimals is taken: the one with an even last digit, or the larger. -/
inductive Tie where
  | toEven
  | up

/-- The number of decimal digits of `n`; one for zero. -/
def digitCount (n : Nat) : Nat :=
  (Nat.toDigits 10 n).length

/-- A positive value with its midpoints as fractions of one denominator. -/
structure Interval where
  low : Nat
  value : Nat
  high : Nat
  denominator : Nat
  closed : Bool

/-- The interval of reals that read back as `m · 2^q`. All is counted in quarters of `2^q`. -/
def Interval.around (m : Nat) (q : Int) : Interval :=
  let lowGap := if m = Nat.pow 2 52 && -1074 < q then 1 else 2
  let up := Nat.pow 2 q.toNat
  ⟨(4 * m - lowGap) * up, 4 * m * up, (4 * m + 2) * up, 4 * Nat.pow 2 (-q).toNat, m % 2 == 0⟩

/-- Whether the fraction `n / d` lies in the interval. -/
def Interval.holds (i : Interval) (n d : Nat) : Bool :=
  let left := i.low * d
  let right := i.high * d
  let x := n * i.denominator
  if i.closed then left ≤ x && x ≤ right else left < x && x < right

/-- The neighbour of the value on the grid of multiples of `10^e` that reads back and is the
nearer of those that do. -/
def Interval.onGrid? (i : Interval) (tie : Tie) (e : Int) : Option Nat :=
  let up := Nat.pow 10 e.toNat
  let down := Nat.pow 10 (-e).toNat
  let scaled := i.value * down
  let unit := i.denominator * up
  let below := scaled / unit
  let rest := scaled % unit
  let inside (d : Nat) := i.holds (d * up) down
  match inside below, inside (below + 1) with
  | false, false => none
  | true, false => some below
  | false, true => some (below + 1)
  | true, true =>
    if 2 * rest < unit then some below
    else if unit < 2 * rest then some (below + 1)
    else match tie with
      | .up => some (below + 1)
      | .toEven => some (if below % 2 = 0 then below else below + 1)

/-- The position of the decimal point: the `k` with `10^(k-1) ≤ value < 10^k`. -/
def Interval.magnitude (i : Interval) : Int :=
  if i.denominator ≤ i.value then digitCount (i.value / i.denominator)
  else 1 - (digitCount (i.denominator / i.value) : Int)

/-- The first grid with a hit, from `17 - more` digits on. -/
def Interval.search (i : Interval) (tie : Tie) : (more : Nat) → Decimal
  | 0 =>
    let e := i.magnitude - 17
    ⟨(i.onGrid? tie e).getD 0, e⟩
  | more + 1 =>
    let e := i.magnitude - (17 - (more + 1) : Nat)
    match i.onGrid? tie e with
    | some d => ⟨d, e⟩
    | none => i.search tie more

/-- The shortest decimal of the positive double `m · 2^q`, zero for zero. -/
def shortest (tie : Tie) (m : Nat) (q : Int) : Decimal :=
  if m = 0 then ⟨0, 0⟩ else (Interval.around m q).search tie 17

end Number
end SurveyLogic
