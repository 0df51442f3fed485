/-
# Reading decimals

```
number   ::= [+-] ( digits [ . [digits] ] | . digits ) [ exponent ]
exponent ::= (e | E) [+-] digits
```

The digits are those of ASCII. The value is the double nearest to the number written, of two
equally near ones the one with an even mantissa; a number too large for any double reads as an
infinity.
-/

namespace SurveyLogic
namespace Number

/-- The value of a row of decimal digits. -/
def digitsValue (ds : List Char) : Nat :=
  ds.foldl (fun n c => 10 * n + (c.toNat - '0'.toNat)) 0

/-- The value of a hexadecimal digit. -/
def hexDigit? (c : Char) : Option Nat :=
  if c.isDigit then some (c.toNat - '0'.toNat)
  else if 'a' ≤ c && c ≤ 'f' then some (c.toNat - 'a'.toNat + 10)
  else if 'A' ≤ c && c ≤ 'F' then some (c.toNat - 'A'.toNat + 10)
  else none

/-- The number that a row of hexadecimal digits writes. -/
def ofHex? (ds : List Char) : Option Nat := do
  let values ← ds.mapM hexDigit?
  if values.isEmpty then none else some (values.foldl (fun n d => 16 * n + d) 0)

/-- The position or count that a text writes: digits, perhaps after a plus sign, below `2^64`. -/
def index? (cs : List Char) : Option Nat :=
  let digits :=
    match cs with
    | '+' :: cs => cs
    | cs => cs
  let n := digitsValue digits
  if !digits.isEmpty && digits.all (·.isDigit) && n < Nat.pow 2 64 then some n else none

/-- The double nearest to `m · 10^e`. Beyond the range of doubles on either side the answer does
not depend on the digits, and the powers of ten are not computed. -/
def ofDecimal (m : Nat) (e : Int) : Float :=
  let magnitude := e + (Nat.toDigits 10 m).length
  if m = 0 || magnitude < -330 then 0.0
  else if 310 < magnitude then 1.0 / 0.0
  else Float.ofScientific m (e < 0) e.natAbs

/-- An optional sign: whether it is a minus, and what follows. -/
def takeSign : List Char → Bool × List Char
  | '-' :: cs => (true, cs)
  | '+' :: cs => (false, cs)
  | cs => (false, cs)

/-- The exponent after the digits: zero if nothing follows, none if something else does. -/
def readExponent? : List Char → Option Int
  | [] => some 0
  | c :: cs =>
    let (negative, ds) := takeSign cs
    if (c = 'e' || c = 'E') && !ds.isEmpty && ds.all (·.isDigit) then
      some (if negative then -(digitsValue ds : Int) else digitsValue ds)
    else none

/-- The digits behind the point, if there is one, and what follows. -/
def takeFraction : List Char → List Char × List Char
  | '.' :: cs => cs.span (·.isDigit)
  | cs => ([], cs)

/-- The double that a text writes, if it has the form above. -/
def read? (cs : List Char) : Option Float :=
  let (negative, cs) := takeSign cs
  let (whole, cs) := cs.span (·.isDigit)
  let (fraction, cs) := takeFraction cs
  if whole.isEmpty && fraction.isEmpty then none
  else (readExponent? cs).map fun e =>
    let x := ofDecimal (digitsValue (whole ++ fraction)) (e - fraction.length)
    if negative then -x else x

end Number
end SurveyLogic
