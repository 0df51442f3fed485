/-
# Ranges of code points

A set of characters given by increasing closed ranges of code points, as the tables of character
properties list them. Large tables are coded as text:

```
ranges ::= range ( space range )*
range  ::= gap [ '+' more ]
```

`gap` counts the code points left out since the last range, and `more` those of the range after its
first. Both are numbers to base 36 with lower-case letters. The space may hold line breaks.
-/

namespace SurveyLogic
namespace Text

/-- Closed ranges of code points in increasing order. -/
abbrev Ranges := List (Nat × Nat)

namespace Ranges

/-- Whether a code point lies in one of the ranges; no range beyond it is looked at. -/
def covers : Ranges → Nat → Bool
  | [], _ => false
  | (first, last) :: rest, n => first ≤ n && (n ≤ last || covers rest n)

/-- A range from `first` to `last` and those behind it; ranges that overlap or touch become one. -/
def joinFrom (first last : Nat) : Ranges → Ranges
  | [] => [(first, last)]
  | (a, b) :: rest =>
    if a ≤ last + 1 then joinFrom first (max last b) rest else (first, last) :: joinFrom a b rest

/-- The same code points in ranges with gaps between them. -/
def joined : Ranges → Ranges
  | [] => []
  | (first, last) :: rest => joinFrom first last rest

/-- The order of ranges by where they start. -/
def startsBefore (x y : Nat × Nat) : Bool := x.1 ≤ y.1

/-- A range put among others before the first that does not start before it; `rest` goes on with
what follows from there. -/
def place (x : Nat × Nat) (rest : Ranges → Ranges) : Ranges → Ranges
  | [] => x :: rest []
  | y :: ys => if startsBefore x y then x :: rest (y :: ys) else y :: place x rest ys

/-- The ranges of two sets in one order. -/
def merged : Ranges → Ranges → Ranges
  | [] => id
  | x :: xs => place x (merged xs)

/-- The code points in either set. -/
def union (xs ys : Ranges) : Ranges :=
  joined (merged xs ys)

example : union [(1, 3), (8, 8)] [(4, 4), (20, 30)] = [(1, 4), (8, 8), (20, 30)] := by
  decide +kernel

/-- The code points in any of the ranges of a list in whatever order. -/
def ofList (ranges : List (Nat × Nat)) : Ranges :=
  ranges.foldr (fun x xs => union [x] xs) []

/-- The code points in both of two ranges. -/
def overlap? (x y : Nat × Nat) : Option (Nat × Nat) :=
  let first := max x.1 y.1
  let last := min x.2 y.2
  if first ≤ last then some (first, last) else none

/-- The code points in both sets. -/
def inter : Ranges → Ranges → Ranges
  | [], _ => []
  | x :: xs, ys =>
    (ys.takeWhile (·.1 ≤ x.2)).filterMap (overlap? x) ++ inter xs (ys.dropWhile (·.2 ≤ x.2))

/-- The value of a digit to base 36. -/
def digitValue (c : Char) : Nat :=
  if c.isDigit then c.toNat - '0'.toNat else c.toNat - 'a'.toNat + 10

/-- The number that digits to base 36 write. -/
def numberOfDigits (cs : List Char) : Nat :=
  cs.foldl (fun n c => 36 * n + digitValue c) 0

/-- The ranges of a coded table. -/
def decode (code : String) : Ranges :=
  let step (state : Nat × Ranges) (range : List Char) : Nat × Ranges :=
    let gap := range.takeWhile (· ≠ '+')
    let first := state.1 + numberOfDigits gap
    let last := first + numberOfDigits (range.drop (gap.length + 1))
    (last + 1, (first, last) :: state.2)
  let codes := (code.toList.splitOnP Char.isWhitespace).filter fun range => !range.isEmpty
  (codes.foldl step (0, [])).2.reverse

example : decode "1+2 0 3" = [(1, 3), (4, 4), (8, 8)] := by
  decide +kernel

end Ranges

end Text
end SurveyLogic
