/-
# Bytes of a set of characters

The characters of a set as rows of bytes, in the encoding that takes one to four bytes for a
character. A row of byte ranges stands for all ways to take a byte of each.

| code points | bytes |
| --- | --- |
| up to `7F` | the code point itself |
| up to `7FF` | `C0` and the first digit, then one digit |
| up to `FFFF` | `E0` and the first digit, then two digits |
| others | `F0` and the first digit, then three digits |

The digits are to base 64, and all but the first are written with `80` added.
-/

import SurveyLogic.Pattern.CharSet

namespace SurveyLogic
namespace Pattern

/-- Ranges of bytes, one behind the other. -/
abbrev ByteRow := List (Nat × Nat)

/-- The numbers from `a` to `b` as rows of digits to base 64, of which there are `count`. The rows
for whole blocks of numbers are put together. -/
def digitRows : (count a b : Nat) → List ByteRow
  | 0, _, _ => [[]]
  | count + 1, a, b =>
    let unit := Nat.pow 64 count
    let behind (d : Nat) (rows : List ByteRow) := rows.map ((d, d) :: ·)
    if a / unit = b / unit then behind (a / unit) (digitRows count (a % unit) (b % unit))
    else
      let (front, first) :=
        if a % unit = 0 then ([], a / unit)
        else (behind (a / unit) (digitRows count (a % unit) (unit - 1)), a / unit + 1)
      let (back, last) :=
        if b % unit = unit - 1 then ([], b / unit)
        else (behind (b / unit) (digitRows count 0 (b % unit)), b / unit - 1)
      let middle := if first ≤ last then [(first, last) :: List.replicate count (0, 63)] else []
      front ++ middle ++ back

/-- The code points whose encodings have the same form: their ends, the number of digits behind the
first, and what is added to that. -/
def encodingForms : List (Nat × Nat × Nat × Nat) := [
  (0x0, 0x7f, 0, 0x0), (0x80, 0x7ff, 1, 0xc0), (0x800, 0xd7ff, 2, 0xe0),
  (0xe000, 0xffff, 2, 0xe0), (0x10000, 0x10ffff, 3, 0xf0)]

/-- A row of digits as a row of bytes. -/
def bytesOfDigits (lead : Nat) : ByteRow → ByteRow
  | [] => []
  | (a, b) :: digits => (a + lead, b + lead) :: digits.map fun (c, d) => (c + 0x80, d + 0x80)

/-- The rows of bytes of the characters of a set, in increasing order. -/
def CharSet.byteRows (a : CharSet) : List ByteRow :=
  a.flatMap fun (first, last) =>
    encodingForms.flatMap fun (low, high, count, lead) =>
      if max first low ≤ min last high then
        (digitRows (count + 1) (max first low) (min last high)).map (bytesOfDigits lead)
      else []

/-- The bytes of a character. -/
def bytesOf (c : Char) : List Nat :=
  ((CharSet.single c).byteRows.headD []).map (·.1)

/-- Rows in groups that start with the same range. -/
def rowGroups (rows : List ByteRow) : List (List ByteRow) :=
  (rows.filter (!·.isEmpty)).splitBy fun x y => x.head? == y.head?

/-- The number of different starts of rows, of at most `length` bytes and not empty. -/
def startCount : (length : Nat) → List ByteRow → Nat
  | 0, _ => 0
  | length + 1, rows =>
    (rowGroups rows).foldl (fun n group => n + 1 + startCount length (group.map List.tail)) 0

/-- What may follow a start of rows, for each of at most `length` bytes; the ends of rows, behind
which nothing follows, are left out. -/
def futures : (length : Nat) → List ByteRow → List (List ByteRow)
  | 0, _ => []
  | length + 1, rows =>
    let groups := rowGroups rows
    if groups.isEmpty then []
    else rows :: groups.flatMap fun group => futures length (group.map List.tail)

example : CharSet.all.byteRows = [
    [(0x00, 0x7f)],
    [(0xc2, 0xdf), (0x80, 0xbf)],
    [(0xe0, 0xe0), (0xa0, 0xbf), (0x80, 0xbf)],
    [(0xe1, 0xec), (0x80, 0xbf), (0x80, 0xbf)],
    [(0xed, 0xed), (0x80, 0x9f), (0x80, 0xbf)],
    [(0xee, 0xef), (0x80, 0xbf), (0x80, 0xbf)],
    [(0xf0, 0xf0), (0x90, 0xbf), (0x80, 0xbf), (0x80, 0xbf)],
    [(0xf1, 0xf3), (0x80, 0xbf), (0x80, 0xbf), (0x80, 0xbf)],
    [(0xf4, 0xf4), (0x80, 0x8f), (0x80, 0xbf), (0x80, 0xbf)]] := by
  decide +kernel

end Pattern
end SurveyLogic
