/-
# Sets of characters

A set of characters holds the ranges of their code points. Surrogates are code points and no
characters, so the character behind `D7FF` is `E000`, and a range may run over them.
-/

import SurveyLogic.Text.Range

namespace SurveyLogic
namespace Pattern

/-- A set of characters. -/
abbrev CharSet := Text.Ranges

namespace CharSet

/-- Whether a set holds a character. -/
def has (a : CharSet) (c : Char) : Bool := a.covers c.toNat

/-- Every character. -/
def all : CharSet := [(0, 0x10ffff)]

/-- The characters of ASCII. -/
def ascii : CharSet := [(0, 0x7f)]

/-- The characters from one to another. -/
def between (first last : Char) : CharSet := [(first.toNat, last.toNat)]

/-- One character. -/
def single (c : Char) : CharSet := between c c

/-- Some characters. -/
def ofChars (cs : List Char) : CharSet :=
  Text.Ranges.ofList (cs.map fun c => (c.toNat, c.toNat))

/-- The characters in either set. -/
def union (a b : CharSet) : CharSet := Text.Ranges.union a b

/-- The characters in any of the sets. -/
def unionOf (sets : List CharSet) : CharSet := sets.foldr union []

/-- The characters in both sets. -/
def inter (a b : CharSet) : CharSet := Text.Ranges.inter a b

/-- The character behind a given one, by code point. -/
def following (n : Nat) : Nat := if n = 0xd7ff then 0xe000 else n + 1

/-- The character before a given one, by code point. -/
def preceding (n : Nat) : Nat := if n = 0xe000 then 0xd7ff else n - 1

/-- The gaps from `start` on, each from the character behind a range to the one before the next
range. If only surrogates lie between two ranges, the ends of their gap have changed places. -/
def gapsFrom (start : Nat) : CharSet → List (Nat × Nat)
  | [] => if start ≤ 0x10ffff then [(start, 0x10ffff)] else []
  | (first, last) :: rest =>
    if first = 0 then gapsFrom (following last) rest
    else (start, preceding first) :: gapsFrom (following last) rest

/-- The characters in the first set and not in the second. -/
def without (a b : CharSet) : CharSet :=
  inter a ((gapsFrom 0 b).filter fun gap => gap.1 ≤ gap.2)

/-- The characters in one of the sets and not in the other. -/
def symmDiff (a b : CharSet) : CharSet := without (union a b) (inter a b)

/-- The characters not in a set. Two characters with nothing but surrogates between them are taken
in with their gap. -/
def complement (a : CharSet) : CharSet :=
  Text.Ranges.joined ((gapsFrom 0 a).map fun gap => (min gap.1 gap.2, max gap.1 gap.2))

/-- The set that a table lists for a name. -/
def named? (table : List (List String × CharSet)) (name : String) : Option CharSet :=
  (table.find? (·.1.contains name)).map (·.2)

/-- The only character of a set. -/
def only? (a : CharSet) : Option Char :=
  match a with
  | [(first, last)] => if first = last then some (Char.ofNat first) else none
  | _ => none

example : complement (between 'b' 'y') = [(0, 97), (122, 0x10ffff)] ∧
    without (between 'a' 'z') (ofChars ['c', 'a']) = [(98, 98), (100, 122)] := by
  decide +kernel

end CharSet

end Pattern
end SurveyLogic
