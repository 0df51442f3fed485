/-
# Letters that case does not tell apart

Two characters are equal without regard to case if simple case folding takes both to one
representative, which may be one of the two.
-/

import SurveyLogic.Pattern.CharSet
import SurveyLogic.Pattern.FoldTable

namespace SurveyLogic
namespace Pattern

/-- The code points that a run of case folding moves, each with its representative. -/
def foldsOf (s : Text.Shift) : List (Nat × Nat) :=
  (List.range ((s.last - s.first) / s.step + 1)).map fun k =>
    let n := s.first + k * s.step
    (n, s.target n)

/-- The code points that case folding moves, each with its representative. -/
def folds : List (Nat × Nat) :=
  foldShifts.flatMap foldsOf

namespace CharSet

/-- The characters of a set and those that equal one of them without regard to case. -/
def closeCase (a : CharSet) : CharSet :=
  let new (n : Nat) := if a.covers n then none else some (n, n)
  let targets := Text.Ranges.ofList (folds.filterMap fun (n, target) =>
    if a.covers n then new target else none)
  let closed := union a targets
  let sources := folds.filterMap fun (n, target) => if closed.covers target then new n else none
  union closed (Text.Ranges.ofList sources)

/-- The characters of a set, with both cases of the letters of ASCII. -/
def closeCaseAscii (a : CharSet) : CharSet :=
  let letters (first : Char) (move : Nat → Nat) :=
    (inter a [(first.toNat, first.toNat + 25)]).map fun (m, n) => (move m, move n)
  unionOf [a, letters 'A' (· + 32), letters 'a' (· - 32)]

end CharSet

end Pattern
end SurveyLogic
