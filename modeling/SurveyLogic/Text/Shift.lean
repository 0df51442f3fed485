/-
# Runs of characters that case moves

Most case mappings move a run of characters by a constant distance: all of the run, as from `A` to
`a`, or every second character of it, where capitals and small letters take turns.
-/

namespace SurveyLogic
namespace Text

/-- Every `step`-th code point from `first` to `last` moves by `distance`. -/
structure Shift where
  first : Nat
  last : Nat
  step : Nat
  distance : Int

/-- Whether a run moves the code point `n`. -/
def Shift.moves (s : Shift) (n : Nat) : Bool :=
  s.first ≤ n && n ≤ s.last && (n - s.first) % s.step == 0

/-- Where a run takes a code point that it moves. -/
def Shift.target (s : Shift) (n : Nat) : Nat :=
  (n + s.distance).toNat

end Text
end SurveyLogic
