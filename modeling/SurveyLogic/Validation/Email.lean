/-
# Email addresses

An address is read character by character. It has no blank, a part in front of a single `@`, and
behind it a domain with a point that is neither its first nor its last character.
-/

import SurveyLogic.Text.Blank

namespace SurveyLogic
namespace Validation

/-- How much of an address is read. -/
inductive EmailState where
  | start
  /-- Inside the part before the `@`. -/
  | user
  /-- Right behind the `@`. -/
  | at
  /-- Inside the domain. -/
  | domain
  /-- Behind the first point that counts. -/
  | point
  /-- Behind such a point and further characters. -/
  | whole
  /-- This is no address. -/
  | stuck
  deriving DecidableEq, Repr

/-- The state after a further character. -/
def EmailState.next (s : EmailState) (c : Char) : EmailState :=
  if Text.isBlank c then stuck
  else if c = '@' then
    match s with
    | user => «at»
    | _ => stuck
  else
    match s with
    | start => user
    | user => user
    | «at» => domain
    | domain => if c = '.' then point else domain
    | point => whole
    | whole => whole
    | stuck => stuck

/-- Whether a text is an address. -/
def isEmail (s : String) : Bool :=
  s.toList.foldl EmailState.next .start == .whole

example : isEmail "ann@mail.example" ∧ isEmail "ann@.mail.example" ∧ ¬ isEmail "ann@mail." := by
  decide +kernel

end Validation
end SurveyLogic
