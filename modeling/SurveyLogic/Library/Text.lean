/-
# Texts

| function | value |
| --- | --- |
| `lower(s)`, `upper(s)`, `trim(s)` | other case; without blanks at the ends |
| `length(v)` | the number of characters, or of the items of a list |
| `substring(s, a, b)` | the characters between two positions, in either order |
| `concat(…)` | all arguments as one text |
| `replace(s, p, t)` | every match of a pattern replaced by a template |
| `indexof(v, w)` | the position of a text in a text or of an item in a list; `-1` for none |

Positions count characters from zero; beyond an end they count as that end.
-/

import SurveyLogic.Library.Arguments
import SurveyLogic.Pattern.Replacement
import SurveyLogic.Text.Blank
import SurveyLogic.Text.Case
import SurveyLogic.Text.Search

namespace SurveyLogic
namespace Library

/-- A number as a position in something of a length: its whole part within the bounds. -/
def position (length : Nat) (x : Float) : Nat :=
  match Number.toBinary? x with
  | some b => if b.negative then 0 else min b.wholePart length
  | none => if x.isNaN || Number.signBit x then 0 else length

/-- The characters from one position to another, the lower one first. -/
def between (cs : List Char) (a b : Nat) : List Char :=
  (cs.take (max a b)).drop (min a b)

/-- The characters between two positions; without a second one up to the end. -/
def substring (s : String) (a : Float) (b : Value) : String :=
  let cs := s.toList
  let stop :=
    match b with
    | .null => cs.length
    | b => position cs.length b.toNumber
  String.ofList (between cs (position cs.length a) stop)

/-- The number of items of a list, or else of characters. -/
def length : Value → Nat
  | .array items => items.length
  | v => v.toText.length

/-- The position of a value in a list, or of a text in a text. -/
def indexOf? (hay v : Value) : Option Nat :=
  match hay with
  | .array items => items.findIdx? (Value.same · v)
  | hay => Text.find? v.toText.toList hay.toText.toList

/-- A text with every match of a pattern replaced. -/
def replace (s pattern template : String) : Except EvalError Value :=
  match Pattern.Program.ofText pattern with
  | .ok p => .ok (.string (p.replaceAll s template))
  | .error problem => .error (.pattern problem)

/-- The functions of this family. -/
def texts : List (String × Function) := [
  ("lower", plain fun args => .string (Text.lower (text args 0))),
  ("upper", plain fun args => .string (Text.upper (text args 0))),
  ("trim", plain fun args => .string (Text.trim (text args 0))),
  ("length", plain fun args => whole (length (arg args 0))),
  ("substring", plain fun args => .string (substring (text args 0) (number args 1) (arg args 2))),
  ("concat", plain fun args => .string (String.join (args.map Value.toText))),
  ("replace", fun args _ => replace (text args 0) (text args 1) (text args 2)),
  ("indexof", plain fun args =>
    match indexOf? (arg args 0) (arg args 1) with
    | some i => whole i
    | none => whole (-1))]

end Library
end SurveyLogic
