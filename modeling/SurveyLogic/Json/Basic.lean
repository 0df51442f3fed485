/-
# JSON documents

A document keeps the difference between a number spelled as an integer and one spelled with a point
or an exponent, for counts must be spelled as integers. Objects list their members in the order
written.
-/

import SurveyLogic.Number.Binary

namespace SurveyLogic

/-- A JSON document. -/
inductive Json where
  | null
  | bool (b : Bool)
  | int (n : Int)
  | float (x : Float)
  | string (s : String)
  | array (items : List Json)
  | object (members : List (String × Json))
  deriving Inhabited

namespace Json

/-- The member of an object with a given name, if the document is an object that has one. -/
def member? (name : String) : Json → Option Json
  | object members => members.lookup name
  | _ => none

/-- A truth value. -/
def toBool? : Json → Option Bool
  | bool b => some b
  | _ => none

/-- A text. -/
def toText? : Json → Option String
  | string s => some s
  | _ => none

/-- A number of either spelling, as the nearest double. -/
def toFloat? : Json → Option Float
  | int n => some (Number.ofInt n)
  | float x => some x
  | _ => none

/-- A count: an integer that is not negative. -/
def toNat? : Json → Option Nat
  | int n => n.toNat?
  | _ => none

/-- A list with every item read by `item?`. -/
def toList? (item? : Json → Option α) : Json → Option (List α)
  | array items => items.mapM item?
  | _ => none

/-- A number, and `null` for one that is not finite. -/
def ofFloat (x : Float) : Json :=
  if (Number.toBinary? x).isSome then float x else null

/-- A finite double is written as itself. -/
theorem ofFloat_of_isSome {x : Float} (h : (Number.toBinary? x).isSome) : ofFloat x = float x :=
  if_pos h

/-- `null` for an absent value. -/
def ofOption (write : α → Json) : Option α → Json
  | some a => write a
  | none => null

end Json
end SurveyLogic
