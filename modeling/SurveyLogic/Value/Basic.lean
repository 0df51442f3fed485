/-
# Values

What an answer, a variable or the result of an expression can be. A missing answer and an explicit
`null` are the same value. An object is a map from names to values in increasing order of the names.
-/

import SurveyLogic.Bindings
import SurveyLogic.Json.Basic
import SurveyLogic.Text.Blank

namespace SurveyLogic

/-- A value. -/
inductive Value where
  | null
  | bool (b : Bool)
  | number (x : Float)
  | string (s : String)
  | array (items : List Value)
  | object (fields : List (String × Value))
  deriving Inhabited

namespace Value

mutual

/-- The same value, numbers being compared as numbers: `0` and `-0` are the same, a NaN differs from
itself. -/
def same : Value → Value → Bool
  | null, null => true
  | bool a, bool b => a == b
  | number x, number y => x == y
  | string s, string t => s == t
  | array as, array bs => sameAll as bs
  | object fs, object gs => sameFields fs gs
  | _, _ => false

/-- Two lists of the same values. -/
def sameAll : List Value → List Value → Bool
  | [], [] => true
  | a :: as, b :: bs => same a b && sameAll as bs
  | _, _ => false

/-- Two lists of the same fields. -/
def sameFields : List (String × Value) → List (String × Value) → Bool
  | [], [] => true
  | (f, a) :: as, (g, b) :: bs => f == g && same a b && sameFields as bs
  | _, _ => false

end

/-- Whether a list holds a value. -/
def isIn (v : Value) (items : List Value) : Bool :=
  items.any (same · v)

/-- `null`, the empty text and the empty list; not `0`, `false` or any object. -/
def isEmpty : Value → Bool
  | null => true
  | string s => s.isEmpty
  | array items => items.isEmpty
  | _ => false

/-- Nothing that counts as an answer: empty, or a text of blanks, or an object without fields. -/
def isBlank : Value → Bool
  | string s => Text.isBlankText s
  | object fields => fields.isEmpty
  | v => v.isEmpty

/-- Whether a value counts as true: all but `null`, `false`, zero, NaN and the empty text. -/
def truthy : Value → Bool
  | null => false
  | bool b => b
  | number x => x != 0.0 && !x.isNaN
  | string s => !s.isEmpty
  | array _ => true
  | object _ => true

/-- The text, if the value is one. -/
def toText? : Value → Option String
  | string s => some s
  | _ => none

/-- The items, if the value is a list. -/
def toList? : Value → Option (List Value)
  | array items => some items
  | _ => none

mutual

/-- The value as a document, `number` being what makes one of a number. -/
def toJson (v : Value) (number : Float → Json := .float) : Json :=
  match v with
  | null => .null
  | bool b => .bool b
  | .number x => number x
  | string s => .string s
  | array items => .array (toJsonAll items number)
  | object fields => .object (toJsonFields fields number)

/-- Each value of a list as a document. -/
def toJsonAll (items : List Value) (number : Float → Json) : List Json :=
  match items with
  | [] => []
  | v :: vs => toJson v number :: toJsonAll vs number

/-- Each field as a member. -/
def toJsonFields (fields : List (String × Value)) (number : Float → Json) : List (String × Json) :=
  match fields with
  | [] => []
  | (name, v) :: fields => (name, toJson v number) :: toJsonFields fields number

end

mutual

/-- The value that a document describes. -/
def ofJson : Json → Value
  | .null => null
  | .bool b => bool b
  | .int n => number (Number.ofInt n)
  | .float x => number x
  | .string s => string s
  | .array items => array (ofJsonAll items)
  | .object members => object (Bindings.ofList (ofJsonMembers members))

/-- The value of each document of a list. -/
def ofJsonAll : List Json → List Value
  | [] => []
  | j :: js => ofJson j :: ofJsonAll js

/-- The field of each member. -/
def ofJsonMembers : List (String × Json) → List (String × Value)
  | [] => []
  | (name, j) :: members => (name, ofJson j) :: ofJsonMembers members

end

end Value
end SurveyLogic
