/-
# Records in documents

A record is written as an object with a member for each field. It may also be written as the list of
its fields in the order of declaration, of which the last ones may be missing. Members that are no
fields are ignored.
-/

import SurveyLogic.Json.Basic

namespace SurveyLogic

/-- The fields of a record as far as they are given. -/
abbrev Record := List (String × Json)

namespace Json

/-- The fields with the given names, in the order of declaration. -/
def record? (names : List String) : Json → Option Record
  | object members => some members
  | array items => if items.length ≤ names.length then some (names.zip items) else none
  | _ => none

end Json

namespace Record

/-- A field that stands for `default` if it is missing. -/
def field? (r : Record) (name : String) (read : Json → Option α) (default : α) : Option α :=
  match r.lookup name with
  | none => some default
  | some j => read j

/-- A field that must be there. -/
def needed? (r : Record) (name : String) (read : Json → Option α) : Option α :=
  r.lookup name >>= read

/-- A field that may be missing or `null`. -/
def optional? (r : Record) (name : String) (read : Json → Option α) : Option (Option α) :=
  match r.lookup name with
  | none => some none
  | some .null => some none
  | some j => (read j).map some

end Record
end SurveyLogic
