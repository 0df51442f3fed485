/-
# Sets of characters by script

Every character has one script; `common` is that of the characters of many scripts and `inherited`
that of marks which take up the script of what they stand on. The extended set of a script holds
also the characters of other scripts that are in use in it, and for these two scripts it leaves out
the characters whose scripts of use are known.
-/

import SurveyLogic.Pattern.CharSet
import SurveyLogic.Pattern.Property.ScriptTable

namespace SurveyLogic
namespace Pattern
namespace Script

/-- The script with a name: its short name and its code points. -/
def find? (name : String) : Option (String × Text.Ranges) := do
  let (names, code) ← scripts.find? (·.1.contains name)
  return (← names.head?, Text.Ranges.decode code)

/-- The set that the name of a script stands for. -/
def named? (name : String) : Option CharSet :=
  (find? name).map (·.2)

/-- The characters of other scripts that are in use in a script. -/
def shared (name : String) : Text.Ranges :=
  match sharedCharacters.find? (·.1 == name) with
  | some (_, code) => Text.Ranges.decode code
  | none => []

/-- The characters of some script that are in use in others. -/
def sharedByAny : CharSet :=
  CharSet.unionOf (sharedCharacters.map fun entry => Text.Ranges.decode entry.2)

/-- The extended set that the name of a script stands for. -/
def extended? (name : String) : Option CharSet := do
  let (short, ranges) ← find? name
  if short = "zyyy" || short = "zinh" then
    return CharSet.without ranges sharedByAny
  else return CharSet.union ranges (shared short)

end Script
end Pattern
end SurveyLogic
