/-
# Sets of characters by general category

The sets that the names of categories and of groups of categories stand for. The surrogates `Cs`
are no characters, so their name stands for no set.
-/

import SurveyLogic.Pattern.CharSet
import SurveyLogic.Pattern.Property.CategoryTable

namespace SurveyLogic
namespace Pattern

namespace Category

/-- The characters of any of the categories. -/
def setOf (ks : List Category) : CharSet :=
  CharSet.unionOf (ks.map ranges)

/-- The characters that no category has. -/
def unassigned : CharSet :=
  CharSet.complement (setOf all)

/-- The surrogates. They belong to the group `C` and fill a gap between two ranges of it. -/
def surrogates : CharSet := [(0xd800, 0xdfff)]

/-- The names of groups of categories with the sets that they stand for. -/
def groups : List (List String × CharSet) := [
  (["any"], CharSet.all),
  (["assigned"], CharSet.complement unassigned),
  (["ascii"], CharSet.ascii),
  (["c", "other"], CharSet.unionOf [setOf others, unassigned, surrogates]),
  (["cn", "unassigned"], unassigned),
  (["l", "letter"], setOf letters),
  (["lc", "casedletter"], setOf casedLetters),
  (["m", "mark", "combiningmark"], setOf marks),
  (["n", "number"], setOf numbers),
  (["p", "punctuation", "punct"], setOf punctuation),
  (["s", "symbol"], setOf symbols),
  (["z", "separator"], setOf separators)]

/-- The set that a name of a category or of a group stands for. -/
def named? (name : String) : Option CharSet :=
  match all.find? (·.names.contains name) with
  | some k => some k.ranges
  | none => CharSet.named? groups name

end Category

end Pattern
end SurveyLogic
