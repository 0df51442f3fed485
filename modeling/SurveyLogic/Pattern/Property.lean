/-
# Properties of characters by name

Patterns name sets of characters by a property of theirs: alone, as `Lu`, `Greek` or `Alphabetic`,
or behind the kind of property, as `gc=Lu` or `scx=Greek`. All of it follows version 16 of the
Unicode standard. Names are compared loosely: case, blanks, hyphens, underscores and what is not
ASCII do not count, nor does `is` in front.

| kind | values |
| --- | --- |
| `gc`, `generalcategory` | categories and groups of them |
| `sc`, `script` | scripts |
| `scx`, `scriptextensions` | scripts with the characters they share |
| `age` | versions, each with those before it |
| `gcb`, `wb`, `sb` | boundaries of clusters, words and sentences |
-/

import SurveyLogic.Pattern.Property.AgeTable
import SurveyLogic.Pattern.Property.Boundary

namespace SurveyLogic
namespace Pattern

/-- A name without what does not count. The abbreviation `isc` is left whole. -/
def looseName (name : List Char) : String :=
  let keep (cs : List Char) :=
    (cs.filter fun c => c.toNat < 0x80 && c ≠ ' ' && c ≠ '_' && c ≠ '-').map Char.toLower
  let cs := name.map Char.toLower
  if ['i', 's'].isPrefixOf cs then
    let rest := keep (name.drop 2)
    if rest = ['c'] then "isc" else String.ofList rest
  else String.ofList (keep name)

namespace Property

/-- The characters assigned in a version or before it. -/
def age? (name : String) : Option CharSet :=
  if versions.any (·.1.contains name) then
    let newer := (versions.reverse.takeWhile fun entry => !entry.1.contains name).length
    some (CharSet.unionOf ((versions.take (versions.length - newer)).map fun entry =>
      Text.Ranges.decode entry.2))
  else none

/-- The set that a bare name stands for: a property, or else a category, or else a script. -/
def bare? (name : List Char) : Option CharSet :=
  let name := looseName name
  binary? name <|> Category.named? name <|> Script.named? name

/-- The set that a name behind the kind of property stands for. -/
def ofKind? (kind name : List Char) : Option CharSet :=
  let name := looseName name
  match looseName kind with
  | "gc" | "generalcategory" => Category.named? name
  | "sc" | "script" => Script.named? name
  | "scx" | "scriptextensions" => Script.extended? name
  | "age" => age? name
  | "gcb" | "graphemeclusterbreak" => CharSet.named? Boundary.cluster name
  | "wb" | "wordbreak" => CharSet.named? Boundary.word name
  | "sb" | "sentencebreak" => CharSet.named? Boundary.sentence name
  | _ => none

end Property

end Pattern
end SurveyLogic
