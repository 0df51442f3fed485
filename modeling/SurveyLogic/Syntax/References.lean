/-
# References in a source text

The names in braces, found without reading the expression: the text need not be one. A reference is
a brace, at least one character that does not close it, and the closing brace. Its name is the part
of it before the first dot or bracket, without blanks at the ends.
-/

import SurveyLogic.Text.Blank

namespace SurveyLogic
namespace References

/-- The insides of the references from left to right. Where no reference starts at a brace, the
search goes on behind it. -/
def insides (cs : List Char) : List (List Char) :=
  match cs with
  | [] => []
  | c :: cs =>
    let inside := cs.takeWhile (· ≠ '\x7d')
    if c = '\x7b' && !inside.isEmpty && inside.length < cs.length then
      inside :: insides (cs.drop (inside.length + 1))
    else insides cs
termination_by cs.length
decreasing_by
  · simp only [List.length_drop, List.length_cons]
    omega
  · simp

/-- The name that the inside of a reference refers to. -/
def baseName (inside : List Char) : String :=
  let path := Text.trimRight (Text.trimLeft inside)
  Text.trim (String.ofList (path.takeWhile fun c => c ≠ '.' && c ≠ '['))

/-- The names referred to, each once, in the order of their first references. -/
def names (source : String) : List String :=
  (((insides source.toList).map baseName).filter (· ≠ "")).eraseDups

end References
end SurveyLogic
