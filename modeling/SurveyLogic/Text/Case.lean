/-
# Upper and lower case

The full case mappings of Unicode, independent of language. One letter looks at its neighbours: a
capital sigma that ends a word becomes `ς`, any other `σ`. A sigma ends a word if a cased letter
comes before it and none after it, letters that the property `Case_Ignorable` names not counted.
-/

import SurveyLogic.Text.CaseTable

namespace SurveyLogic
namespace Text

/-- The image of a code point under a case mapping: moved by the first run that moves it, or else
replaced by the sequence listed for it, or else unchanged. -/
def mapCase (shifts : List Shift) (expansions : List (Nat × List Nat)) (c : Char) : List Char :=
  match shifts.find? (·.moves c.toNat) with
  | some shift => [Char.ofNat (shift.target c.toNat)]
  | none =>
    match expansions.find? (·.1 == c.toNat) with
    | some (_, images) => images.map Char.ofNat
    | none => [c]

/-- The lower case of a character, wherever it stands. -/
def lowerChar (c : Char) : List Char :=
  if c.toNat < 0x80 then [c.toLower] else mapCase lowerShifts lowerExpansions c

/-- The upper case of a character. -/
def upperChar (c : Char) : List Char :=
  if c.toNat < 0x80 then [c.toUpper] else mapCase upperShifts upperExpansions c

/-- Whether the next letter, past those that case ignores, has case. -/
def facesCased (cs : List Char) : Bool :=
  match cs.dropWhile (caseIgnorableRanges.covers ·.toNat) with
  | [] => false
  | c :: _ => casedRanges.covers c.toNat

/-- The lower case of a text; `before` holds the characters already passed, nearest first. -/
def lowerFrom (before : List Char) : List Char → List Char
  | [] => []
  | c :: cs =>
    let image :=
      if c = 'Σ' then [if facesCased before && !facesCased cs then 'ς' else 'σ'] else lowerChar c
    image ++ lowerFrom (c :: before) cs

/-- The lower case of a text. -/
def lower (s : String) : String :=
  String.ofList (lowerFrom [] s.toList)

/-- The upper case of a text. -/
def upper (s : String) : String :=
  String.ofList (s.toList.flatMap upperChar)

end Text
end SurveyLogic
