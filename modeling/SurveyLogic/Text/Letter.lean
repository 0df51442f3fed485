/-
# Letters and numerals

The characters of words: letters are those with the Unicode property `Alphabetic`, numerals those
of the categories `Nd`, `Nl` and `No`. ASCII is decided directly and all else by table.
-/

import SurveyLogic.Text.LetterTable

namespace SurveyLogic
namespace Text

/-- The property `Alphabetic`. -/
def isAlphabetic (c : Char) : Bool :=
  if c.toNat < 0x80 then c.isAlpha else alphabeticRanges.covers c.toNat

/-- The property `Numeric`: a decimal digit, a letter numeral or another number sign. -/
def isNumeric (c : Char) : Bool :=
  if c.toNat < 0x80 then c.isDigit else numericRanges.covers c.toNat

/-- A letter or a numeral. -/
def isAlphanumeric (c : Char) : Bool :=
  isAlphabetic c || isNumeric c

end Text
end SurveyLogic
