/-
# Quoted text

Text in quotes for a reader: quotes, backslashes and common controls get a backslash, and what does
not print on its own is written as a code point in hexadecimal digits. A mark that joins the
character before it does not print on its own.
-/

import SurveyLogic.Text.SilentTable

namespace SurveyLogic
namespace Text

/-- Whether a character prints on its own. -/
def printsAlone (c : Char) : Bool :=
  !silentRanges.covers c.toNat

/-- The written form of a character between quotes. -/
def quotedChar (c : Char) : List Char :=
  match c with
  | '\x00' => ['\\', '0']
  | '\t' => ['\\', 't']
  | '\n' => ['\\', 'n']
  | '\r' => ['\\', 'r']
  | '"' => ['\\', '"']
  | '\\' => ['\\', '\\']
  | c =>
    if printsAlone c then [c]
    else '\\' :: 'u' :: '\x7b' :: Nat.toDigits 16 c.toNat ++ ['\x7d']

/-- A text in quotes. -/
def quoted (s : String) : String :=
  String.ofList ('"' :: s.toList.flatMap quotedChar ++ ['"'])

end Text
end SurveyLogic
