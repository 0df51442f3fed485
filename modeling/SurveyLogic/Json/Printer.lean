/-
# Compact JSON text

A document as text without any space. In a text the quote, the backslash and the controls below
`20` are escaped, the common ones by a letter and the others by four hexadecimal digits; nothing
else is. A number that no JSON text can write becomes `null`.
-/

import SurveyLogic.Json.Basic
import SurveyLogic.Number.Format

namespace SurveyLogic
namespace Json

/-- The written form of one character inside quotes. -/
def escape (c : Char) : List Char :=
  match c with
  | '"' => ['\\', '"']
  | '\\' => ['\\', '\\']
  | '\x08' => ['\\', 'b']
  | '\x0c' => ['\\', 'f']
  | '\n' => ['\\', 'n']
  | '\r' => ['\\', 'r']
  | '\t' => ['\\', 't']
  | c =>
    if c.toNat < 0x20 then
      ['\\', 'u', '0', '0', Nat.digitChar (c.toNat / 16), Nat.digitChar (c.toNat % 16)]
    else [c]

/-- A text in quotes. -/
def quote (s : String) : List Char :=
  '"' :: s.toList.flatMap escape ++ ['"']

/-- The text of a number. -/
def numberText (x : Float) : List Char :=
  ((Number.jsonText? x).getD "null").toList

/-- The parts with commas between them. -/
def commaSeparated : List (List Char) → List Char
  | [] => []
  | [part] => part
  | part :: parts => part ++ ',' :: commaSeparated parts

mutual

/-- The characters of a document. -/
def chars : Json → List Char
  | null => "null".toList
  | bool b => (if b then "true" else "false").toList
  | int n => (toString n).toList
  | float x => numberText x
  | string s => quote s
  | array items => '[' :: commaSeparated (itemChars items) ++ [']']
  | object members => '\x7b' :: commaSeparated (memberChars members) ++ ['\x7d']

/-- The characters of each item. -/
def itemChars : List Json → List (List Char)
  | [] => []
  | item :: items => chars item :: itemChars items

/-- The characters of each member: its name, a colon and its value. -/
def memberChars : List (String × Json) → List (List Char)
  | [] => []
  | (name, value) :: members => (quote name ++ ':' :: chars value) :: memberChars members

end

/-- The compact text of a document. -/
def compact (j : Json) : String :=
  String.ofList j.chars

end Json
end SurveyLogic
