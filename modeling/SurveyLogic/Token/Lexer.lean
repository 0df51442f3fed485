/-
# From text to tokens

Blank characters separate tokens and are dropped. Every other token is the longest one that its
first characters start, tried in this order:

| starts with | token |
| --- | --- |
| `{` | reference: all up to the next `}`, trimmed |
| `'` or `"` | string up to the same quote; a backslash takes the next character as it is |
| a digit, or `-` and a digit where no operand ends | number: digits and points |
| `( ) [ ] , .` | punctuation |
| `<> <= >= != == = < >` | comparison |
| `+ - * / % ^` | operator |
| a letter or `_` | word of letters, numerals and `_` |

A word may be reserved whatever its case. Any other word is a function if `(` follows at once, and
a reference otherwise. Positions count characters from zero.
-/

import SurveyLogic.Number.Read
import SurveyLogic.Text.Blank
import SurveyLogic.Text.Case
import SurveyLogic.Text.Letter
import SurveyLogic.Token.Basic

namespace SurveyLogic

/-- Why a text does not split into tokens. -/
inductive LexFault where
  | unclosedVariable
  | unclosedString
  | invalidNumber (text : String)
  | unexpectedChar (c : Char)
  deriving DecidableEq, Repr

/-- A fault and the position of the token it is in. -/
structure LexError where
  fault : LexFault
  position : Nat
  deriving DecidableEq, Repr

/-- The wording of a fault. -/
def LexFault.message : LexFault → String
  | unclosedVariable => "unclosed variable reference"
  | unclosedString => "unclosed string"
  | invalidNumber text => "invalid number '" ++ text ++ "'"
  | unexpectedChar c => "unexpected character '" ++ c.toString ++ "'"

/-- The wording of an error. -/
def LexError.message (e : LexError) : String :=
  e.fault.message ++ " at position " ++ toString e.position

namespace Token

/-- A token without its position, and how many characters it takes after its first. -/
structure Lexeme where
  kind : Kind
  payload : Payload
  more : Nat

/-- The rest of a reference, `cs` being what follows the opening brace. -/
def Lexeme.reference? (cs : List Char) : Option Lexeme :=
  let name := cs.takeWhile (· ≠ '\x7d')
  if name.length < cs.length then
    some ⟨.reference, .text (Text.trim (String.ofList name)), name.length + 1⟩
  else none

/-- The content of a string and how many characters it takes with its closing quote. -/
def quotedContent? (quote : Char) : List Char → Option (List Char × Nat)
  | [] => none
  | ['\\'] => none
  | '\\' :: c :: cs => (quotedContent? quote cs).map fun (content, n) => (c :: content, n + 2)
  | c :: cs =>
    if c = quote then some ([], 1)
    else (quotedContent? quote cs).map fun (content, n) => (c :: content, n + 1)

/-- The rest of a string, `cs` being what follows the opening quote. -/
def Lexeme.string? (quote : Char) (cs : List Char) : Option Lexeme :=
  (quotedContent? quote cs).map fun (content, n) =>
    ⟨.string, .text (String.ofList content), n⟩

/-- Whether a number starts here: at a digit, or at a minus sign in front of a digit unless an
operand ends just before it. -/
def startsNumber (last : Option Kind) (c : Char) (cs : List Char) : Bool :=
  c.isDigit || (c = '-' && cs.head?.any (·.isDigit) && !last.any (·.endsOperand))

/-- The characters of a number after its first. -/
def numberTail (cs : List Char) : List Char :=
  cs.takeWhile fun c => c.isDigit || c = '.'

/-- The kind of a punctuation sign. -/
def punctuation? : Char → Option Kind
  | '(' => some .leftParen
  | ')' => some .rightParen
  | '[' => some .leftBracket
  | ']' => some .rightBracket
  | ',' => some .comma
  | '.' => some .dot
  | _ => none

/-- The comparison signs, those of two characters first. -/
def comparisonSigns : List String :=
  ["<>", "<=", ">=", "!=", "==", "=", "<", ">"]

/-- The longest comparison sign at the front of `cs`. -/
def comparisonSign? (cs : List Char) : Option String :=
  comparisonSigns.find? (·.toList.isPrefixOf cs)

/-- The signs of arithmetic. -/
def operatorSigns : List Char :=
  ['+', '-', '*', '/', '%', '^']

/-- Whether a word may start with `c`. -/
def startsWord (c : Char) : Bool :=
  Text.isAlphabetic c || c = '_'

/-- Whether a word may go on with `c`. -/
def continuesWord (c : Char) : Bool :=
  Text.isAlphanumeric c || c = '_'

/-- The meaning of a word in lower case if it is reserved. -/
def reserved? (lower : String) : Option (Kind × Payload) :=
  match lower with
  | "true" => some (.boolean, .bool true)
  | "false" => some (.boolean, .bool false)
  | "null" | "undefined" => some (.boolean, .null)
  | "and" | "or" | "not" => some (.logical, .text lower)
  | "contains" | "notcontains" | "anyof" | "allof" | "empty" | "notempty" =>
    some (.comparison, .text lower)
  | _ => none

/-- The kind and payload of a word, `next` being the character behind it. -/
def ofWord (word : String) (next : Option Char) : Kind × Payload :=
  (reserved? (Text.lower word)).getD
    (if next = some '(' then .function else .reference, .text word)

/-- The token that starts with `c`, a character that is not blank. `last` is the kind of the token
before it and `cs` the text behind `c`. -/
def lexeme (last : Option Kind) (c : Char) (cs : List Char) : Except LexFault Lexeme :=
  if c = '\x7b' then
    (Lexeme.reference? cs).elim (.error .unclosedVariable) .ok
  else if c = '\'' || c = '"' then
    (Lexeme.string? c cs).elim (.error .unclosedString) .ok
  else if startsNumber last c cs then
    let tail := numberTail cs
    match Number.read? (c :: tail) with
    | some x => .ok ⟨.number, .number x, tail.length⟩
    | none => .error (.invalidNumber (String.ofList (c :: tail)))
  else if let some kind := punctuation? c then
    .ok ⟨kind, .none, 0⟩
  else if let some sign := comparisonSign? (c :: cs) then
    .ok ⟨.comparison, .text sign, sign.length - 1⟩
  else if operatorSigns.contains c then
    .ok ⟨.operator, .text c.toString, 0⟩
  else if startsWord c then
    let tail := cs.takeWhile continuesWord
    let (kind, payload) := ofWord (String.ofList (c :: tail)) (cs.drop tail.length).head?
    .ok ⟨kind, payload, tail.length⟩
  else .error (.unexpectedChar c)

/-- The tokens of the text `cs` that starts at `position`, `last` being the kind of the token
before it. -/
def scan (last : Option Kind) (position : Nat) (cs : List Char) : Except LexError (List Token) :=
  match cs with
  | [] => .ok [atEnd position]
  | c :: cs =>
    if Text.isBlank c then scan last (position + 1) cs
    else
      match lexeme last c cs with
      | .error fault => .error ⟨fault, position⟩
      | .ok l => do
        let rest ← scan (some l.kind) (position + 1 + l.more) (cs.drop l.more)
        .ok (⟨l.kind, l.payload, position⟩ :: rest)
termination_by cs.length
decreasing_by
  · simp
  · simp only [List.length_drop, List.length_cons]
    omega

/-- The tokens of a source, the last of them its end. -/
def tokenize (source : String) : Except LexError (List Token) :=
  scan none 0 source.toList

end Token
end SurveyLogic
