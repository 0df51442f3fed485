/-
# Reading JSON text

```
value   ::= 'null' | 'true' | 'false' | number | string | '[' [ value ( ',' value )* ] ']'
          | '{' [ string ':' value ( ',' string ':' value )* ] '}'
number  ::= ['-'] ( '0' | digit1-9 digit* ) [ '.' digit+ ] [ ( 'e' | 'E' ) ['+' | '-'] digit+ ]
```

Space may stand around values. A number without point and exponent is an integer if 64 bits hold it
and it is not `-0`; every other number is a double. Of members with one name the last one counts.
Each nested value takes up a character, so the length of the text bounds the nesting.
-/

import SurveyLogic.Bindings
import SurveyLogic.Json.Basic
import SurveyLogic.Number.Read

namespace SurveyLogic
namespace Json

namespace Reader

/-- Space between the parts of a document. -/
def isSpace (c : Char) : Bool :=
  c = ' ' || c = '\t' || c = '\n' || c = '\r'

/-- What follows the space at the front. -/
def skipSpace (cs : List Char) : List Char :=
  cs.dropWhile isSpace

/-- The number written by four hexadecimal digits. -/
def hexFour? (ds : List Char) : Option Nat :=
  if ds.length = 4 then Number.ofHex? ds else none

/-- A character from its code units: one unit, or two that form a surrogate pair. -/
def charOfUnits? (high : Nat) (low : Option Nat) : Option Char :=
  let n :=
    match low with
    | none => high
    | some low => 0x10000 + (high - 0xd800) * 0x400 + (low - 0xdc00)
  if n.isValidChar then some (Char.ofNat n) else none

/-- The character that a letter behind a backslash stands for. -/
def escaped? : Char → Option Char
  | '"' => some '"'
  | '\\' => some '\\'
  | '/' => some '/'
  | 'b' => some '\x08'
  | 'f' => some '\x0c'
  | 'n' => some '\n'
  | 'r' => some '\r'
  | 't' => some '\t'
  | _ => none

/-- The content of a string whose opening quote is already read, and what follows the closing one.
`skip` characters are already used up. -/
def string? : (skip : Nat) → List Char → Option (List Char × List Char)
  | _, [] => none
  | skip + 1, _ :: cs => string? skip cs
  | 0, '"' :: cs => some ([], cs)
  | 0, '\\' :: 'u' :: cs => do
    let high ← hexFour? (cs.take 4)
    let isPair := 0xd800 ≤ high && high < 0xdc00
    let low ← if isPair then (hexFour? ((cs.drop 6).take 4)).map some else some none
    if isPair && (cs.drop 4).take 2 ≠ ['\\', 'u'] then none
    if low.any fun n => n < 0xdc00 || 0xe000 ≤ n then none
    let c ← charOfUnits? high low
    let (content, rest) ← string? (if isPair then 10 else 4) cs
    return (c :: content, rest)
  | 0, '\\' :: c :: cs => do
    let c ← escaped? c
    let (content, rest) ← string? 0 cs
    return (c :: content, rest)
  | 0, c :: cs => do
    if c.toNat < 0x20 then none
    let (content, rest) ← string? 0 cs
    return (c :: content, rest)

/-- Digits behind a point, with the point; none without a point. -/
def fraction? (cs : List Char) : Option (List Char × List Char) :=
  match cs with
  | '.' :: cs =>
    let ds := cs.takeWhile (·.isDigit)
    if ds.isEmpty then none else some ('.' :: ds, cs.drop ds.length)
  | cs => some ([], cs)

/-- An exponent with its letter; none without the letter. -/
def exponent? (cs : List Char) : Option (List Char × List Char) :=
  match cs with
  | [] => some ([], [])
  | c :: rest =>
    if c = 'e' || c = 'E' then
      let sign := (rest.take 1).filter fun c => c = '+' || c = '-'
      let ds := (rest.drop sign.length).takeWhile (·.isDigit)
      if ds.isEmpty then none
      else some (c :: sign ++ ds, rest.drop (sign.length + ds.length))
    else some ([], c :: rest)

/-- The integer of some digits, or the double if 64 bits do not hold it. -/
def integer (negative : Bool) (ds : List Char) : Json :=
  let n := Number.digitsValue ds
  let value : Int := if negative then -n else n
  if (negative && n = 0) || value < -Nat.pow 2 63 || Nat.pow 2 64 ≤ value then
    let x := Number.ofDecimal n 0
    .float (if negative then -x else x)
  else .int value

/-- A number at the front, and what follows it. -/
def number? (cs : List Char) : Option (Json × List Char) := do
  let sign := (cs.take 1).filter (· = '-')
  let rest := cs.drop sign.length
  let whole := rest.takeWhile (·.isDigit)
  if whole.isEmpty || (whole.head? = some '0' && 1 < whole.length) then none
  let (fraction, rest) ← fraction? (rest.drop whole.length)
  let (exponent, rest) ← exponent? rest
  if fraction.isEmpty && exponent.isEmpty then return (integer (!sign.isEmpty) whole, rest)
  let x ← Number.read? (sign ++ whole ++ fraction ++ exponent)
  return (.float x, rest)

/-- A word at the front stands for a document. -/
def word? (word : String) (j : Json) (cs : List Char) : Option (Json × List Char) :=
  if word.toList.isPrefixOf cs then some (j, cs.drop word.length) else none

mutual

/-- A value at the front, and what follows it. -/
def value? : (fuel : Nat) → List Char → Option (Json × List Char)
  | 0, _ => none
  | fuel + 1, cs =>
    match skipSpace cs with
    | '[' :: cs =>
      match skipSpace cs with
      | ']' :: cs => some (.array [], cs)
      | cs => (items? fuel cs).map fun (items, rest) => (.array items, rest)
    | '\x7b' :: cs =>
      match skipSpace cs with
      | '\x7d' :: cs => some (.object [], cs)
      | cs => (members? fuel cs).map fun (members, rest) =>
        (.object (Bindings.ofList members), rest)
    | '"' :: cs => (string? 0 cs).map fun (content, rest) => (.string (String.ofList content), rest)
    | 'n' :: cs => word? "null" .null ('n' :: cs)
    | 't' :: cs => word? "true" (.bool true) ('t' :: cs)
    | 'f' :: cs => word? "false" (.bool false) ('f' :: cs)
    | cs => number? cs

/-- The items of a list, the opening bracket being read. -/
def items? : (fuel : Nat) → List Char → Option (List Json × List Char)
  | 0, _ => none
  | fuel + 1, cs => do
    let (item, rest) ← value? fuel cs
    match skipSpace rest with
    | ',' :: rest =>
      let (items, rest) ← items? fuel rest
      return (item :: items, rest)
    | ']' :: rest => return ([item], rest)
    | _ => none

/-- The members of an object, the opening brace being read. -/
def members? : (fuel : Nat) → List Char → Option (List (String × Json) × List Char)
  | 0, _ => none
  | fuel + 1, cs => do
    let (name, rest) ←
      match skipSpace cs with
      | '"' :: cs => string? 0 cs
      | _ => none
    let rest ←
      match skipSpace rest with
      | ':' :: rest => some rest
      | _ => none
    let (value, rest) ← value? fuel rest
    let member := (String.ofList name, value)
    match skipSpace rest with
    | ',' :: rest =>
      let (members, rest) ← members? fuel rest
      return (member :: members, rest)
    | '\x7d' :: rest => return ([member], rest)
    | _ => none

end

end Reader

/-- The document that a text writes. -/
def ofText? (s : String) : Option Json :=
  let cs := s.toList
  match Reader.value? (cs.length + 1) cs with
  | some (j, rest) => if (Reader.skipSpace rest).isEmpty then some j else none
  | none => none

end Json
end SurveyLogic
