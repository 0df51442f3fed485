/-
# Sets of characters in patterns

The parts of a pattern that stand for one character: escapes, and sets in brackets.

```
set     ::= '[' ['^'] '-'* [']'] ( item | op )* ']'
item    ::= char | char '-' char | escape | '[:' ['^'] NAME ':]' | set
op      ::= '&&' | '--' | '~~'                 intersection, difference, symmetric difference
escape  ::= '\' ( d | D | s | S | w | W | p NAME | P NAME | x HEX | u HEX | U HEX | letter | sign )
```

The operators group to the left and join what stands between them. Where case does not count, a set
is closed under change of case before it is negated or an operator applies. Brackets, operators and
more than one item between them each count as a level of nesting.
-/

import SurveyLogic.Number.Read
import SurveyLogic.Pattern.Fold
import SurveyLogic.Pattern.Property
import SurveyLogic.Pattern.Syntax
import SurveyLogic.Text.Blank
import SurveyLogic.Text.Search

namespace SurveyLogic
namespace Pattern

/-- How a pattern is read. Each flag is set by the letter named. -/
structure Flags where
  /-- `i`: case does not count. -/
  ignoreCase : Bool := false
  /-- `m`: `^` and `$` also stand at lines. -/
  multiLine : Bool := false
  /-- `s`: a point stands for every character. -/
  dotAll : Bool := false
  /-- `U`: repetitions are lazy, and greedy with a question mark. -/
  swapGreed : Bool := false
  /-- `u`: classes hold more than ASCII. -/
  unicode : Bool := true
  /-- `R`: carriage returns end lines too. -/
  crlf : Bool := false
  /-- `x`: blanks and comments in the pattern do not count. -/
  ignoreSpace : Bool := false

/-- A set that a pattern writes, closed under change of case if case does not count. Without `u`
only the letters of ASCII have case. -/
def withCase (f : Flags) (a : CharSet) : CharSet :=
  if !f.ignoreCase then a
  else if f.unicode then a.closeCase
  else a.closeCaseAscii

/-- What is left after blanks and comments; `comment` tells whether one is open. -/
def skipFrom (comment : Bool) : List Char → List Char
  | [] => []
  | c :: cs =>
    if comment then skipFrom (c ≠ '\n') cs
    else if Text.isBlank c then skipFrom false cs
    else if c = '#' then skipFrom true cs
    else c :: cs

/-- What is left after blanks and comments, if they do not count. -/
def skip (f : Flags) (cs : List Char) : List Char :=
  if f.ignoreSpace then skipFrom false cs else cs

/-- The characters up to a closing brace and what follows it. Blanks and comments are left out if
they do not count. -/
def untilBrace (f : Flags) (comment : Bool) : List Char → Option (List Char × List Char)
  | [] => none
  | c :: cs =>
    if comment then untilBrace f (c ≠ '\n') cs
    else if f.ignoreSpace && Text.isBlank c then untilBrace f false cs
    else if f.ignoreSpace && c = '#' then untilBrace f true cs
    else if c = '\x7d' then some ([], cs)
    else (untilBrace f false cs).map fun (inside, rest) => (c :: inside, rest)

/-- The character whose code point hexadecimal digits write. -/
def charOfHex? (ds : List Char) : Option Char := do
  let n ← Number.ofHex? ds
  if n.isValidChar then some (Char.ofNat n) else none

/-- What an escape stands for. -/
inductive Escape where
  /-- A character; `byte` if written as a byte of two hexadecimal digits. -/
  | char (c : Char) (byte : Bool)
  | set (a : CharSet)
  | look (a : Assertion)

/-- The characters that have a meaning in patterns. -/
def isMeta (c : Char) : Bool :=
  "\\.+*?()|[]\x7b\x7d^$#&-~".toList.contains c

/-- The letters of ASCII. -/
def asciiLetters : CharSet :=
  CharSet.union (CharSet.between 'A' 'Z') (CharSet.between 'a' 'z')

/-- The digits of ASCII. -/
def asciiDigits : CharSet := CharSet.between '0' '9'

/-- The letters and digits of ASCII. -/
def asciiAlphanumeric : CharSet := CharSet.union asciiLetters asciiDigits

/-- The characters of words in ASCII. -/
def asciiWord : CharSet := CharSet.union asciiAlphanumeric (CharSet.single '_')

/-- The blanks of ASCII. -/
def asciiBlanks : CharSet := CharSet.union (CharSet.between '\t' '\r') (CharSet.single ' ')

/-- A class of ASCII characters by its name in brackets and colons. -/
def asciiClass? (name : String) : Option CharSet :=
  match name with
  | "alnum" => some asciiAlphanumeric
  | "alpha" => some asciiLetters
  | "ascii" => some CharSet.ascii
  | "blank" => some (CharSet.ofChars ['\t', ' '])
  | "cntrl" => some (CharSet.union (CharSet.between '\x00' '\x1f') (CharSet.single '\x7f'))
  | "digit" => some asciiDigits
  | "graph" => some (CharSet.between '!' '~')
  | "lower" => some (CharSet.between 'a' 'z')
  | "print" => some (CharSet.between ' ' '~')
  | "punct" => some (CharSet.without (CharSet.between '!' '~') asciiAlphanumeric)
  | "space" => some asciiBlanks
  | "upper" => some (CharSet.between 'A' 'Z')
  | "word" => some asciiWord
  | "xdigit" =>
    some (CharSet.unionOf [asciiDigits, CharSet.between 'A' 'F', CharSet.between 'a' 'f'])
  | _ => none

/-- The characters of words. -/
def wordSet (f : Flags) : CharSet :=
  if f.unicode then Property.word else asciiWord

/-- The classes of digits, blanks and characters of words. -/
def shorthand? (f : Flags) (c : Char) : Option CharSet :=
  match c.toLower with
  | 'd' => some (if f.unicode then Category.ranges .decimalNumber else asciiDigits)
  | 's' => some (if f.unicode then Listed.whiteSpace else asciiBlanks)
  | 'w' => some (wordSet f)
  | _ => none

/-- A set negated or not. Without `u` a negated set would hold bytes that are no text. -/
def negateIf (f : Flags) (negated : Bool) (a : CharSet) : Except Problem CharSet :=
  if negated then
    if f.unicode then .ok a.complement else .error .notText
  else .ok a

/-- The property behind `\p` or `\P`, and what follows it. -/
def readProperty (f : Flags) (negated : Bool) (cs : List Char) :
    Except Problem (CharSet × List Char) := do
  if !f.unicode then throw .badProperty
  let (inside, rest) ←
    match skip f cs with
    | [] => throw .badEscape
    | '\x7b' :: cs =>
      match untilBrace f false cs with
      | some found => pure found
      | none => throw .badEscape
    | '\\' :: _ => throw .badProperty
    | c :: cs => pure ([c], cs)
  let (found, negatedInside) :=
    match Text.breakOn ['!', '='] inside with
    | some (kind, name) => (Property.ofKind? kind name, true)
    | none =>
      match Text.breakOn [':'] inside <|> Text.breakOn ['='] inside with
      | some (kind, name) => (Property.ofKind? kind name, false)
      | none => (Property.bare? inside, false)
  match found with
  | none => throw .badProperty
  | some a => return (← negateIf f (negated != negatedInside) (withCase f a), rest)

/-- The first characters, `count` of them, and what follows. Blanks and comments behind each are
left out if they do not count. -/
def takeApart (f : Flags) : (count : Nat) → List Char → Option (List Char × List Char)
  | 0, cs => some ([], cs)
  | _ + 1, [] => none
  | count + 1, c :: cs =>
    (takeApart f count (skip f cs)).map fun (taken, rest) => (c :: taken, rest)

/-- The character written by hexadecimal digits, and what follows: any number of digits in braces,
or else `count` of them. -/
def readHex (f : Flags) (count : Nat) (cs : List Char) : Except Problem (Char × List Char) :=
  let digits :=
    match skip f cs with
    | '\x7b' :: cs => untilBrace f false cs
    | cs => takeApart f count cs
  match digits with
  | none => .error .badEscape
  | some (ds, rest) =>
    match charOfHex? ds with
    | some c => .ok (c, rest)
    | none => .error .badEscape

/-- The word condition that a name in braces behind `\b` stands for. -/
def wordCondition? (f : Flags) (name : List Char) : Option Assertion :=
  match String.ofList name with
  | "start" => some (.wordStart (wordSet f))
  | "end" => some (.wordEnd (wordSet f))
  | "start-half" => some (.wordStartHalf (wordSet f))
  | "end-half" => some (.wordEndHalf (wordSet f))
  | _ => none

/-- What follows `\b`: a name in braces, unless the braces hold something else. -/
def readWordEdge (f : Flags) (cs : List Char) : Except Problem (Assertion × List Char) :=
  match cs with
  | '\x7b' :: inner =>
    match skip f inner with
    | [] => .error .badEscape
    | c :: _ =>
      if c.isAlpha || c = '-' then
        match untilBrace f false inner with
        | some (name, rest) =>
          match wordCondition? f name with
          | some a => .ok (a, rest)
          | none => .error .badEscape
        | none => .error .badEscape
      else .ok (.wordEdge (wordSet f), cs)
  | cs => .ok (.wordEdge (wordSet f), cs)

/-- The escape whose backslash stands before `cs`, and what follows it. -/
def readEscape (f : Flags) (cs : List Char) : Except Problem (Escape × List Char) := do
  match cs with
  | [] => throw .badEscape
  | c :: cs =>
    if c.isDigit then throw .badEscape
    else if isMeta c then return (.char c false, cs)
    else
      match c with
      | 'x' => return (← readHex f 2 cs).map (.char · ((skip f cs).head? ≠ some '\x7b')) id
      | 'u' => return (← readHex f 4 cs).map (.char · false) id
      | 'U' => return (← readHex f 8 cs).map (.char · false) id
      | 'p' => return (← readProperty f false cs).map .set id
      | 'P' => return (← readProperty f true cs).map .set id
      | 'a' => return (.char '\x07' false, cs)
      | 'f' => return (.char '\x0c' false, cs)
      | 't' => return (.char '\t' false, cs)
      | 'n' => return (.char '\n' false, cs)
      | 'r' => return (.char '\r' false, cs)
      | 'v' => return (.char '\x0b' false, cs)
      | 'A' => return (.look .textStart, cs)
      | 'z' => return (.look .textEnd, cs)
      | 'b' => return (← readWordEdge f cs).map .look id
      | 'B' => return (.look (.noWordEdge (wordSet f)), cs)
      | '<' => return (.look (.wordStart (wordSet f)), cs)
      | '>' => return (.look (.wordEnd (wordSet f)), cs)
      | c =>
        match shorthand? f c with
        | some a => return (.set (← negateIf f c.isUpper a), cs)
        | none =>
          if c.toNat < 0x80 && !c.isAlphanum then return (.char c false, cs)
          else throw .badEscape

/-- Runs a step again and again until it has a result. Every step takes up characters. -/
def iterate (step : σ → List Char → Except Problem ((σ × List Char) ⊕ α)) (s : σ)
    (cs : List Char) : Except Problem α :=
  match step s cs with
  | .error p => .error p
  | .ok (.inr result) => .ok result
  | .ok (.inl (s, rest)) =>
    if rest.length < cs.length then iterate step s rest else .error .tooLarge
termination_by cs.length

/-- The operators between sets. -/
inductive SetOp where
  | intersection
  | difference
  | symmetricDifference

/-- The set that an operator makes of two. -/
def SetOp.apply : SetOp → CharSet → CharSet → CharSet
  | .intersection => CharSet.inter
  | .difference => CharSet.without
  | .symmetricDifference => CharSet.symmDiff

/-- A bracket that is open: the items since the last operator, that operator with the set on its
left, and whether the whole is negated. -/
structure OpenSet where
  negated : Bool
  items : CharSet := []
  /-- The number of items. -/
  count : Nat := 0
  /-- How deep the deepest item is nested. -/
  nesting : Nat := 0
  left : Option (SetOp × CharSet) := none
  /-- How deep the set on the left of the operator is nested. -/
  leftNesting : Nat := 0

namespace OpenSet

/-- With a further item. -/
def add (s : OpenSet) (a : CharSet) (nesting : Nat := 0) : OpenSet :=
  { s with
    items := CharSet.union s.items a, count := s.count + 1, nesting := max s.nesting nesting }

/-- The set of all read so far. -/
def joined (f : Flags) (s : OpenSet) : CharSet :=
  match s.left with
  | none => s.items
  | some (op, left) => op.apply (withCase f left) (withCase f s.items)

/-- How deep all read so far is nested. -/
def depth (s : OpenSet) : Nat :=
  let items := if 1 < s.count then s.nesting + 1 else s.nesting
  if s.left.isSome then 1 + max s.leftNesting items else items

/-- After an operator. -/
def operator (f : Flags) (op : SetOp) (s : OpenSet) : OpenSet :=
  { negated := s.negated, left := some (op, s.joined f), leftNesting := s.depth }

/-- The set between the brackets, and how deep it is nested with them. -/
def close (f : Flags) (s : OpenSet) : Except Problem (CharSet × Nat) := do
  return (← negateIf f s.negated (withCase f (s.joined f)), s.depth + 1)

end OpenSet

/-- The number of hyphens in front, and what follows them. Blanks and comments are left out if they
do not count. -/
def hyphens (f : Flags) (comment : Bool) : List Char → Nat × List Char
  | [] => (0, [])
  | c :: cs =>
    if comment then hyphens f (c ≠ '\n') cs
    else if c = '-' then
      let (count, rest) := hyphens f false cs
      (count + 1, rest)
    else if f.ignoreSpace && Text.isBlank c then hyphens f false cs
    else if f.ignoreSpace && c = '#' then hyphens f true cs
    else (0, c :: cs)

/-- The first part of a set behind its bracket: the negation, hyphens and a bracket that count as
characters because they come first. -/
def openSet (f : Flags) (cs : List Char) : OpenSet × List Char :=
  let (negated, cs) :=
    match skip f cs with
    | '^' :: cs => (true, cs)
    | cs => (false, cs)
  match hyphens f false cs with
  | (0, ']' :: cs) => (OpenSet.add { negated } (CharSet.single ']'), cs)
  | (0, cs) => ({ negated }, cs)
  | (count, cs) => ({ negated, items := CharSet.single '-', count }, cs)

/-- One character or class inside brackets, and what follows it. -/
def readItem (f : Flags) (cs : List Char) : Except Problem (Escape × List Char) :=
  match cs with
  | '\\' :: cs => readEscape f cs
  | c :: cs => .ok (.char c false, cs)
  | [] => .error .badClass

/-- The character that an item in brackets stands for. -/
def Escape.toChar (f : Flags) : Escape → Except Problem Char
  | .char c byte =>
    if f.unicode || c.toNat < 0x80 then .ok c
    else .error (if byte then .notText else .badClass)
  | _ => .error .badClass

/-- The set that an item in brackets stands for. -/
def Escape.toSet (f : Flags) : Escape → Except Problem CharSet
  | .set a => .ok a
  | e => do
    return CharSet.single (← e.toChar f)

/-- The first character behind a hyphen that is no blank and does not open a comment, if these do
not count; it tells whether the hyphen makes a range. -/
def peek (f : Flags) (cs : List Char) : Option Char :=
  if f.ignoreSpace then
    match Text.trimLeft cs with
    | '#' :: cs => (Text.trimLeft cs).head?
    | cs => cs.head?
  else cs.head?

/-- An item or a range of characters inside brackets, and what follows it. -/
def readRange (f : Flags) (cs : List Char) : Except Problem (CharSet × List Char) := do
  let (first, rest) ← readItem f cs
  match skip f rest with
  | [] => throw .badClass
  | '-' :: behind =>
    if peek f behind = some ']' || peek f behind = some '-' then return (← first.toSet f, rest)
    let (last, rest) ← readItem f (skip f behind)
    let low ← first.toChar f
    let high ← last.toChar f
    if high < low then throw .badClass
    return (CharSet.between low high, rest)
  | _ => return (← first.toSet f, rest)

/-- A class of ASCII characters in brackets and colons, `cs` being what follows its bracket: the
class, whether it is negated, and what follows. -/
def asciiClass (cs : List Char) : Option (CharSet × Bool × List Char) :=
  match cs with
  | ':' :: cs =>
    let (negated, cs) :=
      match cs with
      | '^' :: cs => (true, cs)
      | cs => (false, cs)
    let name := cs.takeWhile (· ≠ ':')
    match cs.drop name.length with
    | ':' :: ']' :: rest =>
      (asciiClass? (String.ofList name)).map fun a => (a, negated, rest)
    | _ => none
  | _ => none

/-- The brackets that are open, from the innermost outward. -/
abbrev OpenSets := OpenSet × List OpenSet

/-- The next part of a set. -/
def setStep (f : Flags) (state : OpenSets) (cs : List Char) :
    Except Problem ((OpenSets × List Char) ⊕ (CharSet × Nat × List Char)) := do
  let (s, outer) := state
  match skip f cs with
  | [] => throw .badClass
  | '[' :: cs =>
    match asciiClass cs with
    | some (a, negated, rest) =>
      return .inl ((s.add (← negateIf f negated (withCase f a)), outer), rest)
    | none =>
      let (inner, rest) := openSet f cs
      return .inl ((inner, s :: outer), rest)
  | ']' :: cs =>
    let (a, nesting) ← s.close f
    match outer with
    | [] => return .inr (a, nesting, cs)
    | next :: outer => return .inl ((next.add a nesting, outer), cs)
  | '&' :: '&' :: cs => return .inl ((s.operator f .intersection, outer), cs)
  | '-' :: '-' :: cs => return .inl ((s.operator f .difference, outer), cs)
  | '~' :: '~' :: cs => return .inl ((s.operator f .symmetricDifference, outer), cs)
  | cs =>
    let (a, rest) ← readRange f cs
    return .inl ((s.add a, outer), rest)

/-- The set whose opening bracket stands before `cs`, how deep it is nested, and what follows it. -/
def readSet (f : Flags) (cs : List Char) : Except Problem (CharSet × Nat × List Char) :=
  let (s, rest) := openSet f cs
  iterate (setStep f) (s, []) rest

end Pattern
end SurveyLogic
