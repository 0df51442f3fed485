/-
# Replacing matches

Every match in a text gives way to a template in which a dollar sign stands for what a group holds:

| template | stands for |
| --- | --- |
| `$$` | a dollar sign |
| `$` and letters, digits or `_` | the group of that number or name; the longest such row counts |
| `$` and braces | the group whose number or name stands between them |
| any other `$` | itself |

A group that there is not, or that holds nothing, is replaced by nothing.
-/

import SurveyLogic.Number.Read
import SurveyLogic.Pattern.Search

namespace SurveyLogic
namespace Pattern

/-- A piece of a template. -/
inductive Piece where
  | char (c : Char)
  | group (reference : List Char)
  deriving DecidableEq, Repr

/-- Whether a reference without braces may hold a character. -/
def isReferenceChar (c : Char) : Bool :=
  c.isAlphanum || c = '_'

/-- The reference behind a dollar sign, if there is one, and how many characters it takes up. -/
def reference? (cs : List Char) : Option (List Char × Nat) :=
  match cs with
  | '\x7b' :: cs =>
    let inside := cs.takeWhile (· ≠ '\x7d')
    if inside.length < cs.length then some (inside, inside.length + 2) else none
  | cs =>
    let name := cs.takeWhile isReferenceChar
    if name.isEmpty then none else some (name, name.length)

/-- The pieces of a template, of which the first `skip` characters are already used up. -/
def piecesFrom (skip : Nat) (cs : List Char) : List Piece :=
  match skip, cs with
  | _, [] => []
  | skip + 1, _ :: cs => piecesFrom skip cs
  | 0, '$' :: '$' :: cs => .char '$' :: piecesFrom 0 cs
  | 0, '$' :: cs =>
    match reference? cs with
    | some (reference, n) => .group reference :: piecesFrom n cs
    | none => .char '$' :: piecesFrom 0 cs
  | 0, c :: cs => .char c :: piecesFrom 0 cs

/-- The pieces of a template. -/
def pieces (template : String) : List Piece :=
  piecesFrom 0 template.toList

/-- The number of the group that a reference means. -/
def Program.groupNumber? (p : Program) (reference : List Char) : Option Nat :=
  match Number.index? reference with
  | some number => some number
  | none => p.names.lookup (String.ofList reference)

/-- The characters between two positions of a text. -/
def slice (text : Array Char) (start stop : Nat) : List Char :=
  (text.extract start stop).toList

/-- What a piece stands for in a match. -/
def Program.expand (p : Program) (text : Array Char) (m : Match) : Piece → List Char
  | .char c => [c]
  | .group reference =>
    match p.groupNumber? reference >>= m.group? with
    | some (start, stop) => slice text start stop
    | none => []

/-- A text from `start` on with each match replaced by the pieces of a template. -/
def Program.replaceFrom (p : Program) (text : Array Char) (template : List Piece) (start : Nat) :
    List Match → List Char
  | [] => slice text start text.size
  | m :: ms =>
    slice text start m.start ++ template.flatMap (p.expand text m) ++
      replaceFrom p text template m.stop ms

/-- A text with every match of a pattern replaced by a template. -/
def Program.replaceAll (p : Program) (s template : String) : String :=
  let text := s.toList.toArray
  String.ofList (p.replaceFrom text (pieces template) 0 (p.allMatches text))

end Pattern
end SurveyLogic
