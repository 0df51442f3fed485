/-
# Sizes of patterns

How many bytes an automaton for a pattern takes up, which bounds the patterns that are accepted. Two
automata are counted: one that reads a text forward and notes where groups are, and one that reads
it backward and does not.

| pattern | states |
| --- | --- |
| empty text | one |
| text | one for each byte |
| set of ASCII | one, with an edge for each range, and one behind it |
| other set, forward | one for each different future, with an edge for each byte range, and one |
| other set, backward | one for each different start, a branch to each row of bytes, and one |
| condition | one |
| group | two, forward only |
| choice | a branch to each option, and one behind them |
| choice among texts | the tree of their bytes |
| `x{n}` | `n` times `x` |
| `x{n,m}` | `n` times `x`, then `m - n` times a branch to `x` or the end |
| `x+` | `x` and a branch |
| `x*` | `x` and a branch, or `x+` or nothing if `x` may match nothing |

A set counts for its characters in bytes, so sets of many ranges make large patterns.
-/

import SurveyLogic.Pattern.Encoding
import SurveyLogic.Pattern.Normal

namespace SurveyLogic
namespace Pattern

/-- The direction in which an automaton reads a text. -/
inductive Direction where
  | forward
  | backward
  deriving DecidableEq

namespace Direction

/-- Something in the order that a direction meets it. -/
def order (d : Direction) (xs : List α) : List α :=
  match d with
  | forward => xs
  | backward => xs.reverse

end Direction

/-- The size of a state. -/
def stateSize : Nat := 32

/-- The size of an edge for a range of bytes. -/
def edgeSize : Nat := 8

/-- The size of a state with a number of edges. -/
def edgesSize (count : Nat) : Nat := stateSize + edgeSize * count

/-- The size of a state that branches a number of times. -/
def branchSize (count : Nat) : Nat := stateSize + 4 * count

/-- Whether a set holds characters of ASCII only. -/
def CharSet.isAscii (a : CharSet) : Bool :=
  match a.getLast? with
  | some (_, last) => last ≤ 0x7f
  | none => true

/-- The size of the automaton for rows of bytes. -/
def rowsSize (rows : List ByteRow) : Direction → Nat
  | .forward =>
    let states := (futures 4 rows).eraseDups
    states.foldl (fun n future => n + edgesSize (rowGroups future).length) stateSize
  | .backward => branchSize rows.length + stateSize * (1 + startCount 4 rows)

/-- The size of the automaton for one character of a set. -/
def CharSet.size (d : Direction) (a : CharSet) : Nat :=
  if a.isAscii then edgesSize a.length + stateSize else rowsSize a.byteRows d

/-- A bound for the size of a set in either direction that is found at once: no range of characters
makes more than 16 rows of bytes. -/
def CharSet.sizeBound (a : CharSet) : Nat :=
  2 * stateSize + 16 * 4 * (stateSize + edgeSize) * a.length

/-- The size of the states of a tree of words with at most `length` bytes, its leaves left out. A
state where a word ends and others go on branches. -/
def treeSize : (length : Nat) → (words : List (List Nat)) → Nat
  | 0, _ => 0
  | length + 1, words =>
    let longer := words.filter (!·.isEmpty)
    let bytes := (longer.filterMap List.head?).eraseDups
    let own := if bytes.length = 1 then stateSize else edgesSize bytes.length
    let inner := if longer.length < words.length then branchSize 2 else 0
    if bytes.isEmpty then 0
    else
      bytes.foldl (fun n b =>
        n + treeSize length ((longer.filter (·.head? == some b)).map List.tail)) (own + inner)

namespace Normal

/-- The text that a pattern stands for. -/
def text? : Normal → Option (List Char)
  | text cs => some cs
  | _ => none

/-- The size of the automaton for a choice among texts. -/
def textsSize (d : Direction) (texts : List (List Char)) : Nat :=
  let words := texts.map fun cs => d.order (cs.flatMap bytesOf)
  let longest := words.foldl (fun n word => max n word.length) 0
  stateSize + treeSize longest words

mutual

/-- The size of the automaton for a pattern, given the sizes of sets. -/
def size (d : Direction) (setSize : CharSet → Nat) : Normal → Nat
  | empty => stateSize
  | text cs => stateSize * (cs.flatMap bytesOf).length
  | set a => setSize a
  | look _ => stateSize
  | repeated body 0 (some 1) _ => branchSize 2 + size d setSize body + stateSize
  | repeated body least (some most) _ =>
    let one := size d setSize body
    if least = most then least * one
    else max stateSize (least * one) + stateSize + (most - least) * (branchSize 2 + one)
  | repeated body 0 none _ =>
    let one := size d setSize body
    if 0 < (minLength? body).getD 0 then branchSize 2 + one
    else 2 * branchSize 2 + one + stateSize
  | repeated body least none _ => least * size d setSize body + branchSize 2
  | capture _ body =>
    match d with
    | .forward => 2 * stateSize + size d setSize body
    | .backward => size d setSize body
  | sequence parts => sizeAll d setSize parts
  | choice options =>
    match options.mapM text? with
    | some texts => textsSize d texts
    | none => branchSize options.length + sizeAll d setSize options + stateSize

/-- The sizes of the automata for some patterns together. -/
def sizeAll (d : Direction) (setSize : CharSet → Nat) : List Normal → Nat
  | [] => 0
  | n :: ns => size d setSize n + sizeAll d setSize ns

end

/-- The size of what every automaton has: the skipping of bytes before a match, the whole match as
a group, and the state of success. -/
def frameSize : Direction → Nat
  | .forward => branchSize 2 + edgesSize 1 + 4 * stateSize
  | .backward => branchSize 2 + edgesSize 1 + 2 * stateSize

/-- How large an automaton may be. -/
def maxSize : Nat := 10 * 1024 * 1024

/-- Whether the automaton for one direction is too large. Most patterns are settled by the bound for
sets. -/
def exceeds (d : Direction) (n : Normal) : Bool :=
  let fits (setSize : CharSet → Nat) := frameSize d + size d setSize n ≤ maxSize
  !(fits CharSet.sizeBound || fits (CharSet.size d))

end Normal

end Pattern
end SurveyLogic
