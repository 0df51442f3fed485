/-
# Programs for patterns

A pattern as a row of instructions. Each instruction but the last leads to the one after it, and
`fork` and `jump` also to others; an instruction that leads to two prefers the first.

| pattern | instructions |
| --- | --- |
| `x y` | `x`, `y` |
| `x` or `y` | fork to `x` or to `y`, with a jump from behind `x` to the end |
| group | save, `x`, save |
| `x{n,m}` | `n` times `x`, then `m - n` times: fork to `x` or to the end |
| `x+` | `x`, then fork back to `x` or on |
| `x*` | fork to `x+` or to the end |

Lazy repetitions fork the other way around. The number of instructions is known beforehand, so the
targets of forks are too.
-/

import SurveyLogic.Pattern.Reader
import SurveyLogic.Pattern.Size

namespace SurveyLogic
namespace Pattern

/-- One step of a search. -/
inductive Instruction where
  /-- Take up one character of a set. -/
  | set (a : CharSet)
  /-- Go on only where a condition holds. -/
  | look (a : Assertion)
  /-- Keep the position in a slot. -/
  | save (slot : Nat)
  /-- Go on elsewhere. -/
  | jump (target : Nat)
  /-- Go on at the first target, and if that fails at the second. -/
  | fork (first second : Nat)
  /-- Succeed. -/
  | accept

/-- The slot for the start of a group. Group 0 is the whole match. -/
def startSlot (number : Nat) : Nat := 2 * number

/-- The slot for the end of a group. -/
def endSlot (number : Nat) : Nat := 2 * number + 1

namespace Normal

mutual

/-- The number of instructions of a pattern. -/
def count : Normal → Nat
  | empty => 0
  | text cs => cs.length
  | set _ => 1
  | look _ => 1
  | repeated body least (some most) _ => least * count body + (most - least) * (1 + count body)
  | repeated body 0 none _ => count body + 2
  | repeated body (least + 1) none _ => (least + 1) * count body + 1
  | capture _ body => count body + 2
  | sequence parts => countAll parts
  | choice options => countChoice options

/-- The number of instructions of a sequence. -/
def countAll : List Normal → Nat
  | [] => 0
  | n :: ns => count n + countAll ns

/-- The number of instructions of a choice. -/
def countChoice : List Normal → Nat
  | [] => 0
  | [n] => count n
  | n :: ns => count n + 2 + countChoice ns

end

/-- A fork that prefers `first` if `greedy`, and else `second`. -/
def fork (greedy : Bool) (first second : Nat) : Instruction :=
  if greedy then .fork first second else .fork second first

/-- The instructions of `x+`, those of `x` being added by `body`. -/
def emitPlus (body : Array Instruction → Array Instruction) (greedy : Bool)
    (code : Array Instruction) : Array Instruction :=
  let start := code.size
  let code := body code
  code.push (fork greedy start (code.size + 1))

/-- The instructions of `x?` in front of the target `stop`. -/
def emitOptional (body : Array Instruction → Array Instruction) (greedy : Bool) (stop : Nat)
    (code : Array Instruction) : Array Instruction :=
  body (code.push (fork greedy (code.size + 1) stop))

mutual

/-- The instructions so far with those of a pattern behind them. -/
def emit : Normal → Array Instruction → Array Instruction
  | empty => id
  | text cs => fun code => cs.foldl (fun code c => code.push (.set (CharSet.single c))) code
  | set a => (·.push (.set a))
  | look a => (·.push (.look a))
  | repeated body least (some most) greedy => fun code =>
    let code := Nat.repeat (emit body) least code
    let stop := code.size + (most - least) * (1 + count body)
    Nat.repeat (emitOptional (emit body) greedy stop) (most - least) code
  | repeated body 0 none greedy => fun code =>
    emitOptional (emitPlus (emit body) greedy) greedy (code.size + count body + 2) code
  | repeated body (least + 1) none greedy => fun code =>
    emitPlus (emit body) greedy (Nat.repeat (emit body) least code)
  | capture number body => fun code =>
    (emit body (code.push (.save (startSlot number)))).push (.save (endSlot number))
  | sequence parts => emitAll parts
  | choice options => fun code => emitChoice options (code.size + countChoice options) code

/-- The instructions so far with those of a sequence behind them. -/
def emitAll : List Normal → Array Instruction → Array Instruction
  | [] => id
  | n :: ns => fun code => emitAll ns (emit n code)

/-- The instructions so far with those of a choice behind them, which ends before `stop`. -/
def emitChoice : List Normal → Nat → Array Instruction → Array Instruction
  | [], _ => id
  | [n], _ => emit n
  | n :: ns, stop => fun code =>
    let code := code.push (.fork (code.size + 1) (code.size + count n + 2))
    emitChoice ns stop ((emit n code).push (.jump stop))

end

end Normal

/-- A pattern ready for searching. -/
structure Program where
  code : Array Instruction
  /-- The number of capturing groups. -/
  groups : Nat
  /-- The names of groups with their numbers. -/
  names : List (String × Nat)

/-- The program of a pattern. -/
def Program.ofText (s : String) : Except Problem Program := do
  let parsed ← read s
  let n := Normal.ofNode parsed.node
  if n.exceeds .forward || n.exceeds .backward then throw .tooLarge
  return ⟨(n.emit #[]).push .accept, parsed.groups, parsed.names⟩

end Pattern
end SurveyLogic
