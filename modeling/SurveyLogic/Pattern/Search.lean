/-
# Searching for a pattern

A search runs a program from each position of a text in turn until one run succeeds, so the match
found starts leftmost. A run follows forks depth first, their preferred side first, which decides
among the matches that start there. A state is an instruction at a position. One that has failed
once fails again, from whatever start, so such states are kept and not entered twice, and a search
takes at most as many steps as there are states, times a constant.
-/

import Std.Data.HashSet
import SurveyLogic.Pattern.Program

namespace SurveyLogic
namespace Pattern

/-- Whether the character at a position of a text, if there is one, is in a set. -/
def holdsAt (text : Array Char) (a : CharSet) (pos : Nat) : Bool :=
  text[pos]?.any a.has

/-- Whether the character before a position of a text, if there is one, is in a set. -/
def holdsBefore (text : Array Char) (a : CharSet) (pos : Nat) : Bool :=
  0 < pos && holdsAt text a (pos - 1)

/-- The line feed. -/
def lineFeed : CharSet := CharSet.single '\n'

/-- The carriage return. -/
def carriageReturn : CharSet := CharSet.single '\r'

/-- Whether a condition holds at a position of a text. No line starts or ends inside a carriage
return and a line feed that follows it, if both end lines. -/
def Assertion.holds (text : Array Char) (pos : Nat) : Assertion → Bool
  | textStart => pos == 0
  | textEnd => pos == text.size
  | lineStart false => pos == 0 || holdsBefore text lineFeed pos
  | lineEnd false => pos == text.size || holdsAt text lineFeed pos
  | lineStart true =>
    pos == 0 || holdsBefore text lineFeed pos ||
      (holdsBefore text carriageReturn pos && !holdsAt text lineFeed pos)
  | lineEnd true =>
    pos == text.size || holdsAt text carriageReturn pos ||
      (holdsAt text lineFeed pos && !holdsBefore text carriageReturn pos)
  | wordEdge word => holdsBefore text word pos != holdsAt text word pos
  | noWordEdge word => holdsBefore text word pos == holdsAt text word pos
  | wordStart word => !holdsBefore text word pos && holdsAt text word pos
  | wordEnd word => holdsBefore text word pos && !holdsAt text word pos
  | wordStartHalf word => !holdsBefore text word pos
  | wordEndHalf word => !holdsAt text word pos

/-- Positions kept in slots. -/
abbrev Slots := Array (Option Nat)

/-- What is left to do in a run. -/
inductive Task where
  /-- Run from an instruction at a position. -/
  | run (pc pos : Nat)
  /-- Give a slot back what it held before. -/
  | restore (slot : Nat) (old : Option Nat)

/-- The states that need not be entered again; a state is a number made of instruction and
position. -/
abbrev Entered := Std.HashSet Nat

/-- What one task leads to: success at a position, or further tasks. -/
inductive Outcome where
  | found (pos : Nat)
  | more (tasks : List Task) (slots : Slots)

/-- What an instruction leads to at a position. -/
def Instruction.step (text : Array Char) (pc pos : Nat) (slots : Slots) : Instruction → Outcome
  | set a =>
    if holdsAt text a pos then .more [.run (pc + 1) (pos + 1)] slots else .more [] slots
  | look a => if a.holds text pos then .more [.run (pc + 1) pos] slots else .more [] slots
  | save slot =>
    let undo := Task.restore slot slots[slot]?.join
    .more [.run (pc + 1) pos, undo] (slots.setIfInBounds slot (some pos))
  | jump target => .more [.run target pos] slots
  | fork first second => .more [.run first pos, .run second pos] slots
  | accept => .found pos

/-- The end of the match that the tasks lead to, with the slots at that time, and the states entered
up to then. -/
def work (code : Array Instruction) (text : Array Char) :
    Nat → List Task → Slots → Entered → Option (Nat × Slots) × Entered
  | 0, _, _, entered => (none, entered)
  | _, [], _, entered => (none, entered)
  | fuel + 1, .restore slot old :: tasks, slots, entered =>
    work code text fuel tasks (slots.setIfInBounds slot old) entered
  | fuel + 1, .run pc pos :: tasks, slots, entered =>
    let state := pc * (text.size + 1) + pos
    if entered.contains state then work code text fuel tasks slots entered
    else
      let entered := entered.insert state
      match code[pc]? with
      | none => work code text fuel tasks slots entered
      | some i =>
        match i.step text pc pos slots with
        | .found stop => (some (stop, slots), entered)
        | .more new slots => work code text fuel (new ++ tasks) slots entered

/-- A place in a text where a pattern matches, and what its groups hold. -/
structure Match where
  start : Nat
  stop : Nat
  slots : Slots

/-- The start and the end of what a group holds; group 0 is the whole match. -/
def Match.group? (m : Match) (number : Nat) : Option (Nat × Nat) :=
  if number = 0 then some (m.start, m.stop)
  else do
    let start ← m.slots[startSlot number]?.join
    let stop ← m.slots[endSlot number]?.join
    return (start, stop)

namespace Program

/-- How many tasks a search of a text may take: each state is entered once and leaves at most two
tasks behind. -/
def fuel (p : Program) (text : Array Char) : Nat :=
  3 * p.code.size * (text.size + 1) + 2

/-- The first match that starts at one of the `count` positions from `start` on. -/
def searchFrom (p : Program) (text : Array Char) :
    (count start : Nat) → Entered → Option Match
  | 0, _, _ => none
  | count + 1, start, entered =>
    let slots := Array.replicate (startSlot (p.groups + 1)) none
    match work p.code text (p.fuel text) [.run 0 start] slots entered with
    | (some (stop, slots), _) => some ⟨start, stop, slots⟩
    | (none, entered) => searchFrom p text count (start + 1) entered

/-- The first match that starts at a position or later. -/
def matchFrom? (p : Program) (text : Array Char) (start : Nat) : Option Match :=
  p.searchFrom text (text.size + 1 - start) start ∅

/-- Whether a pattern matches somewhere in a text. -/
def isMatch (p : Program) (s : String) : Bool :=
  (p.matchFrom? s.toList.toArray 0).isSome

/-- The next match behind one that ended at `last`. An empty match does not follow at once. -/
def nextMatch? (p : Program) (text : Array Char) (last : Nat) : Option Match :=
  match p.matchFrom? text last with
  | some m => if m.stop = last then p.matchFrom? text (last + 1) else some m
  | none => none

/-- At most `count` matches, each behind the one before it; the first of them behind `last`. -/
def matchesAfter (p : Program) (text : Array Char) : (count last : Nat) → List Match
  | 0, _ => []
  | count + 1, last =>
    match p.nextMatch? text last with
    | some m => m :: matchesAfter p text count m.stop
    | none => []

/-- All matches in a text from the left, none overlapping another. Their ends differ, so there are
not more of them than positions. -/
def allMatches (p : Program) (text : Array Char) : List Match :=
  match p.matchFrom? text 0 with
  | some m => m :: p.matchesAfter text text.size m.stop
  | none => []

end Program
end Pattern
end SurveyLogic
