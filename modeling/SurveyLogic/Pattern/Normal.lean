/-
# Patterns in normal form

What is left of a pattern once its groups have done their work. Building a normal form puts
neighbours together and so keeps patterns small:

| pattern | normal form |
| --- | --- |
| a set of one character | that character as a text |
| neighbouring texts in a sequence | one text |
| sequence in a sequence, choice in a choice | its parts |
| choice among single characters, or among sets | one set |
| choice among sequences that start alike | that start, and a choice of what follows |
| repetition of what takes up no character | at most one repetition |
| no repetition, or exactly one | nothing, or what is repeated |
-/

import SurveyLogic.Pattern.Syntax

namespace SurveyLogic
namespace Pattern

/-- A pattern in normal form. -/
inductive Normal where
  /-- The empty text. -/
  | empty
  /-- The text itself. -/
  | text (cs : List Char)
  /-- One character of a set. -/
  | set (a : CharSet)
  /-- The empty text where a condition holds. -/
  | look (a : Assertion)
  /-- A number of repetitions; more are preferred if `greedy`, and else fewer. -/
  | repeated (body : Normal) (least : Nat) (most : Option Nat) (greedy : Bool)
  /-- A group that captures. -/
  | capture (number : Nat) (body : Normal)
  /-- One pattern after the other. -/
  | sequence (parts : List Normal)
  /-- One of some patterns, an earlier one being preferred. -/
  | choice (options : List Normal)
  deriving Inhabited, BEq

namespace Normal

mutual

/-- The least number of characters taken up, if there is a match at all. -/
def minLength? : Normal → Option Nat
  | empty => some 0
  | text cs => some cs.length
  | set a => if a.isEmpty then none else some 1
  | look _ => some 0
  | repeated body least _ _ => (minLength? body).map (least * ·)
  | capture _ body => minLength? body
  | sequence parts => minLengthAll? parts
  | choice options => minLengthAny? options

/-- The least number of characters that a sequence takes up. -/
def minLengthAll? : List Normal → Option Nat
  | [] => some 0
  | n :: ns => do return (← minLength? n) + (← minLengthAll? ns)

/-- The least number of characters that a choice takes up. Every option has to have one. -/
def minLengthAny? : List Normal → Option Nat
  | [] => none
  | [n] => minLength? n
  | n :: ns => do return min (← minLength? n) (← minLengthAny? ns)

end

mutual

/-- Whether a pattern takes up no character, however it matches. -/
def takesNothing : Normal → Bool
  | empty => true
  | text cs => cs.isEmpty
  | set _ => false
  | look _ => true
  | repeated body _ most _ => most == some 0 || most.isSome && takesNothing body
  | capture _ body => takesNothing body
  | sequence parts => takesNothingAll parts
  | choice options => takesNothingAll options

/-- Whether every pattern of a list takes up no character. -/
def takesNothingAll : List Normal → Bool
  | [] => true
  | n :: ns => takesNothing n && takesNothingAll ns

end

/-- A character of a set. -/
def ofSet (a : CharSet) : Normal :=
  match a.only? with
  | some c => text [c]
  | none => set a

/-- A repetition. What takes up no character matches once if it matches any number of times. -/
def repeating (body : Normal) (least : Nat) (most : Option Nat) (greedy : Bool) : Normal :=
  let (least, most) :=
    if body.takesNothing then (min least 1, some (min (most.getD 1) 1)) else (least, most)
  if most = some 0 then empty
  else if least = 1 && most = some 1 then body
  else repeated body least most greedy

/-- A sequence whose first part may be a text that follows another one. -/
def prepend (n : Normal) (ns : List Normal) : List Normal :=
  match n, ns with
  | empty, ns => ns
  | text cs, text ds :: ns => text (cs ++ ds) :: ns
  | n, ns => n :: ns

/-- The parts of a pattern as a sequence. -/
def parts : Normal → List Normal
  | empty => []
  | sequence parts => parts
  | n => [n]

/-- The options of a pattern as a choice. -/
def options : Normal → List Normal
  | choice options => options
  | n => [n]

/-- One pattern after the other. -/
def sequenceOf (ns : List Normal) : Normal :=
  match (ns.flatMap parts).foldr prepend [] with
  | [] => empty
  | [n] => n
  | ns => sequence ns

/-- The only character that a pattern stands for. -/
def char? : Normal → Option Char
  | text [c] => some c
  | _ => none

/-- The set of characters that a pattern stands for. -/
def set? : Normal → Option CharSet
  | set a => some a
  | _ => none

/-- The parts that all sequences start with. -/
def commonStart : List (List Normal) → List Normal
  | [] => []
  | [parts] => parts
  | parts :: others => shared parts (commonStart others)
where
  /-- The start of two lists as far as they are the same. -/
  shared : List Normal → List Normal → List Normal
    | m :: ms, n :: ns => if m == n then m :: shared ms ns else []
    | _, _ => []

/-- The parts of a sequence proper. -/
def sequence? : Normal → Option (List Normal)
  | sequence parts => some parts
  | _ => none

/-- One of some patterns, without a look at how they start. -/
def choiceOfAny (ns : List Normal) : Normal :=
  match ns.flatMap options with
  | [] => set []
  | [n] => n
  | ns =>
    match ns.mapM char?, ns.mapM set? with
    | some cs, _ => ofSet (CharSet.ofChars cs)
    | none, some sets => ofSet (CharSet.unionOf sets)
    | none, none => choice ns

/-- One of some patterns. -/
def choiceOf (ns : List Normal) : Normal :=
  match choiceOfAny ns with
  | choice ns =>
    match ns.mapM sequence? with
    | none => choice ns
    | some sequences =>
      match commonStart sequences with
      | [] => choice ns
      | start =>
        let rest := sequences.map fun parts => sequenceOf (parts.drop start.length)
        sequenceOf (start ++ [choiceOfAny rest])
  | n => n

mutual

/-- The normal form of a pattern. -/
def ofNode : Node → Normal
  | .empty => empty
  | .set a _ => ofSet a
  | .look a => look a
  | .sequence parts => sequenceOf (ofNodes parts)
  | .choice options => choiceOf (ofNodes options)
  | .repeated body least most greedy => repeating (ofNode body) least most greedy
  | .group none body => ofNode body
  | .group (some number) body => capture number (ofNode body)

/-- The normal forms of some patterns. -/
def ofNodes : List Node → List Normal
  | [] => []
  | n :: ns => ofNode n :: ofNodes ns

end

end Normal

end Pattern
end SurveyLogic
