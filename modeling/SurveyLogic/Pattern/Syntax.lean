/-
# Patterns

The syntax tree of a pattern. A set of characters is given by its ranges. Groups that capture are
numbered by their opening brackets from 1 on.
-/

import SurveyLogic.Pattern.CharSet

namespace SurveyLogic
namespace Pattern

/-- A condition on a position in a text that takes up no character. -/
inductive Assertion where
  /-- The start of the text. -/
  | textStart
  /-- The end of the text. -/
  | textEnd
  /-- The start of the text or of a line; `crlf` lets carriage returns end lines too. -/
  | lineStart (crlf : Bool)
  /-- The end of the text or of a line. -/
  | lineEnd (crlf : Bool)
  /-- Between a character of words and another one or an end, and nowhere else. -/
  | wordEdge (word : CharSet)
  /-- Anywhere but at the edge of a word. -/
  | noWordEdge (word : CharSet)
  /-- A character of words on the right and none on the left. -/
  | wordStart (word : CharSet)
  /-- A character of words on the left and none on the right. -/
  | wordEnd (word : CharSet)
  /-- No character of words on the left. -/
  | wordStartHalf (word : CharSet)
  /-- No character of words on the right. -/
  | wordEndHalf (word : CharSet)
  deriving DecidableEq

/-- A pattern. -/
inductive Node where
  /-- The empty text. -/
  | empty
  /-- One character of a set, written with brackets that are `nesting` deep. -/
  | set (a : CharSet) (nesting : Nat)
  /-- The empty text where a condition holds. -/
  | look (a : Assertion)
  /-- One pattern after the other. -/
  | sequence (parts : List Node)
  /-- One of some patterns, an earlier one being preferred. -/
  | choice (options : List Node)
  /-- A number of repetitions; more are preferred if `greedy`, and else fewer. -/
  | repeated (body : Node) (least : Nat) (most : Option Nat) (greedy : Bool)
  /-- A group, which captures if it has a number. -/
  | group (number : Option Nat) (body : Node)
  deriving Inhabited

namespace Node

mutual

/-- How deep sets in brackets, groups, repetitions, sequences and choices are nested. -/
def depth : Node → Nat
  | empty => 0
  | set _ nesting => nesting
  | look _ => 0
  | sequence parts => 1 + depthAll parts
  | choice options => 1 + depthAll options
  | repeated body _ _ _ => 1 + depth body
  | group _ body => 1 + depth body

/-- The greatest depth in a list. -/
def depthAll : List Node → Nat
  | [] => 0
  | n :: ns => max (depth n) (depthAll ns)

end

end Node

/-- A pattern with the names of its capturing groups. -/
structure Parsed where
  node : Node
  /-- The number of capturing groups. -/
  groups : Nat
  /-- The names of groups with their numbers. -/
  names : List (String × Nat)

/-- Why a text is no pattern. -/
inductive Problem where
  | badEscape
  | badClass
  | badFlags
  | badGroup
  | badGroupName
  | badProperty
  | badRepetition
  | lookAround
  | nothingToRepeat
  | notText
  | tooDeep
  | tooLarge
  deriving DecidableEq, Repr

/-- The wording of a problem. -/
def Problem.message : Problem → String
  | badEscape => "invalid escape sequence"
  | badClass => "invalid character class"
  | badFlags => "invalid flags"
  | badGroup => "unbalanced group"
  | badGroupName => "invalid group name"
  | badProperty => "unknown character property"
  | badRepetition => "invalid repetition count"
  | lookAround => "look-around is not supported"
  | nothingToRepeat => "repetition operator without an operand"
  | notText => "the pattern could match what is not text"
  | tooDeep => "the pattern is nested too deeply"
  | tooLarge => "the pattern is too large"

end Pattern
end SurveyLogic
