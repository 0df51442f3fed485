/-
# Tokens

A token has a kind, a payload and the position of its first character in the source. The lexer
gives each kind a payload of its own, but a list of tokens may come from elsewhere and pair any kind
with any payload; such a token can be displayed, and the parser refuses it.

| kind | payload from the lexer |
| --- | --- |
| number, string | its value |
| boolean | a truth value, or null |
| reference, function | the name |
| operator, comparison, logical | the sign or the word in lower case |
| punctuation, end | none |
-/

import SurveyLogic.Number.Format

namespace SurveyLogic

namespace Token

/-- The kinds of tokens. A `reference` is a variable, in braces or bare. -/
inductive Kind where
  | number
  | string
  | boolean
  | reference
  | function
  | operator
  | comparison
  | logical
  | leftParen
  | rightParen
  | leftBracket
  | rightBracket
  | comma
  | dot
  | eof
  deriving DecidableEq, Repr

/-- What a token carries. -/
inductive Payload where
  | none
  | null
  | bool (b : Bool)
  | number (x : Float)
  | text (s : String)

/-- The name of a kind. -/
def Kind.name : Kind → String
  | number => "Number"
  | string => "String"
  | boolean => "Boolean"
  | reference => "Variable"
  | function => "Function"
  | operator => "Operator"
  | comparison => "Comparison"
  | logical => "Logical"
  | leftParen => "LParen"
  | rightParen => "RParen"
  | leftBracket => "LBracket"
  | rightBracket => "RBracket"
  | comma => "Comma"
  | dot => "Dot"
  | eof => "Eof"

/-- All kinds. -/
def Kind.all : List Kind :=
  [number, string, boolean, reference, function, operator, comparison, logical, leftParen,
    rightParen, leftBracket, rightBracket, comma, dot, eof]

/-- The kind of a given name. -/
def Kind.ofName? (s : String) : Option Kind :=
  all.find? (·.name == s)

/-- The sign of a punctuation kind, the name of any other. -/
def Kind.sign : Kind → String
  | leftParen => "("
  | rightParen => ")"
  | leftBracket => "["
  | rightBracket => "]"
  | comma => ","
  | dot => "."
  | kind => kind.name

/-- Whether a minus sign behind such a token is an operator rather than the sign of a number. -/
def Kind.endsOperand : Kind → Bool
  | number | string | boolean | reference | rightParen | rightBracket => true
  | _ => false

end Token

/-- A token at a position of the source, counted in characters. -/
structure Token where
  kind : Token.Kind
  payload : Token.Payload
  position : Nat

namespace Token

/-- The end of the source. -/
def atEnd (position : Nat) : Token :=
  ⟨.eof, .none, position⟩

/-- The text of a token in messages. -/
def display (t : Token) : String :=
  match t.kind, t.payload with
  | .eof, _ => "end of input"
  | .reference, .text s => "\x7b" ++ s ++ "\x7d"
  | .string, .text s => "'" ++ s ++ "'"
  | _, .text s => s
  | _, .number x => Number.plain x
  | _, .bool b => if b then "true" else "false"
  | _, .null => "null"
  | kind, .none => kind.sign

end Token
end SurveyLogic
