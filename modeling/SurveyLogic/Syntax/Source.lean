/-
# The source text of an expression

Reading a source into its tree, and the check for its author. A blank source is valid: it stands for
no condition at all.
-/

import SurveyLogic.Syntax.Parser
import SurveyLogic.Token.Lexer

namespace SurveyLogic

/-- Why a source is not an expression. -/
inductive SyntaxError where
  | lex (e : LexError)
  | parse (e : ParseError)

namespace SyntaxError

/-- The position of the offending character. -/
def position : SyntaxError → Nat
  | lex e => e.position
  | parse e => e.position

/-- The wording of an error. -/
def message : SyntaxError → String
  | lex e => e.message
  | parse e => e.message

end SyntaxError

/-- The bound on nesting and height. -/
structure Limits where
  maxDepth : Nat := 128
  deriving DecidableEq, Repr

namespace Expr

/-- The tree of a source. -/
def parse (limits : Limits) (source : String) : Except SyntaxError Expr := do
  let ts ← (Token.tokenize source).mapError .lex
  (ofTokens limits.maxDepth ts).mapError .parse

/-- The error in a source, if it is neither blank nor an expression. -/
def syntaxError? (limits : Limits) (source : String) : Option SyntaxError :=
  if Text.isBlankText source then none
  else
    match parse limits source with
    | .ok _ => none
    | .error e => some e

end Expr
end SurveyLogic
