/-
# From tokens to expressions

```
expr    ::= unary ( binop unary | 'empty' | 'notempty' )*      grouped by level, to the left
unary   ::= ( 'not' | '-' )* primary
primary ::= '(' expr ')' | FUNCTION '(' [ expr ( ',' expr )* ] ')' | '[' [ expr ( ',' expr )* ] ']'
          | REFERENCE | NUMBER | STRING | BOOLEAN
```

A limit bounds two things at once. An expression may not be higher than the limit, and no more
expressions and prefix operators than that may be open at a time. The second count is carried as the
number of levels left: opening an expression or passing a prefix operator needs a level and leaves
one less inside. The first is checked whenever a node is made, at the token after it.
-/

import SurveyLogic.Expr.Basic
import SurveyLogic.Token.Basic

namespace SurveyLogic

/-- Why tokens do not form an expression, with the token at fault. -/
inductive ParseError where
  /-- A token that starts no operand stands where one is needed. -/
  | unexpected (found : Token)
  /-- Another token stands where a bracket is needed. -/
  | expected (bracket : Token.Kind) (found : Token)
  /-- A token follows a whole expression. -/
  | trailing (found : Token)
  /-- The limit is exceeded; `found` is the next token. -/
  | tooDeep (limit : Nat) (found : Token)

namespace ParseError

/-- The token at fault. -/
def found : ParseError → Token
  | unexpected t => t
  | expected _ t => t
  | trailing t => t
  | tooDeep _ t => t

/-- Where the token at fault stands. -/
def position (e : ParseError) : Nat :=
  e.found.position

/-- The wording of an error. -/
def message (e : ParseError) : String :=
  let what :=
    match e with
    | unexpected t => "unexpected token " ++ t.display
    | expected bracket t => "expected '" ++ bracket.sign ++ "', found " ++ t.display
    | trailing t => "unexpected " ++ t.display ++ " after complete expression"
    | tooDeep limit _ => "expression nested deeper than " ++ toString limit ++ " levels"
  what ++ " at position " ++ toString e.position

end ParseError

/-- What may follow an operand: an operator and another operand, or a check of emptiness. -/
inductive Connective where
  | binary (op : BinaryOp)
  | check (op : UnaryOp)
  deriving DecidableEq, Repr

namespace Connective

/-- The level on which it binds. -/
def precedence : Connective → Nat
  | binary op => op.precedence
  | check _ => suffixPrecedence

/-- The connective that a token of a kind with a text stands for. -/
def ofText? (kind : Token.Kind) (s : String) : Option Connective :=
  match kind with
  | .operator =>
    match s with
    | "+" => some (binary .add)
    | "-" => some (binary .sub)
    | "*" => some (binary .mul)
    | "/" => some (binary .div)
    | "%" => some (binary .mod)
    | "^" => some (binary .pow)
    | _ => none
  | .comparison =>
    match s with
    | "=" | "==" => some (binary .eq)
    | "<>" | "!=" => some (binary .ne)
    | "<" => some (binary .lt)
    | "<=" => some (binary .le)
    | ">" => some (binary .gt)
    | ">=" => some (binary .ge)
    | "contains" => some (binary .contains)
    | "notcontains" => some (binary .notContains)
    | "anyof" => some (binary .anyOf)
    | "allof" => some (binary .allOf)
    | "empty" => some (check .empty)
    | "notempty" => some (check .notEmpty)
    | _ => none
  | .logical =>
    match s with
    | "and" => some (binary .and)
    | "or" => some (binary .or)
    | _ => none
  | _ => none

/-- The connective that a token stands for. -/
def ofToken? (t : Token) : Option Connective :=
  match t.payload with
  | .text s => ofText? t.kind s
  | _ => none

end Connective

/-- The operator that a token in front of an operand stands for. -/
def UnaryOp.ofToken? (t : Token) : Option UnaryOp :=
  match t.kind, t.payload with
  | .logical, .text "not" => some .not
  | .operator, .text "-" => some .negate
  | _, _ => none

/-- The expression that a single token stands for. -/
def Expr.ofToken? (t : Token) : Option Expr :=
  match t.kind, t.payload with
  | .reference, .text name => some (.var name)
  | .number, .number x => some (.literal (.number x))
  | .string, .text s => some (.literal (.string s))
  | .boolean, .bool b => some (.literal (.bool b))
  | .boolean, .null => some (.literal .null)
  | _, _ => none

namespace Parser

/-- An expression with its height. -/
structure Node where
  expr : Expr
  height : Nat

/-- The greatest height in a list; 0 for an empty list. -/
def heightAll (nodes : List Node) : Nat :=
  nodes.foldr (fun n h => max n.height h) 0

/-- What a parser reads from some tokens: a result and the tokens after it. -/
abbrev Reading (α : Type) := α × List Token

/-- The reading of a parser, or its error. -/
abbrev Result := Except ParseError

/-- What stays the same during a run: the limit, and the token that is read past the last one. -/
structure Setting where
  limit : Nat
  finish : Token

variable (s : Setting)

/-- The next token. -/
def next (ts : List Token) : Token :=
  ts.headD s.finish

/-- The error of exceeding the limit in front of `ts`. -/
def tooDeep (ts : List Token) : ParseError :=
  .tooDeep s.limit (next s ts)

/-- The tokens behind a bracket, if it comes next. -/
def expect (bracket : Token.Kind) (ts : List Token) : Result (List Token) :=
  if (next s ts).kind = bracket then .ok ts.tail else .error (.expected bracket (next s ts))

/-- A new node in front of `ts`, unless it is too high. -/
def node (expr : Expr) (height : Nat) (ts : List Token) : Result (Reading Node) :=
  if s.limit < height then .error (tooDeep s ts) else .ok (⟨expr, height⟩, ts)

/-- Expressions with commas between them and the bracket that closes them, at least one expression.
`item` reads one of them; each further one takes up a token, so `budget` need not exceed the number
of tokens. -/
def items (item : List Token → Result (Reading Node)) (close : Token.Kind) :
    (budget : Nat) → List Token → Result (Reading (List Node))
  | 0, ts => do
    let (first, ts) ← item ts
    return ([first], ← expect s close ts)
  | budget + 1, ts => do
    let (first, ts) ← item ts
    if (next s ts).kind = .comma then
      let (rest, ts) ← items item close budget ts.tail
      return (first :: rest, ts)
    else return ([first], ← expect s close ts)

/-- The inside of a pair of brackets up to the closing one, which may follow at once. -/
def list (item : List Token → Result (Reading Node)) (close : Token.Kind) (ts : List Token) :
    Result (Reading (List Node)) :=
  if (next s ts).kind = close then .ok ([], ts.tail) else items s item close ts.length ts

/-- An operand without operators outside brackets; `inner` reads a whole expression inside them. -/
def primary (inner : List Token → Result (Reading Node)) (ts : List Token) :
    Result (Reading Node) := do
  let t := next s ts
  let ts := ts.tail
  match t.kind, t.payload with
  | .leftParen, _ =>
    let (n, ts) ← inner ts
    return (n, ← expect s .rightParen ts)
  | .leftBracket, _ =>
    let (nodes, ts) ← list s inner .rightBracket ts
    node s (.array (nodes.map (·.expr))) (heightAll nodes + 1) ts
  | .function, .text name =>
    let ts ← expect s .leftParen ts
    let (nodes, ts) ← list s inner .rightParen ts
    node s (.call name (nodes.map (·.expr))) (heightAll nodes + 1) ts
  | _, _ =>
    match Expr.ofToken? t with
    | some e => return (⟨e, 1⟩, ts)
    | none => throw (.unexpected t)

/-- An operand with the operators in front of it; `behind` reads what follows one of these. -/
def unary (behind inner : List Token → Result (Reading Node)) (ts : List Token) :
    Result (Reading Node) :=
  match UnaryOp.ofToken? (next s ts) with
  | none => primary s inner ts
  | some op => do
    let (arg, ts) ← behind ts.tail
    node s (.unary op arg.expr) (arg.height + 1) ts

/-- The connectives of level `least` or tighter that follow `lhs`, each taken with its right
operand, which `operand` reads from a given level on. Each takes up a token, so `budget` need not
exceed the number of tokens. -/
def climb (operand : Nat → List Token → Result (Reading Node)) (least : Nat) :
    (budget : Nat) → Node → List Token → Result (Reading Node)
  | 0, lhs, ts => .ok (lhs, ts)
  | budget + 1, lhs, ts =>
    match Connective.ofToken? (next s ts) with
    | none => .ok (lhs, ts)
    | some c =>
      if c.precedence < least then .ok (lhs, ts)
      else
        match c with
        | .check op => do
          let (n, ts) ← node s (.unary op lhs.expr) (lhs.height + 1) ts.tail
          climb operand least budget n ts
        | .binary op => do
          let (rhs, ts) ← operand (op.precedence + 1) ts.tail
          let (n, ts) ← node s (.binary op lhs.expr rhs.expr) (max lhs.height rhs.height + 1) ts
          climb operand least budget n ts

mutual

/-- An operand with the operators in front of it, given the levels left. -/
def operand : (levels : Nat) → List Token → Result (Reading Node)
  | 0, ts => .error (tooDeep s ts)
  | levels + 1, ts => unary s (operand levels) (expr levels 0) ts

/-- An expression of connectives of level `least` or tighter, given the levels left. -/
def expr : (levels : Nat) → (least : Nat) → List Token → Result (Reading Node)
  | 0, _, ts => .error (tooDeep s ts)
  | levels + 1, least, ts => do
    let (lhs, ts) ← unary s (operand levels) (expr levels 0) ts
    climb s (expr levels) least ts.length lhs ts

end

end Parser

/-- The expression that the tokens form, if it keeps to the limit. The tokens need not end with the
end of the source: past the last of them the end is read at its position. -/
def Expr.ofTokens (limit : Nat) (ts : List Token) : Except ParseError Expr := do
  let s : Parser.Setting := ⟨limit, Token.atEnd ((ts.getLast?.map (·.position)).getD 0)⟩
  let (n, rest) ← Parser.expr s limit 0 ts
  if (Parser.next s rest).kind = .eof then return n.expr
  else throw (.trailing (Parser.next s rest))

end SurveyLogic
