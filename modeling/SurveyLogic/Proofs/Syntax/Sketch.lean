/-
# What the parser does not look at

The parser decides by the kinds of tokens and by the texts of operators and words. Where a token
stands shows in errors only, and the content of a string shows where the string is handed on. A
sketch has neither: positions are left out and the contents of strings are replaced.

| of | the sketch has |
| --- | --- |
| a token | its kind and its payload, the content of a string replaced |
| a tree | each constant text replaced |
| an error | what went wrong, and the sketch of the token at fault |

The parser makes of the sketches of some tokens the sketch of what it makes of the tokens
(`ofTokens_sketch`). So two sources whose tokens have the same sketches parse to the same expression
or fail in the same way, up to the contents of strings (`Expr.parse_congr`). If contents are
replaced by themselves, it is the same expression indeed (`Expr.sketch_id`).
-/

import SurveyLogic.Proofs.Syntax.Reading
import SurveyLogic.Syntax.Source

namespace SurveyLogic

/-- The payload of a token of some kind, replaced if it is the content of a string. -/
def Token.Payload.sketch (g : String → String) (kind : Token.Kind) :
    Token.Payload → Token.Payload
  | .text s => .text (if kind = .string then g s else s)
  | payload => payload

/-- A token without its position, the content of a string replaced. -/
def Token.sketch (g : String → String) (t : Token) : Token :=
  ⟨t.kind, t.payload.sketch g t.kind, 0⟩

/-- A constant, replaced if it is a text. -/
def Literal.sketch (g : String → String) : Literal → Literal
  | .string s => .string (g s)
  | l => l

/-- An error with the sketch of the token at fault. -/
def ParseError.sketch (g : String → String) : ParseError → ParseError
  | unexpected found => unexpected (found.sketch g)
  | expected bracket found => expected bracket (found.sketch g)
  | trailing found => trailing (found.sketch g)
  | tooDeep limit found => tooDeep limit (found.sketch g)

/-- An error without its position, the content of a string at fault replaced. -/
def SyntaxError.sketch (g : String → String) : SyntaxError → SyntaxError
  | lex e => lex ⟨e.fault, 0⟩
  | parse e => parse (e.sketch g)

namespace Expr

mutual

/-- A tree with each constant text replaced. -/
def sketch (g : String → String) : Expr → Expr
  | literal l => literal (l.sketch g)
  | var path => var path
  | unary op arg => unary op (sketch g arg)
  | binary op lhs rhs => binary op (sketch g lhs) (sketch g rhs)
  | call name args => call name (sketchAll g args)
  | array items => array (sketchAll g items)

/-- The sketch of each tree of a list. -/
def sketchAll (g : String → String) : List Expr → List Expr
  | [] => []
  | e :: es => sketch g e :: sketchAll g es

end

/-- The sketch of some trees is the sketch of each. -/
theorem sketchAll_eq_map (g : String → String) (es : List Expr) :
    sketchAll g es = es.map (sketch g) := by
  induction es with
  | nil => rfl
  | cons e es ih => rw [sketchAll, ih, List.map_cons]

mutual

/-- With every text kept, a tree is its own sketch. -/
theorem sketch_id : ∀ e : Expr, e.sketch id = e
  | literal l => by cases l <;> rfl
  | var path => rfl
  | unary op arg => by rw [sketch, sketch_id arg]
  | binary op lhs rhs => by rw [sketch, sketch_id lhs, sketch_id rhs]
  | call name args => by rw [sketch, sketchAll_id args]
  | array items => by rw [sketch, sketchAll_id items]

theorem sketchAll_id : ∀ es : List Expr, sketchAll id es = es
  | [] => rfl
  | e :: es => by rw [sketchAll, sketch_id e, sketchAll_id es]

end

end Expr

variable {g : String → String}

/-! ### Single tokens -/

/-- The sketch of a token is the same connective. -/
theorem Connective.ofToken?_sketch (t : Token) :
    Connective.ofToken? (t.sketch g) = Connective.ofToken? t := by
  obtain ⟨kind, payload, position⟩ := t
  cases payload with
  | text s =>
    simp only [Token.sketch, Token.Payload.sketch, Connective.ofToken?]
    by_cases string : kind = .string
    · subst string
      rfl
    · rw [if_neg string]
  | _ => rfl

/-- The sketch of a token is the same operator in front. -/
theorem UnaryOp.ofToken?_sketch (t : Token) :
    UnaryOp.ofToken? (t.sketch g) = UnaryOp.ofToken? t := by
  obtain ⟨kind, payload, position⟩ := t
  cases kind <;> cases payload <;> rfl

/-- The sketch of a token stands for the sketch of its tree. -/
theorem Expr.ofToken?_sketch (t : Token) :
    Expr.ofToken? (t.sketch g) = (Expr.ofToken? t).map (Expr.sketch g) := by
  obtain ⟨kind, payload, position⟩ := t
  cases kind <;> cases payload <;> rfl

namespace Parser

/-! ### The functions of the parser -/

/-- A result with its value mapped, or the sketch of its error. -/
def Result.sketch (g : String → String) {α β : Type} (f : α → β) : Result α → Result β
  | .ok a => .ok (f a)
  | .error e => .error (e.sketch g)

/-- A node with its tree sketched. -/
def Node.sketch (g : String → String) (n : Node) : Node :=
  ⟨n.expr.sketch g, n.height⟩

/-- A reading with its value mapped and the tokens behind it sketched. -/
def Reading.sketch (g : String → String) {α β : Type} (f : α → β) (r : Reading α) : Reading β :=
  (f r.1, r.2.map (.sketch g))

/-- A setting with its last token sketched. -/
def Setting.sketch (g : String → String) (s : Setting) : Setting :=
  ⟨s.limit, s.finish.sketch g⟩

/-- A parser makes of sketched tokens the sketch of what another one makes of the tokens. -/
def Follows (g : String → String) {α : Type} (f : α → α)
    (later earlier : List Token → Result (Reading α)) : Prop :=
  ∀ ts, later (ts.map (.sketch g)) = (earlier ts).sketch g (Reading.sketch g f)

/-- Steps that follow the sketches of steps follow them as a whole. -/
theorem Result.sketch_bind {α β γ δ : Type} {f : α → β} {h : γ → δ} {x : Result α}
    {y : Result β} {k : α → Result γ} {l : β → Result δ} (hx : y = x.sketch g f)
    (hk : ∀ a, l (f a) = (k a).sketch g h) : y >>= l = (x >>= k).sketch g h := by
  subst hx
  cases x with
  | ok a => exact hk a
  | error e => rfl

variable {s : Setting}

/-- The next of some sketches is the sketch of the next token. -/
theorem next_sketch (ts : List Token) :
    next (s.sketch g) (ts.map (.sketch g)) = (next s ts).sketch g := by
  cases ts <;> rfl

/-- The limit is exceeded at the sketch of the same token. -/
theorem tooDeep_sketch (ts : List Token) :
    tooDeep (s.sketch g) (ts.map (.sketch g)) = (tooDeep s ts).sketch g := by
  rw [tooDeep, next_sketch]
  rfl

/-- A bracket is passed or missed among sketches as among the tokens. -/
theorem expect_sketch (bracket : Token.Kind) (ts : List Token) :
    expect (s.sketch g) bracket (ts.map (.sketch g)) =
      (expect s bracket ts).sketch g (List.map (.sketch g)) := by
  have kind : ((next s ts).sketch g).kind = (next s ts).kind := rfl
  rw [expect, expect, next_sketch, kind]
  split
  · exact congrArg Except.ok List.map_tail.symm
  · rfl

/-- The node of a sketch has the same height, and is as often too high. -/
theorem node_sketch {e e' : Expr} (he : e' = e.sketch g) (height : Nat) (ts : List Token) :
    node (s.sketch g) e' height (ts.map (.sketch g)) =
      (node s e height ts).sketch g (Reading.sketch g (Node.sketch g)) := by
  subst he
  have limit : (s.sketch g).limit = s.limit := rfl
  rw [node, node, tooDeep_sketch, limit]
  split
  · rfl
  · rfl

/-- Sketches of nodes are as high as the nodes. -/
theorem heightAll_sketch (nodes : List Node) :
    heightAll (nodes.map (Node.sketch g)) = heightAll nodes := by
  rw [heightAll, List.foldr_map]
  rfl

/-- The trees of sketches of nodes are the sketches of their trees. -/
theorem map_expr_sketch (nodes : List Node) :
    (nodes.map (Node.sketch g)).map (·.expr) = Expr.sketchAll g (nodes.map (·.expr)) := by
  rw [Expr.sketchAll_eq_map, List.map_map, List.map_map]
  rfl

section

variable {later earlier : List Token → Result (Reading Node)}

/-- Items follow if each item does. -/
theorem follows_items (close : Token.Kind) (h : Follows g (Node.sketch g) later earlier)
    (budget : Nat) :
    Follows g (List.map (Node.sketch g)) (items (s.sketch g) later close budget)
      (items s earlier close budget) := by
  induction budget with
  | zero =>
    intro ts
    refine Result.sketch_bind (h ts) fun first => ?_
    exact Result.sketch_bind (expect_sketch close first.2) fun rest => rfl
  | succ budget ih =>
    intro ts
    refine Result.sketch_bind (h ts) fun first => ?_
    have kind : (next (s.sketch g) (first.2.map (.sketch g))).kind = (next s first.2).kind := by
      rw [next_sketch]
      rfl
    dsimp only [Reading.sketch]
    rw [kind]
    split
    · rw [← List.map_tail]
      exact Result.sketch_bind (ih first.2.tail) fun rest => rfl
    · exact Result.sketch_bind (expect_sketch close first.2) fun rest => rfl

/-- The inside of brackets follows if each item does. -/
theorem follows_list (close : Token.Kind) (h : Follows g (Node.sketch g) later earlier) :
    Follows g (List.map (Node.sketch g)) (list (s.sketch g) later close)
      (list s earlier close) := by
  intro ts
  have kind : (next (s.sketch g) (ts.map (.sketch g))).kind = (next s ts).kind := by
    rw [next_sketch]
    rfl
  rw [list, list, kind, List.length_map]
  split
  · rw [← List.map_tail]
    rfl
  · exact follows_items close h ts.length ts

/-- The sketch of a token that stands alone gives the sketch of its node, or of its error. -/
theorem leaf_sketch (t : Token) (ts : List Token) :
    (match Expr.ofToken? (t.sketch g) with
      | some e => pure (⟨e, 1⟩, ts.map (.sketch g))
      | none => throw (.unexpected (t.sketch g)) : Result (Reading Node)) =
    Result.sketch g (Reading.sketch g (Node.sketch g))
      (match Expr.ofToken? t with
        | some e => pure (⟨e, 1⟩, ts)
        | none => throw (.unexpected t)) := by
  rw [Expr.ofToken?_sketch]
  cases Expr.ofToken? t with
  | some e => rfl
  | none => rfl

/-- An operand without operators follows if what it encloses does. -/
theorem follows_primary (h : Follows g (Node.sketch g) later earlier) :
    Follows g (Node.sketch g) (primary (s.sketch g) later) (primary s earlier) := by
  intro ts
  have listed (e : List Expr → Expr) (he : ∀ es, e (Expr.sketchAll g es) = (e es).sketch g)
      (nodes : List Node) (rest : List Token) :
      node (s.sketch g) (e ((nodes.map (Node.sketch g)).map (·.expr)))
          (heightAll (nodes.map (Node.sketch g)) + 1) (rest.map (.sketch g)) =
        (node s (e (nodes.map (·.expr))) (heightAll nodes + 1) rest).sketch g
          (Reading.sketch g (Node.sketch g)) := by
    rw [heightAll_sketch]
    exact node_sketch (by rw [map_expr_sketch, he]) _ _
  rw [primary, primary]
  dsimp only
  rw [next_sketch, ← List.map_tail]
  generalize next s ts = t
  have kind : (t.sketch g).kind = t.kind := rfl
  have payload : (t.sketch g).payload = t.payload.sketch g t.kind := rfl
  rw [kind, payload]
  cases hk : t.kind with
  | leftParen =>
    refine Result.sketch_bind (h ts.tail) fun n => ?_
    exact Result.sketch_bind (expect_sketch .rightParen n.2) fun rest => rfl
  | leftBracket =>
    refine Result.sketch_bind (follows_list .rightBracket h ts.tail) fun nodes => ?_
    exact listed .array (fun _ => rfl) nodes.1 nodes.2
  | function =>
    cases hp : t.payload with
    | text name =>
      refine Result.sketch_bind (expect_sketch .leftParen ts.tail) fun rest => ?_
      refine Result.sketch_bind (follows_list .rightParen h rest) fun nodes => ?_
      exact listed (.call name) (fun _ => rfl) nodes.1 nodes.2
    | _ => exact leaf_sketch t ts.tail
  | _ => exact leaf_sketch t ts.tail

/-- An operand follows if the operand behind its operators does. -/
theorem follows_unary {laterBehind behind : List Token → Result (Reading Node)}
    (hb : Follows g (Node.sketch g) laterBehind behind)
    (h : Follows g (Node.sketch g) later earlier) :
    Follows g (Node.sketch g) (unary (s.sketch g) laterBehind later)
      (unary s behind earlier) := by
  intro ts
  rw [unary, unary, next_sketch, UnaryOp.ofToken?_sketch]
  cases UnaryOp.ofToken? (next s ts) with
  | none => exact follows_primary h ts
  | some op =>
    dsimp only
    rw [← List.map_tail]
    refine Result.sketch_bind (hb ts.tail) fun arg => ?_
    exact node_sketch (e := .unary op arg.1.expr) rfl _ arg.2

/-- A climb follows if its right operands do. -/
theorem climb_sketch {laterOperand operand : Nat → List Token → Result (Reading Node)}
    (h : ∀ k, Follows g (Node.sketch g) (laterOperand k) (operand k)) (least budget : Nat)
    (lhs : Node) (ts : List Token) :
    climb (s.sketch g) laterOperand least budget (lhs.sketch g) (ts.map (.sketch g)) =
      (climb s operand least budget lhs ts).sketch g (Reading.sketch g (Node.sketch g)) := by
  induction budget generalizing lhs ts with
  | zero => rfl
  | succ budget ih =>
    rw [climb, climb, next_sketch, Connective.ofToken?_sketch]
    cases Connective.ofToken? (next s ts) with
    | none => rfl
    | some c =>
      dsimp only
      split
      · rfl
      · rw [← List.map_tail]
        cases c with
        | check op =>
          have made := node_sketch (s := s) (g := g) (e := .unary op lhs.expr) rfl
            (lhs.height + 1) ts.tail
          exact Result.sketch_bind made fun n => ih n.1 n.2
        | binary op =>
          refine Result.sketch_bind (h _ ts.tail) fun rhs => ?_
          have made := node_sketch (s := s) (g := g) (e := .binary op lhs.expr rhs.1.expr) rfl
            (max lhs.height rhs.1.height + 1) rhs.2
          exact Result.sketch_bind made fun n => ih n.1 n.2

end

/-- The induction is on the levels left. -/
theorem follows_expr (levels : Nat) :
    Follows g (Node.sketch g) (operand (s.sketch g) levels) (operand s levels) ∧
      ∀ least, Follows g (Node.sketch g) (expr (s.sketch g) levels least)
        (expr s levels least) := by
  induction levels with
  | zero =>
    have full : Follows g (Node.sketch g) (fun ts => .error (tooDeep (s.sketch g) ts))
        fun ts => .error (tooDeep s ts) :=
      fun ts => congrArg Except.error (tooDeep_sketch ts)
    exact ⟨full, fun _ => full⟩
  | succ levels ih =>
    obtain ⟨behind, inner⟩ := ih
    refine ⟨fun ts => ?_, fun least ts => ?_⟩
    · exact follows_unary behind (inner 0) ts
    · refine Result.sketch_bind (follows_unary behind (inner 0) ts) fun lhs => ?_
      dsimp only [Reading.sketch]
      rw [List.length_map]
      exact climb_sketch inner least _ lhs.1 lhs.2

/-- The setting of sketched tokens is the sketch of the setting. -/
theorem whole_sketch (limit : Nat) (ts : List Token) :
    Setting.whole limit (ts.map (.sketch g)) = (Setting.whole limit ts).sketch g := by
  have last : ((ts.map (Token.sketch g)).getLast?.map (·.position)).getD 0 = 0 := by
    rw [List.getLast?_map, Option.map_map]
    cases ts.getLast? with
    | none => rfl
    | some t => rfl
  rw [Setting.whole, last]
  rfl

/-- **The parser makes of sketches the sketch of what it makes of the tokens.** -/
theorem ofTokens_sketch (g : String → String) (limit : Nat) (ts : List Token) :
    Expr.ofTokens limit (ts.map (.sketch g)) =
      Result.sketch g (Expr.sketch g) (Expr.ofTokens limit ts) := by
  rw [ofTokens_eq, ofTokens_eq, whole_sketch]
  refine Result.sketch_bind ((follows_expr limit).2 0 ts) fun n => ?_
  have kind : (next ((Setting.whole limit ts).sketch g) (n.2.map (.sketch g))).kind =
      (next (.whole limit ts) n.2).kind := by
    rw [next_sketch]
    rfl
  dsimp only [Reading.sketch]
  rw [kind]
  split
  · rfl
  · rw [next_sketch]
    rfl

end Parser

/-! ### Sources -/

/-- A source parses if the lexer makes tokens of it and the parser a tree of them. -/
theorem Expr.parse_eq_ok_iff {limits : Limits} {source : String} {e : Expr} :
    parse limits source = .ok e ↔
      ∃ ts, Token.tokenize source = .ok ts ∧ ofTokens limits.maxDepth ts = .ok e := by
  unfold parse
  cases Token.tokenize source with
  | error fault =>
    refine ⟨nofun, ?_⟩
    rintro ⟨ts, ⟨⟩, -⟩
  | ok ts =>
    change (ofTokens limits.maxDepth ts).mapError SyntaxError.parse = .ok e ↔ _
    constructor
    · intro h
      refine ⟨ts, rfl, ?_⟩
      cases formed : ofTokens limits.maxDepth ts with
      | error fault =>
        rw [formed] at h
        cases h
      | ok e' =>
        rw [formed] at h
        exact congrArg Except.ok (Except.ok.inj h)
    · rintro ⟨_, ⟨⟩, formed⟩
      rw [formed]
      rfl

/-- The tokens of a source as sketches, or what is wrong with it without the position. -/
def Token.sketchScanned (g : String → String) :
    Except LexError (List Token) → Except LexFault (List Token)
  | .ok ts => .ok (ts.map (.sketch g))
  | .error e => .error e.fault

/-- The tree of a source as a sketch, or the sketch of the error in it. -/
def Expr.sketchParsed (g : String → String) : Except SyntaxError Expr → Except SyntaxError Expr
  | .ok e => .ok (e.sketch g)
  | .error e => .error (e.sketch g)

/-- The sketch of what a source parses to follows from the sketches of its tokens. -/
theorem Expr.sketchParsed_parse (g : String → String) (limits : Limits) (source : String) :
    sketchParsed g (parse limits source) =
      match Token.sketchScanned g (Token.tokenize source) with
      | .ok ts => (ofTokens limits.maxDepth ts).mapError .parse
      | .error fault => .error (.lex ⟨fault, 0⟩) := by
  unfold parse
  cases Token.tokenize source with
  | error e => rfl
  | ok ts =>
    dsimp only [Token.sketchScanned]
    rw [Parser.ofTokens_sketch]
    change sketchParsed g ((ofTokens limits.maxDepth ts).mapError .parse) = _
    cases ofTokens limits.maxDepth ts with
    | error e => rfl
    | ok e => rfl

/-- **Sources whose tokens have the same sketches parse to the same sketch.** -/
theorem Expr.parse_congr {s t : String}
    (same : Token.sketchScanned g (Token.tokenize s) = Token.sketchScanned g (Token.tokenize t))
    (limits : Limits) : sketchParsed g (parse limits s) = sketchParsed g (parse limits t) := by
  rw [sketchParsed_parse, sketchParsed_parse, same]

end SurveyLogic
