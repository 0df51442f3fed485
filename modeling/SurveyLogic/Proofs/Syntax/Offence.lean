/-
# The first token at fault

An error of the parser that is not about the limit names the first token that spoils the text: the
tokens before it can be completed to an expression, and with it they cannot, whatever comes after.

The parser looks at one token at a time, so what it has read stays read when the tokens behind
change (`Reads.replace`), and it reads in one way only (`Reads.unary_unique`, `Reads.expr_unique`).
A phrase is blocked at a token if it can be completed before it and never read past it (`Blocks`).
Each error starts at a token where the phrase in hand is blocked, and a phrase whose part is blocked
is blocked there too (`Blocks.lift`):

| the parser stands | a completion | spoiled by |
| --- | --- | --- |
| where an operand starts | a constant | what starts none |
| behind a function | `( )` | what is not `(` |
| behind an operand in parentheses | `)` | what is neither a connective nor `)` |
| behind an item of a list | the closing bracket | what is no connective, comma or closing bracket |
| behind a whole expression | nothing | what is no connective |
-/

import SurveyLogic.Proofs.Syntax.Grammar
import SurveyLogic.Syntax.Source

namespace SurveyLogic

/-- The error is that the limit is exceeded. -/
def ParseError.IsTooDeep (e : ParseError) : Prop :=
  ∃ limit found, e = .tooDeep limit found

namespace Parser

/-! ### What is read stays read -/

/-- The level of the connectives that a phrase ends with, if it does: the token behind it decides
where it ends. -/
def Phrase.level? : Phrase → Option Nat
  | climb least _ _ | expr least _ => some least
  | _ => none

/-- Behind a phrase that ends with connectives, none of its level follows. -/
theorem Reads.stops {p : Phrase} {ts rest : List Token} (h : Reads p ts rest) {least : Nat}
    (hl : least ∈ p.level?) : Stops least rest := by
  induction h with
  | stop h =>
    cases hl
    exact h
  | check _ _ _ ih | binary _ _ _ _ _ ih | expr _ _ _ ih => exact ih hl
  | _ => cases hl

/-- What stops the connectives in front of other tokens depends on the next one only. -/
theorem stops_append {used rest other : List Token} {least : Nat} (h : Stops least (used ++ rest))
    (hother : Stops least other) : Stops least (used ++ other) := by
  cases used with
  | nil => exact hother
  | cons t used => exact h

/-- **What is read stays read** in front of any other tokens that stop its connectives. -/
theorem Reads.replace {p : Phrase} {ts rest : List Token} (h : Reads p ts rest) :
    ∃ used, ts = used ++ rest ∧ ∀ other, (∀ least ∈ p.level?, Stops least other) →
      Reads p (used ++ other) other := by
  induction h with
  | @token t e rest ht => exact ⟨[t], rfl, fun other _ => .token ht⟩
  | @paren t c e ts rest ht h hc ih =>
    obtain ⟨used, rfl, hused⟩ := ih
    refine ⟨t :: (used ++ [c]), by simp, fun other _ => ?_⟩
    have hinner := hused (c :: other) fun least _ => stops_of_kind (.inl hc) least other
    simpa using Reads.paren ht hinner hc
  | @array t es ts rest ht h ih =>
    obtain ⟨used, rfl, hused⟩ := ih
    exact ⟨t :: used, rfl, fun other _ => .array ht (hused other nofun)⟩
  | @call f t name es ts rest hf hname ht h ih =>
    obtain ⟨used, rfl, hused⟩ := ih
    exact ⟨f :: t :: used, rfl, fun other _ => .call hf hname ht (hused other nofun)⟩
  | operand h ih =>
    obtain ⟨used, rfl, hused⟩ := ih
    exact ⟨used, rfl, fun other _ => .operand (hused other nofun)⟩
  | @inFront t op e ts rest ht h ih =>
    obtain ⟨used, rfl, hused⟩ := ih
    exact ⟨t :: used, rfl, fun other _ => .inFront ht (hused other nofun)⟩
  | @stop least lhs ts h => exact ⟨[], rfl, fun other hother => .stop (hother least rfl)⟩
  | @check t op least lhs e ts rest ht hl h ih =>
    obtain ⟨used, rfl, hused⟩ := ih
    exact ⟨t :: used, rfl, fun other hother => .check ht hl (hused other hother)⟩
  | @binary t op least lhs rhs e ts mid rest ht hl hr h ihr ih =>
    obtain ⟨used, rfl, hused⟩ := ih
    obtain ⟨right, rfl, hright⟩ := ihr
    refine ⟨t :: (right ++ used), by simp, fun other hother => ?_⟩
    -- The right operand ends in front of looser connectives only.
    have hrhs := hright (used ++ other) fun least' hl' => by
      cases hl'
      exact stops_append (hr.stops rfl) (stops_mono (Nat.le_succ_of_le hl) (hother least rfl))
    simpa using Reads.binary ht hl hrhs (hused other hother)
  | @expr least lhs e ts mid rest hu hc ihu ihc =>
    obtain ⟨used, rfl, hused⟩ := ihc
    obtain ⟨left, rfl, hleft⟩ := ihu
    refine ⟨left ++ used, by simp, fun other hother => ?_⟩
    have hlhs := hleft (used ++ other) nofun
    simpa using Reads.expr hlhs (hused other hother)
  | @last c close e ts rest h hc ih =>
    obtain ⟨used, rfl, hused⟩ := ih
    refine ⟨used ++ [c], by simp, fun other _ => ?_⟩
    have hitem := hused (c :: other) fun least hl => h.stops hl
    simpa using Reads.last hitem hc
  | @more c close e es ts mid rest h hc hs ih ihs =>
    obtain ⟨items, rfl, hitems⟩ := ihs
    obtain ⟨used, rfl, hused⟩ := ih
    refine ⟨used ++ c :: items, by simp, fun other _ => ?_⟩
    have hfirst := hused (c :: (items ++ other)) fun least hl => h.stops hl
    simpa using Reads.more hfirst hc (hitems other nofun)
  | @empty c close rest hc => exact ⟨[c], rfl, fun other _ => .empty hc⟩
  | some h ih =>
    obtain ⟨used, rfl, hused⟩ := ih
    exact ⟨used, rfl, fun other _ => .some (hused other nofun)⟩

/-! ### There is one way to read

The parser is a function, and every reading is what it returns under a limit that is high enough. -/

/-- Tokens have one reading at most as an operand. -/
theorem Reads.unary_unique {e e' : Expr} {ts rest rest' : List Token}
    (h : Reads (.unary e) ts rest) (h' : Reads (.unary e') ts rest') : e = e' ∧ rest = rest' := by
  let s : Setting := ⟨ts.length, Token.atEnd 0⟩
  have hroom : 0 + ts.length ≤ s.limit := by simp [s]
  have hfound := h.found (s := s) rfl hroom ts.length (Nat.le_refl _)
  have hfound' := h'.found (s := s) rfl hroom ts.length (Nat.le_refl _)
  rw [hfound] at hfound'
  have hsame : (Node.of e, rest) = (Node.of e', rest') := Except.ok.inj hfound'
  exact ⟨congrArg (·.1.expr) hsame, congrArg (·.2) hsame⟩

/-- Tokens have one reading at most as an expression of a level. -/
theorem Reads.expr_unique {least : Nat} {e e' : Expr} {ts rest rest' : List Token}
    (h : Reads (.expr least e) ts rest) (h' : Reads (.expr least e') ts rest') :
    e = e' ∧ rest = rest' := by
  let s : Setting := ⟨ts.length, Token.atEnd 0⟩
  have hroom : 0 + ts.length ≤ s.limit := by simp [s]
  have hfound := h.found (s := s) rfl hroom (ts.length + 1) (Nat.lt_succ_self _)
  have hfound' := h'.found (s := s) rfl hroom (ts.length + 1) (Nat.lt_succ_self _)
  rw [hfound] at hfound'
  have hsame : (Node.of e, rest) = (Node.of e', rest') := Except.ok.inj hfound'
  exact ⟨congrArg (·.1.expr) hsame, congrArg (·.2) hsame⟩

/-! ### Blocked phrases -/

/-- A phrase that starts with `before` is blocked at `t`: tokens of the lexer complete it to one
that ends in front of any token that is no connective, and no tokens behind `t` do. -/
structure Blocks {α : Type} (p : α → Phrase) (before : List Token) (t : Token) : Prop where
  completes : ∃ more, (∀ u ∈ more, u.Lexed) ∧ ∃ x, ∀ rest, Stops 0 rest →
    Reads (p x) (before ++ (more ++ rest)) rest
  spoiled : ∀ x after rest, ¬ Reads (p x) (before ++ t :: after) rest

section
variable {α β : Type} {p : α → Phrase} {q : β → Phrase} {before : List Token} {t : Token}

/-- **A phrase is blocked where its part is.** Behind `front` the part comes next, in any reading
(`only`), and behind a completed part `back` completes the whole (`build`). -/
theorem Blocks.lift (h : Blocks q before t) (front back : List Token)
    (lexed : ∀ u ∈ back, u.Lexed) (stops : ∀ rest, Stops 0 rest → Stops 0 (back ++ rest))
    (build : ∀ y, ∃ x, ∀ us rest, Stops 0 rest → Reads (q y) (before ++ us) (back ++ rest) →
      Reads (p x) (front ++ (before ++ us)) rest)
    (only : ∀ x after rest, Reads (p x) (front ++ (before ++ t :: after)) rest →
      ∃ y rest', Reads (q y) (before ++ t :: after) rest') :
    Blocks p (front ++ before) t := by
  obtain ⟨⟨more, hmore, y, hy⟩, spoiled⟩ := h
  obtain ⟨x, hx⟩ := build y
  refine ⟨⟨more ++ back, List.forall_mem_append.2 ⟨hmore, lexed⟩, x, fun rest hrest => ?_⟩,
    fun x after rest hread => ?_⟩
  · have hpart := hy (back ++ rest) (stops rest hrest)
    have hwhole := hx (more ++ (back ++ rest)) rest hrest hpart
    simpa using hwhole
  · rw [List.append_assoc] at hread
    obtain ⟨y, rest', hpart⟩ := only x after rest hread
    exact spoiled y after rest' hpart

/-- A phrase is blocked where its part is, if nothing completes the whole but the part. -/
theorem Blocks.liftLast (h : Blocks q before t) (front : List Token)
    (build : ∀ y, ∃ x, ∀ us rest, Stops 0 rest → Reads (q y) (before ++ us) rest →
      Reads (p x) (front ++ (before ++ us)) rest)
    (only : ∀ x after rest, Reads (p x) (front ++ (before ++ t :: after)) rest →
      ∃ y rest', Reads (q y) (before ++ t :: after) rest') :
    Blocks p (front ++ before) t :=
  h.lift front [] nofun (fun _ hrest => hrest) build only

end

/-- A closing bracket. -/
def closer (close : Token.Kind) : Token :=
  ⟨close, .none, 0⟩

/-- The lexer makes every closing bracket. -/
theorem closer_lexed {close : Token.Kind} (h : closes close = true) :
    ∀ u ∈ [closer close], u.Lexed := by
  intro u hu
  obtain rfl := List.mem_singleton.1 hu
  cases close with
  | rightParen | rightBracket => trivial
  | _ => cases h

/-- Connectives of every level stop at a closing bracket. -/
theorem closer_stops {close : Token.Kind} (h : closes close = true) (rest : List Token) :
    Stops 0 (closer close :: rest) := by
  refine stops_of_kind ?_ 0 rest
  cases close with
  | rightParen => exact .inl rfl
  | rightBracket => exact .inr (.inl rfl)
  | _ => cases h

variable {before ts rest : List Token} {t f c : Token} {close : Token.Kind} {e lhs : Expr}
  {least : Nat}

/-! #### Operands -/

/-- An operand is blocked at once at a token that starts none. -/
theorem blocks_operand (hparen : t.kind ≠ .leftParen) (harray : t.kind ≠ .leftBracket)
    (hcall : ∀ name, t.kind = .function → t.payload ≠ .text name)
    (hleaf : Expr.ofToken? t = none) : Blocks .primary [] t := by
  refine ⟨⟨[⟨.boolean, .null, 0⟩], by simp [Token.Lexed, Token.Suits], .literal .null,
    fun rest _ => .token rfl⟩, fun e after rest h => ?_⟩
  cases h with
  | token ht => simp [hleaf] at ht
  | paren ht => exact hparen ht
  | array ht => exact harray ht
  | call hf hname => exact hcall _ hf hname

/-- An operand that starts with a parenthesis is an expression in parentheses. -/
theorem Reads.of_paren (ht : t.kind = .leftParen) (h : Reads (.primary e) (t :: ts) rest) :
    ∃ c, c.kind = .rightParen ∧ Reads (.expr 0 e) ts (c :: rest) := by
  cases h with
  | token hleaf => simp [Expr.ofToken?, ht] at hleaf
  | paren _ hinner hc => exact ⟨_, hc, hinner⟩
  | array hk => simp [ht] at hk
  | call hk => simp [ht] at hk

/-- An operand that starts with a square bracket is an array. -/
theorem Reads.of_array (ht : t.kind = .leftBracket) (h : Reads (.primary e) (t :: ts) rest) :
    ∃ es, Reads (.list .rightBracket es) ts rest := by
  cases h with
  | token hleaf => simp [Expr.ofToken?, ht] at hleaf
  | paren hk => simp [ht] at hk
  | array _ hes => exact ⟨_, hes⟩
  | call hk => simp [ht] at hk

/-- An operand that starts with a function is a call. -/
theorem Reads.of_call (hf : f.kind = .function) (h : Reads (.primary e) (f :: ts) rest) :
    ∃ t us es, ts = t :: us ∧ t.kind = .leftParen ∧ Reads (.list .rightParen es) us rest := by
  cases h with
  | token hleaf => simp [Expr.ofToken?, hf] at hleaf
  | paren hk => simp [hf] at hk
  | array hk => simp [hf] at hk
  | call _ _ ht hes => exact ⟨_, _, _, rfl, ht, hes⟩

/-- Parentheses are blocked where the expression inside is. -/
theorem Blocks.paren (h : Blocks (.expr 0) before t) (hf : f.kind = .leftParen) :
    Blocks .primary (f :: before) t := by
  refine h.lift [f] [closer .rightParen] (closer_lexed rfl) (fun rest _ => closer_stops rfl rest)
    (fun e => ⟨e, fun us rest _ hread => .paren hf hread rfl⟩) (fun e after rest hread => ?_)
  obtain ⟨c, -, hinner⟩ := hread.of_paren hf
  exact ⟨e, c :: rest, hinner⟩

/-- An array is blocked where its items are. -/
theorem Blocks.array (h : Blocks (.list .rightBracket) before t) (hf : f.kind = .leftBracket) :
    Blocks .primary (f :: before) t := by
  refine h.liftLast [f] (fun es => ⟨.array es, fun us rest _ hread => .array hf hread⟩)
    (fun e after rest hread => ?_)
  obtain ⟨es, hes⟩ := hread.of_array hf
  exact ⟨es, rest, hes⟩

/-- A call is blocked where its arguments are. -/
theorem Blocks.call {name : String} (h : Blocks (.list .rightParen) before t)
    (hf : f.kind = .function) (hname : f.payload = .text name) (hc : c.kind = .leftParen) :
    Blocks .primary (f :: c :: before) t := by
  refine h.liftLast [f, c]
    (fun es => ⟨.call name es, fun us rest _ hread => .call hf hname hc hread⟩)
    (fun e after rest hread => ?_)
  obtain ⟨_, _, es, ⟨⟩, -, hes⟩ := hread.of_call hf
  exact ⟨es, rest, hes⟩

/-- A function without its parentheses. -/
theorem blocks_function {name : String} (hf : f.kind = .function) (hname : f.payload = .text name)
    (ht : t.kind ≠ .leftParen) : Blocks .primary [f] t := by
  refine ⟨⟨[⟨.leftParen, .none, 0⟩, closer .rightParen], ?_, .call name [], fun rest _ =>
    .call hf hname rfl (.empty rfl)⟩, fun e after rest hread => ?_⟩
  · simp [Token.Lexed, Token.Suits, closer]
  · obtain ⟨_, _, _, ⟨⟩, hparen, -⟩ := hread.of_call hf
    exact ht hparen

/-! #### Behind an expression -/

/-- Where an expression has been read, what stands before its end is a reading of it in front of
whatever stops it, and the only one if the same token comes next. -/
theorem Reads.settled {s : Setting} (hs : s.finish.kind = .eof)
    (h : Reads (.expr least e) ts rest) :
    ∃ used, ts = used ++ rest ∧
      (∀ other, Stops least other → Reads (.expr least e) (used ++ other) other) ∧
      ∀ after e' rest', Reads (.expr least e') (used ++ next s rest :: after) rest' →
        e' = e ∧ rest' = next s rest :: after := by
  obtain ⟨used, rfl, hused⟩ := h.replace
  have hgoes (other : List Token) (hother : Stops least other) :
      Reads (.expr least e) (used ++ other) other :=
    hused other fun least' hl => by
      cases hl
      exact hother
  refine ⟨used, rfl, hgoes, fun after e' rest' hread => hread.expr_unique (hgoes _ ?_)⟩
  cases rest with
  | nil => exact stops_of_kind (.inr (.inr (.inr hs))) least after
  | cons t rest => exact h.stops rfl

/-! #### Operators -/

/-- Behind an operator in front, the whole is blocked where the operand is. -/
theorem Blocks.inFront {op : UnaryOp} (h : Blocks .unary before t)
    (hc : UnaryOp.ofToken? c = some op) : Blocks .unary (c :: before) t := by
  refine h.liftLast [c] (fun e => ⟨.unary op e, fun us rest _ hread => .inFront hc hread⟩)
    (fun e after rest hread => ?_)
  cases hread with
  | operand hread =>
    have hnone := hread.primary_head.2
    rw [hc] at hnone
    cases hnone
  | inFront _ hread => exact ⟨_, _, hread⟩

/-- Behind a check, a climb is blocked where the climb from the checked operand is. -/
theorem Blocks.check {op : UnaryOp} (h : Blocks (.climb least (.unary op lhs)) before t)
    (hc : Connective.ofToken? c = some (.check op)) (hl : least ≤ suffixPrecedence) :
    Blocks (.climb least lhs) (c :: before) t := by
  refine h.liftLast [c] (fun e => ⟨e, fun us rest _ hread => .check hc hl hread⟩)
    (fun e after rest hread => ?_)
  cases hread with
  | stop hstop => exact absurd ((stops_cons hc).1 hstop) (Nat.not_lt.2 hl)
  | check ht _ hread =>
    rw [hc] at ht
    cases ht
    exact ⟨_, _, hread⟩
  | binary ht =>
    rw [hc] at ht
    cases ht

/-- Behind an operator, a climb is blocked where the right operand is. -/
theorem Blocks.right {op : BinaryOp} (h : Blocks (.expr (op.precedence + 1)) before t)
    (hc : Connective.ofToken? c = some (.binary op)) (hl : least ≤ op.precedence) :
    Blocks (.climb least lhs) (c :: before) t := by
  refine h.liftLast [c] (fun rhs => ⟨.binary op lhs rhs, fun us rest hrest hread =>
    .binary hc hl hread (.stop (stops_mono (Nat.zero_le _) hrest))⟩) (fun e after rest hread => ?_)
  cases hread with
  | stop hstop => exact absurd ((stops_cons hc).1 hstop) (Nat.not_lt.2 hl)
  | check ht =>
    rw [hc] at ht
    cases ht
  | binary ht _ hread =>
    rw [hc] at ht
    cases ht
    exact ⟨_, _, hread⟩

/-- Behind a right operand, a climb is blocked where the climb from both operands is. -/
theorem Blocks.behindRight {s : Setting} (hs : s.finish.kind = .eof) {op : BinaryOp} {rhs : Expr}
    {d : Token} (h : Blocks (.climb least (.binary op lhs rhs)) (d :: before) t)
    (hc : Connective.ofToken? c = some (.binary op)) (hl : least ≤ op.precedence)
    (hr : Reads (.expr (op.precedence + 1) rhs) ts (d :: rest)) :
    ∃ used, ts = used ++ d :: rest ∧ Blocks (.climb least lhs) (c :: (used ++ d :: before)) t := by
  obtain ⟨used, rfl, hgoes, honly⟩ := hr.settled hs
  refine ⟨used, rfl, h.liftLast (c :: used) (fun e => ⟨e, fun us rest' _ hread =>
    .binary hc hl (hgoes _ (hr.stops rfl)) hread⟩) (fun e after rest' hread => ?_)⟩
  cases hread with
  | stop hstop => exact absurd ((stops_cons hc).1 hstop) (Nat.not_lt.2 hl)
  | check ht =>
    rw [hc] at ht
    cases ht
  | binary ht _ hright hread =>
    rw [hc] at ht
    cases ht
    obtain ⟨rfl, rfl⟩ := honly _ _ _ hright
    exact ⟨_, _, hread⟩

/-- An expression is blocked where its first operand is. -/
theorem Blocks.unary (h : Blocks .unary before t) (least : Nat) :
    Blocks (.expr least) before t := by
  refine h.liftLast [] (fun e => ⟨e, fun us rest hrest hread =>
    .expr hread (.stop (stops_mono (Nat.zero_le _) hrest))⟩) (fun e after rest hread => ?_)
  cases hread with
  | expr hread => exact ⟨_, _, hread⟩

/-- Behind its first operand, an expression is blocked where the climb from it is. -/
theorem Blocks.behindUnary {d : Token} (h : Blocks (.climb least lhs) (d :: before) t)
    (hu : Reads (.unary lhs) ts (d :: rest)) :
    ∃ used, ts = used ++ d :: rest ∧ Blocks (.expr least) (used ++ d :: before) t := by
  obtain ⟨used, rfl, hgoes⟩ := hu.replace
  refine ⟨used, rfl, h.liftLast used (fun e => ⟨e, fun us rest' _ hread =>
    .expr (hgoes _ nofun) hread⟩) (fun e after rest' hread => ?_)⟩
  cases hread with
  | expr hleft hread =>
    obtain ⟨rfl, rfl⟩ := hleft.unary_unique (hgoes _ nofun)
    exact ⟨_, _, hread⟩

/-! ### Every error blocks -/

variable {s : Setting} {err : ParseError}

/-- A parser followed by another fails where the first does, or where the second does. -/
theorem bind_eq_error {α β : Type} {x : Result α} {f : α → Result β} :
    x >>= f = .error err ↔ x = .error err ∨ ∃ a, x = .ok a ∧ f a = .error err := by
  cases x <;> simp [bind, Except.bind]

/-- A node fails to be made for its height only. -/
theorem node_eq_error {height : Nat} (h : node s e height ts = .error err) : err.IsTooDeep := by
  unfold node at h
  split at h
  · cases h
    exact ⟨_, _, rfl⟩
  · cases h

/-- A missing bracket is an error at the token that stands in its place. -/
theorem expect_eq_error {bracket : Token.Kind} (h : expect s bracket ts = .error err) :
    err.found = next s ts ∧ (next s ts).kind ≠ bracket := by
  unfold expect at h
  split at h
  · cases h
  · rename_i hne
    cases h
    exact ⟨rfl, hne⟩

/-- The token at fault of an error stands among the tokens, or is the end behind them, and a phrase
is blocked there. -/
def Offends (s : Setting) {α : Type} (p : α → Phrase) (ts : List Token) (err : ParseError) : Prop :=
  ∃ before after, ts ++ [s.finish] = before ++ err.found :: after ∧ Blocks p before err.found

/-- A parser each of whose errors, apart from those of the limit, is at a token where the phrase
that it reads is blocked. -/
def Refuses (s : Setting) {α β : Type} (f : List Token → Result (Reading α)) (p : β → Phrase) :
    Prop :=
  ∀ ts err, f ts = .error err → ¬ err.IsTooDeep → Offends s p ts err

/-- The next token stands first once the end is written behind the tokens. -/
theorem append_finish (s : Setting) (ts : List Token) :
    ∃ after, ts ++ [s.finish] = next s ts :: after := by
  cases ts with
  | nil => exact ⟨[], rfl⟩
  | cons t ts => exact ⟨ts ++ [s.finish], rfl⟩

/-- A next token other than the end is the first of those left. -/
theorem eq_cons_of_next (hs : s.finish.kind = .eof) {kind : Token.Kind}
    (h : (next s ts).kind = kind) (hk : kind ≠ .eof) : ∃ t us, ts = t :: us := by
  cases ts with
  | nil => exact absurd (h.symm.trans hs) hk
  | cons t us => exact ⟨t, us, rfl⟩

/-- Where the tokens with the end split, the next token opens either part. -/
theorem head?_of_append_finish {after : List Token} (h : ts ++ [s.finish] = before ++ t :: after)
    (other : List Token) : (before ++ t :: other).head? = some (next s ts) := by
  obtain ⟨us, hus⟩ := append_finish s ts
  rw [hus] at h
  cases before with
  | nil => exact congrArg some (List.cons.inj h).1.symm
  | cons b before => exact congrArg some (List.cons.inj h).1.symm

section
variable {α β : Type} {p : α → Phrase} {q : β → Phrase}

/-- The token at fault of a part is that of the whole, if the whole is blocked where the part is. -/
theorem Offends.map (h : Offends s q ts err) (front : List Token)
    (lift : ∀ before, Blocks q before err.found → Blocks p (front ++ before) err.found) :
    Offends s p (front ++ ts) err := by
  obtain ⟨before, after, hsplit, hblocks⟩ := h
  exact ⟨front ++ before, after, by simp [hsplit], lift before hblocks⟩

/-- Behind an expression that the closing bracket would complete, a token is at fault if the whole
goes on with others only. -/
theorem offends_behind (hs : s.finish.kind = .eof) (h : Reads (.expr 0 e) ts rest)
    (hclose : closes close = true) (front : List Token) (goesOn : Token → Prop)
    (build : ∃ x, ∀ us rest, Reads (.expr 0 e) us (closer close :: rest) →
      Reads (p x) (front ++ us) rest)
    (only : ∀ x us rest, Reads (p x) (front ++ us) rest →
      ∃ e c mid, Reads (.expr 0 e) us (c :: mid) ∧ goesOn c)
    (hfound : err.found = next s rest) (hne : ¬ goesOn (next s rest)) :
    Offends s p (front ++ ts) err := by
  obtain ⟨used, rfl, hgoes, honly⟩ := h.settled hs
  obtain ⟨after, hafter⟩ := append_finish s rest
  obtain ⟨x, hx⟩ := build
  refine ⟨front ++ used, after, by simp [hafter, hfound], ⟨[closer close], closer_lexed hclose, x,
    fun rest _ => ?_⟩, fun y after' rest' hread => ?_⟩
  · have hwhole := hx _ rest (hgoes _ (closer_stops hclose rest))
    simpa using hwhole
  · rw [hfound, List.append_assoc] at hread
    obtain ⟨e', c, mid, hinner, hc⟩ := only y _ rest' hread
    obtain ⟨-, hrest⟩ := honly _ _ _ hinner
    cases hrest
    exact hne hc

end

/-! #### Lists -/

/-- Items are blocked where the first of them is. -/
theorem Blocks.first (h : Blocks (.expr 0) before t) (hclose : closes close = true) :
    Blocks (.items close) before t := by
  refine h.lift [] [closer close] (closer_lexed hclose) (fun rest _ => closer_stops hclose rest)
    (fun e => ⟨[e], fun us rest _ hread => .last hread rfl⟩) (fun es after rest hread => ?_)
  cases hread with
  | last hread => exact ⟨_, _, hread⟩
  | more hread => exact ⟨_, _, hread⟩

/-- A token at fault behind a comma is at fault in all items. -/
theorem Offends.more (hs : s.finish.kind = .eof) (h : Reads (.expr 0 e) ts (c :: rest))
    (hc : c.kind = .comma) (hclose : closes close = true)
    (hrest : Offends s (.items close) rest err) :
    Offends s (.items close) ts err := by
  obtain ⟨used, rfl, hgoes, honly⟩ := h.settled hs
  obtain ⟨before, after, hsplit, hblocks⟩ := hrest
  have hstops (us : List Token) : Stops 0 (c :: us) := stops_of_kind (.inr (.inr (.inl hc))) 0 us
  refine ⟨used ++ [c] ++ before, after, by simp [hsplit], hblocks.liftLast (used ++ [c])
    (fun es => ⟨e :: es, fun us rest' _ hread => ?_⟩) (fun es after' rest' hread => ?_)⟩
  · simpa using Reads.more (hgoes _ (hstops _)) hc hread
  · rw [List.append_assoc] at hread
    cases hread with
    | last hread hlast =>
      obtain ⟨-, hrest⟩ := honly _ _ _ hread
      cases hrest
      rw [show c.kind = close from hlast] at hc
      rw [hc] at hclose
      cases hclose
    | more hread hmore hitems =>
      obtain ⟨-, hrest⟩ := honly _ _ _ hread
      cases hrest
      exact ⟨_, _, hitems⟩

section
variable (hs : s.finish.kind = .eof)
include hs

/-- Items fail at a token at fault if each item does, within a budget for all tokens. -/
theorem refuses_items {item : List Token → Result (Reading Node)} (hclose : closes close = true)
    (hreturns : Returns item (.expr 0)) (h : Refuses s item (.expr 0)) (budget : Nat) :
    ∀ ts, ts.length ≤ budget → ∀ err, items s item close budget ts = .error err →
      ¬ err.IsTooDeep → Offends s (.items close) ts err := by
  induction budget with
  | zero =>
    intro ts hts err heq hdeep
    obtain rfl := List.length_eq_zero_iff.1 (Nat.le_zero.1 hts)
    simp only [items, bind_eq_error] at heq
    obtain herr | ⟨⟨n, rest⟩, hn, -⟩ := heq
    · exact (h [] err herr hdeep).map [] fun _ hblocks => hblocks.first hclose
    · obtain ⟨e, -, he⟩ := hreturns [] n rest hn
      exact absurd he.length_lt (Nat.not_lt_zero _)
  | succ budget ih =>
    intro ts hts err heq hdeep
    simp only [items, bind_eq_error] at heq
    obtain herr | ⟨⟨n, rest⟩, hn, heq⟩ := heq
    · exact (h ts err herr hdeep).map [] fun _ hblocks => hblocks.first hclose
    obtain ⟨e, -, he⟩ := hreturns ts n rest hn
    dsimp only at heq
    split at heq
    · rename_i hcomma
      cases rest with
      | nil => simp [next, hs] at hcomma
      | cons c rest =>
        have hlt := he.length_lt
        simp only [List.length_cons] at hlt
        simp only [bind_eq_error, List.tail_cons] at heq
        obtain herr | ⟨_, -, hpure⟩ := heq
        · exact (ih rest (by omega) err herr hdeep).more hs he hcomma hclose
        · cases hpure
    · rename_i hcomma
      simp only [bind_eq_error] at heq
      obtain herr | ⟨_, -, hpure⟩ := heq
      · obtain ⟨hfound, hne⟩ := expect_eq_error herr
        refine offends_behind hs he hclose [] (fun c => c.kind = close ∨ c.kind = .comma)
          ⟨[e], fun us rest hread => .last hread rfl⟩ (fun es us rest hread => ?_) hfound
          (not_or.2 ⟨hne, hcomma⟩)
        cases hread with
        | last hread hc => exact ⟨_, _, _, hread, .inl hc⟩
        | more hread hc => exact ⟨_, _, _, hread, .inr hc⟩
      · cases hpure

/-- The inside of brackets fails at a token at fault if each item does. -/
theorem refuses_list {item : List Token → Result (Reading Node)} (hclose : closes close = true)
    (hreturns : Returns item (.expr 0)) (h : Refuses s item (.expr 0)) :
    Refuses s (list s item close) (.list close) := by
  intro ts err heq hdeep
  unfold list at heq
  split at heq
  · cases heq
  · rename_i hopen
    obtain ⟨before, after, hsplit, hblocks⟩ :=
      refuses_items hs hclose hreturns h _ ts (Nat.le_refl _) err heq hdeep
    refine ⟨before, after, hsplit, hblocks.liftLast []
      (fun es => ⟨es, fun us rest _ hread => .some hread⟩) (fun es after' rest hread => ?_)⟩
    have hhead := head?_of_append_finish hsplit after'
    rw [List.nil_append] at hread
    generalize before ++ err.found :: after' = us at hread hhead
    cases hread with
    | empty hc =>
      cases hhead
      exact absurd hc hopen
    | some hread => exact ⟨_, _, hread⟩

/-! #### Operands and connectives -/

/-- An operand without operators fails at a token at fault if what it encloses does. -/
theorem refuses_primary {inner : List Token → Result (Reading Node)}
    (hreturns : Returns inner (.expr 0)) (h : Refuses s inner (.expr 0)) :
    Refuses s (primary s inner) .primary := by
  intro ts err heq hdeep
  obtain ⟨after, hafter⟩ := append_finish s ts
  unfold primary at heq
  dsimp only at heq
  split at heq
  · rename_i hk
    obtain ⟨t, ts, rfl⟩ := eq_cons_of_next hs hk (by decide)
    simp only [bind_eq_error, List.tail_cons] at heq
    obtain herr | ⟨⟨n, rest⟩, hn, heq⟩ := heq
    · exact (h ts err herr hdeep).map [t] fun _ hblocks => hblocks.paren hk
    · obtain ⟨e, -, he⟩ := hreturns ts n rest hn
      obtain herr | ⟨_, -, hpure⟩ := heq
      · obtain ⟨hfound, hne⟩ := expect_eq_error herr
        refine offends_behind hs he rfl [t] (·.kind = .rightParen)
          ⟨e, fun us rest hread => .paren hk hread rfl⟩ (fun e us rest hread => ?_) hfound hne
        obtain ⟨c, hc, hinner⟩ := hread.of_paren hk
        exact ⟨e, c, rest, hinner, hc⟩
      · cases hpure
  · rename_i hk
    obtain ⟨t, ts, rfl⟩ := eq_cons_of_next hs hk (by decide)
    simp only [bind_eq_error, List.tail_cons] at heq
    obtain herr | ⟨_, -, hnode⟩ := heq
    · have hlist := refuses_list hs rfl hreturns h ts err herr hdeep
      exact hlist.map [t] fun _ hblocks => hblocks.array hk
    · exact absurd (node_eq_error hnode) hdeep
  · rename_i name hk hname
    obtain ⟨t, ts, rfl⟩ := eq_cons_of_next hs hk (by decide)
    simp only [bind_eq_error, List.tail_cons] at heq
    obtain herr | ⟨us, hus, heq⟩ := heq
    · obtain ⟨hfound, hne⟩ := expect_eq_error herr
      obtain ⟨after, hafter⟩ := append_finish s ts
      refine ⟨[t], after, by simp [hafter, hfound], ?_⟩
      rw [hfound]
      exact blocks_function hk hname hne
    · obtain ⟨c, hc, rfl⟩ := (expect_eq_ok hs (by decide)).1 hus
      obtain herr | ⟨_, -, hnode⟩ := heq
      · have hlist := refuses_list hs rfl hreturns h us err herr hdeep
        exact hlist.map [t, c] fun _ hblocks => hblocks.call hk hname hc
      · exact absurd (node_eq_error hnode) hdeep
  · rename_i hparen harray hcall
    split at heq
    · cases heq
    · rename_i hleaf
      cases heq
      exact ⟨[], after, hafter, blocks_operand hparen harray hcall hleaf⟩

/-- An operand fails at a token at fault if the one behind its operators does. -/
theorem refuses_unary {behind inner : List Token → Result (Reading Node)}
    (hreturns : Returns inner (.expr 0)) (hbehind : Refuses s behind .unary)
    (h : Refuses s inner (.expr 0)) : Refuses s (unary s behind inner) .unary := by
  intro ts err heq hdeep
  unfold unary at heq
  split at heq
  · rename_i hnone
    obtain ⟨before, after, hsplit, hblocks⟩ := refuses_primary hs hreturns h ts err heq hdeep
    refine ⟨before, after, hsplit, hblocks.liftLast []
      (fun e => ⟨e, fun us rest _ hread => .operand hread⟩) (fun e after' rest hread => ?_)⟩
    have hhead := head?_of_append_finish hsplit after'
    rw [List.nil_append] at hread
    generalize before ++ err.found :: after' = us at hread hhead
    cases hread with
    | operand hread => exact ⟨_, _, hread⟩
    | inFront ht =>
      cases hhead
      rw [hnone] at ht
      cases ht
  · rename_i op hop
    have hend : (next s ts).kind ≠ .eof := by
      intro hk
      simp [UnaryOp.ofToken?, hk] at hop
    obtain ⟨t, ts, rfl⟩ := eq_cons_of_next hs rfl hend
    simp only [bind_eq_error, List.tail_cons] at heq
    obtain herr | ⟨_, -, hnode⟩ := heq
    · exact (hbehind ts err herr hdeep).map [t] fun _ hblocks => hblocks.inFront hop
    · exact absurd (node_eq_error hnode) hdeep

/-- A climb that fails has taken a connective before. -/
theorem refuses_climb {operand : Nat → List Token → Result (Reading Node)}
    (hreturns : ∀ k, Returns (operand k) (.expr k)) (h : ∀ k, Refuses s (operand k) (.expr k))
    (least : Nat) (budget : Nat) :
    ∀ ts, ts.length ≤ budget → ∀ lhs err, climb s operand least budget (.of lhs) ts = .error err →
      ¬ err.IsTooDeep → ∃ c us before after, ts = c :: us ∧
        us ++ [s.finish] = before ++ err.found :: after ∧
        Blocks (.climb least lhs) (c :: before) err.found := by
  induction budget with
  | zero =>
    intro ts _ lhs err heq _
    cases heq
  | succ budget ih =>
    intro ts hts lhs err heq hdeep
    simp only [climb, connective?_eq hs] at heq
    split at heq
    · cases heq
    · rename_i c hsome
      obtain ⟨t, ts, rfl⟩ : ∃ t us, ts = t :: us := by
        cases ts with
        | nil => simp [connective?] at hsome
        | cons t us => exact ⟨t, us, rfl⟩
      simp only [connective?, List.head?_cons, Option.bind_some] at hsome
      simp only [List.length_cons] at hts
      split at heq
      · cases heq
      · rename_i hle
        split at heq
        · rename_i op
          simp only [bind_eq_error, List.tail_cons] at heq
          obtain herr | ⟨⟨n, us⟩, hn, heq⟩ := heq
          · exact absurd (node_eq_error herr) hdeep
          · obtain ⟨-, rfl, rfl⟩ := node_eq_ok.1 hn
            dsimp only at heq
            rw [Node.mk_unary] at heq
            obtain ⟨c, us, before, after, rfl, hsplit, hblocks⟩ := ih ts (by omega) _ err heq hdeep
            exact ⟨t, c :: us, c :: before, after, rfl, by simp [hsplit],
              hblocks.check hsome (Nat.not_lt.1 hle)⟩
        · rename_i op
          simp only [bind_eq_error, List.tail_cons] at heq
          obtain herr | ⟨⟨r, mid⟩, hr, heq⟩ := heq
          · obtain ⟨before, after, hsplit, hblocks⟩ := h _ ts err herr hdeep
            exact ⟨t, ts, before, after, rfl, hsplit, hblocks.right hsome (Nat.not_lt.1 hle)⟩
          obtain ⟨rhs, rfl, hrhs⟩ := hreturns _ ts r mid hr
          obtain herr | ⟨⟨n, us⟩, hn, heq⟩ := heq
          · exact absurd (node_eq_error herr) hdeep
          · obtain ⟨-, rfl, rfl⟩ := node_eq_ok.1 hn
            dsimp only at heq
            rw [Node.mk_binary] at heq
            have hlt := hrhs.length_lt
            obtain ⟨c, us, before, after, rfl, hsplit, hblocks⟩ := ih mid (by omega) _ err heq hdeep
            -- The fault lies behind the right operand, which stands in front of it either way.
            obtain ⟨used, rfl, hwhole⟩ := hblocks.behindRight hs hsome (Nat.not_lt.1 hle) hrhs
            exact ⟨t, used ++ c :: us, used ++ c :: before, after, rfl, by simp [hsplit], hwhole⟩

/-- **Every error of the parser is at a token where the expression that it reads is blocked,** apart
from those of the limit. -/
theorem refuses_expr (levels : Nat) :
    Refuses s (operand s levels) .unary ∧
      ∀ least, Refuses s (expr s levels least) (.expr least) := by
  induction levels with
  | zero =>
    refine ⟨fun ts err heq hdeep => ?_, fun least ts err heq hdeep => ?_⟩
    · cases heq
      exact absurd ⟨_, _, rfl⟩ hdeep
    · cases heq
      exact absurd ⟨_, _, rfl⟩ hdeep
  | succ levels ih =>
    obtain ⟨iho, ihe⟩ := ih
    obtain ⟨hunary, hexpr⟩ := returns_expr (s := s) hs levels
    have hrefuses := refuses_unary hs (hexpr 0) iho (ihe 0)
    refine ⟨hrefuses, fun least ts err heq hdeep => ?_⟩
    simp only [expr, bind_eq_error] at heq
    obtain herr | ⟨⟨n, mid⟩, hn, heq⟩ := heq
    · exact (hrefuses ts err herr hdeep).map [] fun _ hblocks => hblocks.unary least
    · obtain ⟨lhs, rfl, hlhs⟩ := returns_unary hs hunary (hexpr 0) ts n mid hn
      obtain ⟨c, us, before, after, rfl, hsplit, hblocks⟩ :=
        refuses_climb hs hexpr ihe least _ mid (Nat.le_refl _) lhs err heq hdeep
      obtain ⟨used, rfl, hwhole⟩ := hblocks.behindUnary hlhs
      exact ⟨used ++ c :: before, after, by simp [hsplit], hwhole⟩

end

/-! ### The whole source -/

/-- Tokens that tokens of the lexer complete to an expression, which the parser accepts with the end
behind it under every limit that is large enough. -/
def IsViable (before : List Token) : Prop :=
  ∃ more, (∀ u ∈ more, u.Lexed) ∧ ∃ e least, ∀ limit, least ≤ limit → ∀ position,
    Expr.ofTokens limit (before ++ (more ++ [Token.atEnd position])) = .ok e

/-- Tokens that start nothing that the parser accepts under any limit. -/
def IsHopeless (before : List Token) : Prop :=
  ∀ limit after e, Expr.ofTokens limit (before ++ after) ≠ .ok e

/-- Tokens that others complete to a reading can be completed for the parser. -/
theorem isViable_of_reads (more : List Token) (hmore : ∀ u ∈ more, u.Lexed)
    (h : ∀ rest, Stops 0 rest → Reads (.expr 0 e) (before ++ (more ++ rest)) rest) :
    IsViable before := by
  refine ⟨more, hmore, e, (before ++ more).length + 2, fun limit hlimit position => ?_⟩
  have hstops : Stops 0 [Token.atEnd position] := stops_of_kind (.inr (.inr (.inr rfl))) 0 []
  refine ofTokens_of_reads (h _ hstops) ?_ ?_
  · intro t ht
    obtain rfl := Option.some.inj ht
    rfl
  · simp only [List.length_append, List.length_cons, List.length_nil] at *
    omega

/-- What stands before a token at fault can be completed. -/
theorem Blocks.isViable (h : Blocks (.expr 0) before t) : IsViable before := by
  obtain ⟨more, hmore, e, he⟩ := h.completes
  exact isViable_of_reads more hmore he

/-- What stands before a token at fault starts nothing with that token behind it. -/
theorem Blocks.isHopeless (h : Blocks (.expr 0) before t) : IsHopeless (before ++ [t]) := by
  intro limit after e he
  obtain ⟨rest, hread, -⟩ := reads_of_ofTokens he
  rw [List.append_assoc] at hread
  exact h.spoiled e after rest hread

/-- No token in front of the one where an expression is blocked is the end of a source. -/
theorem Blocks.kind_ne (h : Blocks (.expr 0) before t)
    (hbefore : ∀ u ∈ before, u.kind = .eof ∨ u.Lexed) : ∀ u ∈ before, u.kind ≠ .eof := by
  obtain ⟨more, hmore, e, he⟩ := h.completes
  have hread : Reads (.expr 0 e) (before ++ more) [] := by
    simpa using he [] (stops_nil 0)
  obtain ⟨used, _, hsplit, rfl, hderived⟩ := hread.derived
    (List.forall_mem_append.2 ⟨hbefore, fun u hu => .inr (hmore u hu)⟩)
  obtain rfl : before ++ more = used := by simpa using hsplit
  exact (List.forall_mem_append.1 hderived.derives.kind_ne).1

/-- A token behind others that are not the end stands among the tokens in front of the first end, or
is that end. -/
theorem split_of_append_atEnd {us after : List Token} {stop : Nat} {u : Token}
    (hbefore : ∀ t ∈ before, t.kind ≠ .eof)
    (h : us ++ [Token.atEnd stop] ++ [u] = before ++ t :: after) :
    ∃ after', us ++ [Token.atEnd stop] = before ++ t :: after' := by
  have hends (front : List Token) : before ≠ us ++ [Token.atEnd stop] ++ front := by
    rintro rfl
    exact hbefore (Token.atEnd stop) (by simp) rfl
  obtain ⟨front, hfront, -⟩ | ⟨back, hback, hrest⟩ := List.append_eq_append_iff.1 h
  · exact absurd hfront (hends front)
  · cases back with
    | nil => exact absurd (by simpa using hback.symm) (hends [])
    | cons b back =>
      obtain ⟨rfl, -⟩ := List.cons.inj hrest
      exact ⟨back, hback⟩

/-- **An error of the parser points at the first token at fault.** Whatever the limit, the position
of an error that is not about the limit is that of a token of the source, the end included. The
tokens in front of that token can be completed to an expression, and unless it is the end, nothing
that goes on behind it is one under any limit. -/
theorem found_of_ofTokens_error {source : String} {ts : List Token}
    (hts : Token.tokenize source = .ok ts) {limit : Nat} {err : ParseError}
    (h : Expr.ofTokens limit ts = .error err) (hdeep : ¬ err.IsTooDeep) :
    ∃ before after, ts = before ++ err.found :: after ∧ err.position = err.found.position ∧
      IsViable before ∧ (err.found.kind ≠ .eof → IsHopeless (before ++ [err.found])) := by
  obtain ⟨us, stop, rfl, hus⟩ := Token.tokenize_lexed hts
  rw [ofTokens_eq] at h
  obtain herr | ⟨⟨n, rest⟩, hn, heq⟩ := bind_eq_error.1 h
  · obtain ⟨before, after, hsplit, hblocks⟩ := (refuses_expr rfl limit).2 0 _ err herr hdeep
    have hbefore : ∀ u ∈ before, u.kind = .eof ∨ u.Lexed := by
      intro u hu
      have hmem : u ∈ us ++ [Token.atEnd stop] ++ [(Setting.whole limit _).finish] :=
        hsplit ▸ List.mem_append_left _ hu
      simp only [List.mem_append, List.mem_singleton] at hmem
      obtain (hmem | rfl) | rfl := hmem
      · exact .inr (hus u hmem)
      · exact .inl rfl
      · exact .inl rfl
    obtain ⟨after', hsplit⟩ := split_of_append_atEnd (hblocks.kind_ne hbefore) hsplit
    exact ⟨before, after', hsplit, rfl, hblocks.isViable, fun _ => hblocks.isHopeless⟩
  · obtain ⟨e, rfl, he⟩ := (returns_expr rfl limit).2 0 _ n rest hn
    dsimp only at heq
    split at heq
    · cases heq
    · rename_i htrailing
      cases heq
      obtain ⟨t, rest, rfl⟩ := eq_cons_of_next rfl rfl htrailing
      -- A whole expression has been read, and the token behind it is no connective.
      obtain ⟨used, hused, hgoes, honly⟩ := he.settled (s := .whole limit []) rfl
      refine ⟨used, rest, hused, rfl, isViable_of_reads [] nofun hgoes,
        fun hend limit' after e' he' => ?_⟩
      obtain ⟨rest', hread, hrest'⟩ := reads_of_ofTokens he'
      rw [List.append_assoc] at hread
      obtain ⟨-, rfl⟩ := honly _ _ _ hread
      exact hend (hrest' _ rfl)

/-- A parenthesis that a second operand stands in. -/
def unclosed : String :=
  "(\x7ba\x7d and \x7bb\x7d \x7bc\x7d"

/-- The hypotheses of `found_of_ofTokens_error` are satisfiable: `({a} and {b} {c}` can be completed
up to `{b}`, and with `{c}`, at position 13, it is hopeless. -/
theorem found_of_ofTokens_error_unclosed :
    ∃ ts err, Token.tokenize unclosed = .ok ts ∧ Expr.ofTokens 128 ts = .error err ∧
      ¬ err.IsTooDeep ∧ err.position = 13 ∧ ∃ before after, ts = before ++ err.found :: after ∧
        IsViable before ∧ IsHopeless (before ++ [err.found]) := by
  have hrun : (match Token.tokenize unclosed with
      | .ok ts =>
        match Expr.ofTokens 128 ts with
        | .error (.expected .rightParen t) => t.kind == .reference && t.position == 13
        | _ => false
      | .error _ => false) = true := by
    decide +kernel
  split at hrun
  · rename_i ts hts
    split at hrun
    · rename_i t ht
      obtain ⟨hkind, hposition⟩ : t.kind = .reference ∧ t.position = 13 := by simpa using hrun
      have hdeep : ¬ (ParseError.expected .rightParen t).IsTooDeep := by
        rintro ⟨_, _, ⟨⟩⟩
      obtain ⟨before, after, hsplit, -, hviable, hhopeless⟩ := found_of_ofTokens_error hts ht hdeep
      have hend : (ParseError.expected .rightParen t).found.kind ≠ .eof := by
        rw [show (ParseError.expected .rightParen t).found = t from rfl, hkind]
        decide
      exact ⟨ts, _, hts, ht, hdeep, hposition, before, after, hsplit, hviable, hhopeless hend⟩
    · cases hrun
  · cases hrun

end Parser
end SurveyLogic
