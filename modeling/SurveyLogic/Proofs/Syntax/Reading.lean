/-
# What the parser reads, apart from its limit

The functions of `SurveyLogic.Syntax.Parser` carry a limit, a count of levels left, a budget of
tokens and the heights of nodes. `Reads` says what they read without any of these: which expression
stands at the front of some tokens, and which tokens are left behind it. A climb goes on as long as
the next connective binds at its level or tighter, so the tokens left decide where it stops.

The two agree. Whatever the parser returns is a reading, and the height beside an expression is its
height (`returns_expr`, for every limit). Every reading is what the parser returns, given as many
levels as there are tokens, for every node takes up a token of its own (`Reads.found`).
-/

import SurveyLogic.Proofs.Syntax.Spelling

namespace SurveyLogic
namespace Parser

/-- What can be read at the front of some tokens. -/
inductive Phrase where
  /-- An operand without operators outside brackets. -/
  | primary (e : Expr)
  /-- An operand with the operators in front of it. -/
  | unary (e : Expr)
  /-- The connectives behind `lhs` of level `least` or tighter, which make `e` of it. -/
  | climb (least : Nat) (lhs e : Expr)
  /-- An expression of connectives of level `least` or tighter. -/
  | expr (least : Nat) (e : Expr)
  /-- At least one expression with commas between them, and the closing bracket. -/
  | items (close : Token.Kind) (es : List Expr)
  /-- The inside of a pair of brackets and the closing one. -/
  | list (close : Token.Kind) (es : List Expr)

/-- The connective that stands next. -/
def connective? (ts : List Token) : Option Connective :=
  ts.head?.bind Connective.ofToken?

/-- No connective of level `least` or tighter stands next. -/
def Stops (least : Nat) (ts : List Token) : Prop :=
  ∀ c, connective? ts = some c → c.precedence < least

/-- Connectives of every level stop where no token is left. -/
theorem stops_nil (least : Nat) : Stops least [] := by
  intro c hc
  cases hc

/-- A connective stops the levels tighter than its own. -/
theorem stops_cons {t : Token} {c : Connective} {rest : List Token}
    (ht : Connective.ofToken? t = some c) {least : Nat} :
    Stops least (t :: rest) ↔ c.precedence < least := by
  simp [Stops, connective?, ht]

/-- No connective is a bracket or a comma. -/
theorem ofToken?_of_kind {t : Token} (ht : t.kind = .rightParen ∨ t.kind = .rightBracket ∨
    t.kind = .comma ∨ t.kind = .eof) : Connective.ofToken? t = none := by
  unfold Connective.ofToken? Connective.ofText?
  split
  · rcases ht with h | h | h | h <;> rw [h]
  · rfl

/-- Connectives of every level stop at a closing bracket, a comma and the end. -/
theorem stops_of_kind {t : Token} (ht : t.kind = .rightParen ∨ t.kind = .rightBracket ∨
    t.kind = .comma ∨ t.kind = .eof) (least : Nat) (rest : List Token) :
    Stops least (t :: rest) := by
  intro c hc
  simp [connective?, ofToken?_of_kind ht] at hc

/-- What stops the connectives of a level stops the tighter ones. -/
theorem stops_mono {least most : Nat} (h : least ≤ most) {ts : List Token}
    (hs : Stops least ts) : Stops most ts :=
  fun c hc => Nat.lt_of_lt_of_le (hs c hc) h

/-- `Reads p ts rest`: the tokens `ts` start with the phrase `p`, and `rest` is what follows it. -/
inductive Reads : Phrase → List Token → List Token → Prop where
  | token {t : Token} {e : Expr} {rest : List Token} (ht : Expr.ofToken? t = some e) :
      Reads (.primary e) (t :: rest) rest
  | paren {t c : Token} {e : Expr} {ts rest : List Token} (ht : t.kind = .leftParen)
      (h : Reads (.expr 0 e) ts (c :: rest)) (hc : c.kind = .rightParen) :
      Reads (.primary e) (t :: ts) rest
  | array {t : Token} {es : List Expr} {ts rest : List Token} (ht : t.kind = .leftBracket)
      (h : Reads (.list .rightBracket es) ts rest) : Reads (.primary (.array es)) (t :: ts) rest
  | call {f t : Token} {name : String} {es : List Expr} {ts rest : List Token}
      (hf : f.kind = .function) (hname : f.payload = .text name) (ht : t.kind = .leftParen)
      (h : Reads (.list .rightParen es) ts rest) :
      Reads (.primary (.call name es)) (f :: t :: ts) rest
  | operand {e : Expr} {ts rest : List Token} (h : Reads (.primary e) ts rest) :
      Reads (.unary e) ts rest
  | inFront {t : Token} {op : UnaryOp} {e : Expr} {ts rest : List Token}
      (ht : UnaryOp.ofToken? t = some op) (h : Reads (.unary e) ts rest) :
      Reads (.unary (.unary op e)) (t :: ts) rest
  | stop {least : Nat} {lhs : Expr} {ts : List Token} (h : Stops least ts) :
      Reads (.climb least lhs lhs) ts ts
  | check {t : Token} {op : UnaryOp} {least : Nat} {lhs e : Expr} {ts rest : List Token}
      (ht : Connective.ofToken? t = some (.check op)) (hl : least ≤ suffixPrecedence)
      (h : Reads (.climb least (.unary op lhs) e) ts rest) :
      Reads (.climb least lhs e) (t :: ts) rest
  | binary {t : Token} {op : BinaryOp} {least : Nat} {lhs rhs e : Expr} {ts mid rest : List Token}
      (ht : Connective.ofToken? t = some (.binary op)) (hl : least ≤ op.precedence)
      (hr : Reads (.expr (op.precedence + 1) rhs) ts mid)
      (h : Reads (.climb least (.binary op lhs rhs) e) mid rest) :
      Reads (.climb least lhs e) (t :: ts) rest
  | expr {least : Nat} {lhs e : Expr} {ts mid rest : List Token}
      (hu : Reads (.unary lhs) ts mid) (hc : Reads (.climb least lhs e) mid rest) :
      Reads (.expr least e) ts rest
  | last {c : Token} {close : Token.Kind} {e : Expr} {ts rest : List Token}
      (h : Reads (.expr 0 e) ts (c :: rest)) (hc : c.kind = close) :
      Reads (.items close [e]) ts rest
  | more {c : Token} {close : Token.Kind} {e : Expr} {es : List Expr} {ts mid rest : List Token}
      (h : Reads (.expr 0 e) ts (c :: mid)) (hc : c.kind = .comma)
      (hs : Reads (.items close es) mid rest) : Reads (.items close (e :: es)) ts rest
  | empty {c : Token} {close : Token.Kind} {rest : List Token} (hc : c.kind = close) :
      Reads (.list close []) (c :: rest) rest
  | some {close : Token.Kind} {es : List Expr} {ts rest : List Token}
      (h : Reads (.items close es) ts rest) : Reads (.list close es) ts rest

/-! ### Every node takes up a token -/

/-- The height that a phrase starts from: that of the left operand of a climb. -/
def Phrase.start : Phrase → Nat
  | climb _ lhs _ => lhs.depth
  | _ => 0

/-- The height of what a phrase reads, a closing bracket counted in. -/
def Phrase.height : Phrase → Nat
  | primary e | unary e | expr _ e | climb _ _ e => e.depth
  | items _ es | list _ es => Expr.depthAll es + 1

/-- **A reading takes up as many tokens as it adds to the height.** -/
theorem Reads.height_add_length_le {p : Phrase} {ts rest : List Token} (h : Reads p ts rest) :
    p.height + rest.length ≤ p.start + ts.length := by
  induction h with
  | token ht =>
    have := Expr.depth_of_leaf (Expr.ofToken?_eq_some.1 ht)
    simp only [Phrase.height, Phrase.start, List.length_cons]
    omega
  | stop => exact Nat.le_refl _
  | operand h ih => exact ih
  | some h ih => exact ih
  | _ =>
    simp only [Phrase.height, Phrase.start, Expr.depth, Expr.depthAll, List.length_cons] at *
    omega

/-- An expression takes up at least one token. -/
theorem Reads.length_lt {least : Nat} {e : Expr} {ts rest : List Token}
    (h : Reads (.expr least e) ts rest) : rest.length < ts.length := by
  have := h.height_add_length_le
  have := e.one_le_depth
  simp only [Phrase.height, Phrase.start] at *
  omega

/-! ### What the parser returns is a reading -/

/-- The node of a tree, with its height. -/
def Node.of (e : Expr) : Node :=
  ⟨e, e.depth⟩

theorem Node.expr_of (e : Expr) : (Node.of e).expr = e :=
  rfl

theorem Node.height_of (e : Expr) : (Node.of e).height = e.depth :=
  rfl

/-- The node that the parser makes of an operator and its operand has its height beside it. -/
theorem Node.mk_unary (op : UnaryOp) (arg : Expr) :
    ⟨.unary op (of arg).expr, (of arg).height + 1⟩ = of (.unary op arg) := by
  simp only [of, Expr.depth, Nat.add_comm]

/-- The node that the parser makes of two operands has its height beside it. -/
theorem Node.mk_binary (op : BinaryOp) (lhs rhs : Expr) :
    ⟨.binary op (of lhs).expr (of rhs).expr, max (of lhs).height (of rhs).height + 1⟩ =
      of (.binary op lhs rhs) := by
  simp only [of, Expr.depth, Nat.add_comm]

/-- The greatest height kept beside some trees is the greatest depth among them. -/
theorem heightAll_map_of (es : List Expr) : heightAll (es.map Node.of) = Expr.depthAll es := by
  induction es with
  | nil => rfl
  | cons e es ih =>
    simp only [heightAll] at ih
    simp [heightAll, Node.of, Expr.depthAll, ih]

theorem map_expr_map_of (es : List Expr) : (es.map Node.of).map (·.expr) = es := by
  simp [Function.comp_def, Node.of]

/-- A parser followed by another returns what both return, one behind the other. -/
theorem bind_eq_ok {α β : Type} {x : Result α} {f : α → Result β} {b : β} :
    x >>= f = .ok b ↔ ∃ a, x = .ok a ∧ f a = .ok b := by
  cases x <;> simp [bind, Except.bind]

theorem pure_eq_ok {α : Type} {a b : α} : (pure a : Result α) = .ok b ↔ a = b := by
  simp [pure, Except.pure]

/-- A parser of expressions that returns readings only: the tree with its height. -/
def Returns (f : List Token → Result (Reading Node)) (p : Expr → Phrase) : Prop :=
  ∀ ts n rest, f ts = .ok (n, rest) → ∃ e, n = .of e ∧ Reads (p e) ts rest

/-- The same of a parser of several expressions. -/
def ReturnsAll (f : List Token → Result (Reading (List Node))) (p : List Expr → Phrase) : Prop :=
  ∀ ts ns rest, f ts = .ok (ns, rest) → ∃ es, ns = es.map .of ∧ Reads (p es) ts rest

variable {s : Setting}

/-- A node is made if the limit leaves room for its height, and no token is taken up. -/
theorem node_eq_ok {e : Expr} {height : Nat} {ts rest : List Token} {n : Node} :
    node s e height ts = .ok (n, rest) ↔ height ≤ s.limit ∧ n = ⟨e, height⟩ ∧ ts = rest := by
  unfold node
  by_cases h : s.limit < height
  · simp [h, Nat.not_le.2 h]
  · simp [h, Nat.not_lt.1 h, eq_comm]

section
variable (hs : s.finish.kind = .eof)
include hs

/-- A bracket that is passed stands next, as the first of the tokens left. -/
theorem expect_eq_ok {bracket : Token.Kind} (hb : bracket ≠ .eof) {ts rest : List Token} :
    expect s bracket ts = .ok rest ↔ ∃ c, c.kind = bracket ∧ ts = c :: rest := by
  unfold expect
  cases ts with
  | nil => simp [next, hs, hb.symm]
  | cons c ts =>
    show (if c.kind = bracket then .ok ts else .error (.expected bracket c) : Result _) = _ ↔ _
    constructor
    · intro h
      split at h
      · rename_i hc
        cases h
        exact ⟨c, hc, rfl⟩
      · cases h
    · rintro ⟨c, hc, ⟨⟩⟩
      rw [if_pos hc]

/-- The end read past the tokens is no connective. -/
theorem connective?_eq (ts : List Token) : Connective.ofToken? (next s ts) = connective? ts := by
  cases ts with
  | nil =>
    simp only [next, List.headD_nil, connective?, List.head?_nil, Option.bind_none]
    unfold Connective.ofToken? Connective.ofText?
    split <;> simp [hs]
  | cons t ts => rfl

/-- Items return readings, whatever the budget, if the parser of one item does. -/
theorem returnsAll_items {item : List Token → Result (Reading Node)} {close : Token.Kind}
    (hc : close ≠ .eof) (h : Returns item (.expr 0)) (budget : Nat) :
    ReturnsAll (items s item close budget) (.items close) := by
  induction budget with
  | zero =>
    intro ts ns rest heq
    simp only [items, bind_eq_ok, pure_eq_ok, Prod.exists] at heq
    obtain ⟨n, mid, hn, us, hus, heq⟩ := heq
    obtain ⟨e, rfl, he⟩ := h ts n mid hn
    obtain ⟨c, hck, rfl⟩ := (expect_eq_ok hs hc).1 hus
    cases heq
    exact ⟨[e], rfl, .last he hck⟩
  | succ budget ih =>
    intro ts ns rest heq
    simp only [items, bind_eq_ok, Prod.exists] at heq
    obtain ⟨n, mid, hn, heq⟩ := heq
    obtain ⟨e, rfl, he⟩ := h ts n mid hn
    split at heq
    · rename_i hcomma
      simp only [bind_eq_ok, pure_eq_ok, Prod.exists] at heq
      obtain ⟨ns', us, hns, heq⟩ := heq
      obtain ⟨es, rfl, hes⟩ := ih mid.tail ns' us hns
      cases heq
      cases mid with
      | nil => simp [next, hs] at hcomma
      | cons c mid => exact ⟨e :: es, rfl, .more he hcomma hes⟩
    · simp only [bind_eq_ok, pure_eq_ok] at heq
      obtain ⟨us, hus, heq⟩ := heq
      obtain ⟨c, hck, rfl⟩ := (expect_eq_ok hs hc).1 hus
      cases heq
      exact ⟨[e], rfl, .last he hck⟩

/-- The inside of a pair of brackets is a reading if each item is one. -/
theorem returnsAll_list {item : List Token → Result (Reading Node)} {close : Token.Kind}
    (hc : close ≠ .eof) (h : Returns item (.expr 0)) :
    ReturnsAll (list s item close) (.list close) := by
  intro ts ns rest heq
  unfold list at heq
  split at heq
  · rename_i hclose
    cases heq
    cases ts with
    | nil => exact absurd (hclose.symm.trans hs) hc
    | cons c ts => exact ⟨[], rfl, .empty hclose⟩
  · obtain ⟨es, rfl, hes⟩ := returnsAll_items hs hc h _ ts ns rest heq
    exact ⟨es, rfl, .some hes⟩

/-- An operand without operators is a reading if what stands in its brackets is one. -/
theorem returns_primary {inner : List Token → Result (Reading Node)}
    (h : Returns inner (.expr 0)) : Returns (primary s inner) .primary := by
  intro ts n rest heq
  cases ts with
  | nil => simp [primary, next, hs, Expr.ofToken?, throw, throwThe, MonadExceptOf.throw] at heq
  | cons t ts =>
    simp only [primary, next, List.headD_cons, List.tail_cons] at heq
    split at heq
    · rename_i hk
      simp only [bind_eq_ok, pure_eq_ok, Prod.exists] at heq
      obtain ⟨n, mid, hn, us, hus, heq⟩ := heq
      obtain ⟨e, rfl, he⟩ := h ts n mid hn
      obtain ⟨c, hck, rfl⟩ := (expect_eq_ok hs (by decide)).1 hus
      cases heq
      exact ⟨e, rfl, .paren hk he hck⟩
    · rename_i hk
      simp only [bind_eq_ok, node_eq_ok, Prod.exists] at heq
      obtain ⟨ns, mid, hns, -, rfl, rfl⟩ := heq
      obtain ⟨es, rfl, hes⟩ := returnsAll_list hs (by decide) h ts ns mid hns
      refine ⟨.array es, ?_, .array hk hes⟩
      rw [map_expr_map_of, heightAll_map_of, Node.of, Expr.depth, Nat.add_comm]
    · rename_i name hk hname
      simp only [bind_eq_ok, node_eq_ok, Prod.exists] at heq
      obtain ⟨us, hus, ns, mid, hns, -, rfl, rfl⟩ := heq
      obtain ⟨c, hck, rfl⟩ := (expect_eq_ok hs (by decide)).1 hus
      obtain ⟨es, rfl, hes⟩ := returnsAll_list hs (by decide) h us ns mid hns
      refine ⟨.call name es, ?_, .call hk hname hck hes⟩
      rw [map_expr_map_of, heightAll_map_of, Node.of, Expr.depth, Nat.add_comm]
    · split at heq
      · rename_i e he
        cases heq
        refine ⟨e, ?_, .token he⟩
        rw [Node.of, Expr.depth_of_leaf (Expr.ofToken?_eq_some.1 he)]
      · cases heq

/-- An operand is a reading if those behind its operators and in its brackets are. -/
theorem returns_unary {behind inner : List Token → Result (Reading Node)}
    (hb : Returns behind .unary) (hi : Returns inner (.expr 0)) :
    Returns (unary s behind inner) .unary := by
  intro ts n rest heq
  unfold unary at heq
  split at heq
  · obtain ⟨e, rfl, he⟩ := returns_primary hs hi ts n rest heq
    exact ⟨e, rfl, .operand he⟩
  · rename_i op hop
    simp only [bind_eq_ok, node_eq_ok, Prod.exists] at heq
    obtain ⟨arg, mid, harg, -, rfl, rfl⟩ := heq
    obtain ⟨e, rfl, he⟩ := hb ts.tail arg mid harg
    cases ts with
    | nil => simp [next, UnaryOp.ofToken?, hs] at hop
    | cons t ts =>
      refine ⟨.unary op e, ?_, .inFront hop he⟩
      rw [Node.of, Node.of, Expr.depth, Nat.add_comm]

/-- A climb that has a budget of as many tokens as there are stops in front of the right one. -/
theorem returns_climb {operand : Nat → List Token → Result (Reading Node)}
    (h : ∀ k, Returns (operand k) (.expr k)) (least : Nat) :
    ∀ (budget : Nat) (ts : List Token), ts.length ≤ budget → ∀ (lhs : Expr) n rest,
      climb s operand least budget (.of lhs) ts = .ok (n, rest) →
        ∃ e, n = .of e ∧ Reads (.climb least lhs e) ts rest := by
  intro budget
  induction budget with
  | zero =>
    intro ts hts lhs n rest heq
    cases heq
    obtain rfl := List.length_eq_zero_iff.1 (Nat.le_zero.1 hts)
    exact ⟨lhs, rfl, .stop (stops_nil least)⟩
  | succ budget ih =>
    intro ts hts lhs n rest heq
    simp only [climb, connective?_eq hs] at heq
    split at heq
    · rename_i hnone
      cases heq
      exact ⟨lhs, rfl, .stop fun c hc => by simp [hnone] at hc⟩
    · rename_i c hsome
      obtain ⟨t, ts, rfl⟩ : ∃ t us, ts = t :: us := by
        cases ts with
        | nil => simp [connective?] at hsome
        | cons t us => exact ⟨t, us, rfl⟩
      simp only [connective?, List.head?_cons, Option.bind_some] at hsome
      simp only [List.length_cons] at hts
      split at heq
      · rename_i hlt
        cases heq
        refine ⟨lhs, rfl, .stop fun d hd => ?_⟩
        obtain rfl : c = d := by simpa [connective?, hsome] using hd
        exact hlt
      · rename_i hle
        split at heq
        · rename_i op
          simp only [bind_eq_ok, node_eq_ok, Prod.exists] at heq
          obtain ⟨n', mid, ⟨-, rfl, rfl⟩, heq⟩ := heq
          rw [Node.mk_unary] at heq
          obtain ⟨e, rfl, he⟩ := ih ts (by omega) _ n rest heq
          exact ⟨e, rfl, .check hsome (Nat.not_lt.1 hle) he⟩
        · rename_i op
          simp only [bind_eq_ok, node_eq_ok, Prod.exists] at heq
          obtain ⟨r, us, hr, n', mid, ⟨-, rfl, rfl⟩, heq⟩ := heq
          obtain ⟨rhs, rfl, hrhs⟩ := h _ _ r us hr
          rw [Node.mk_binary] at heq
          -- The right operand takes up a token, so the budget is enough for what it leaves.
          have := hrhs.length_lt
          simp only [List.tail_cons] at this hrhs
          obtain ⟨e, rfl, he⟩ := ih us (by omega) _ n rest heq
          exact ⟨e, rfl, .binary hsome (Nat.not_lt.1 hle) hrhs he⟩

/-- **What the parser returns is a reading,** whatever the limit and however many levels are left,
and the height that it keeps beside an expression is the height of the expression. -/
theorem returns_expr (levels : Nat) :
    Returns (operand s levels) .unary ∧ ∀ least, Returns (expr s levels least) (.expr least) := by
  induction levels with
  | zero =>
    refine ⟨fun ts n rest heq => ?_, fun least ts n rest heq => ?_⟩
    · cases heq
    · cases heq
  | succ levels ih =>
    obtain ⟨iho, ihe⟩ := ih
    refine ⟨fun ts n rest heq => ?_, fun least ts n rest heq => ?_⟩
    · exact returns_unary hs iho (ihe 0) ts n rest heq
    · simp only [expr, bind_eq_ok, Prod.exists] at heq
      obtain ⟨n', mid, hn', heq⟩ := heq
      obtain ⟨lhs, rfl, hlhs⟩ := returns_unary hs iho (ihe 0) ts n' mid hn'
      obtain ⟨e, rfl, he⟩ := returns_climb hs ihe least _ mid (Nat.le_refl _) lhs n rest heq
      exact ⟨e, rfl, .expr hlhs he⟩

end

/-! ### Every reading is what the parser returns -/

/-- The kinds of tokens that an expression can start with. -/
def startsExpr : Token.Kind → Bool
  | .number | .string | .boolean | .reference | .function | .leftParen | .leftBracket | .logical
  | .operator => true
  | _ => false

/-- The closing brackets. -/
def closes : Token.Kind → Bool
  | .rightParen | .rightBracket => true
  | _ => false

/-- The token of a constant or a reference starts an expression and is no operator. -/
theorem startsExpr_of_leaf {t : Token} {e : Expr} (h : e.leaf? = some t.content) :
    startsExpr t.kind = true ∧ UnaryOp.ofToken? t = none := by
  obtain ⟨kind, payload, position⟩ := t
  rcases e with l | path | _ | _ | _ | _ <;> simp [Expr.leaf?, Token.content] at h
  · cases l <;> simp [Literal.content] at h <;> obtain ⟨rfl, rfl⟩ := h <;> exact ⟨rfl, rfl⟩
  · obtain ⟨rfl, rfl⟩ := h
    exact ⟨rfl, rfl⟩

/-- An operand without operators starts with a token that starts expressions and is no operator. -/
theorem Reads.primary_head {e : Expr} {t : Token} {ts rest : List Token}
    (h : Reads (.primary e) (t :: ts) rest) :
    startsExpr t.kind = true ∧ UnaryOp.ofToken? t = none := by
  cases h with
  | token ht => exact startsExpr_of_leaf (Expr.ofToken?_eq_some.1 ht)
  | paren ht | array ht | call ht => simp [startsExpr, UnaryOp.ofToken?, ht]

/-- What is read as an expression starts with a token that can start one. -/
theorem Reads.expr_head {least : Nat} {e : Expr} {t : Token} {ts rest : List Token}
    (h : Reads (.expr least e) (t :: ts) rest) : startsExpr t.kind = true := by
  cases h with
  | expr hu hc =>
    cases hu with
    | operand hp => exact hp.primary_head.1
    | @inFront _ op _ _ _ ht =>
      obtain ⟨hop, hcontent⟩ := UnaryOp.ofToken?_eq_some.1 ht
      have hkind : t.kind = op.content.1 := congrArg Prod.fst hcontent
      rw [hkind]
      cases op <;> first | rfl | cases hop

/-- Items start with a token that can start an expression, so no closing bracket. -/
theorem Reads.items_head {close : Token.Kind} {es : List Expr} {ts rest : List Token}
    (h : Reads (.items close es) ts rest) : ∃ t us, ts = t :: us ∧ startsExpr t.kind = true := by
  obtain ⟨e, us, he⟩ : ∃ e us, Reads (.expr 0 e) ts us := by
    cases h with
    | last he | more he => exact ⟨_, _, he⟩
  cases ts with
  | nil => exact absurd he.length_lt (Nat.not_lt_zero _)
  | cons t ts => exact ⟨t, ts, rfl, he.expr_head⟩

/-! Each function of the parser on a token that it takes up, given what the functions that it calls
return. -/

section

variable {inner behind : List Token → Result (Reading Node)}
  {operand : Nat → List Token → Result (Reading Node)} {t c : Token} {close : Token.Kind} {e : Expr}
  {es : List Expr} {ts mid rest : List Token} {least budget : Nat}

theorem ok_bind {α β : Type} (a : α) (f : α → Result β) : (Except.ok a >>= f) = f a :=
  rfl

/-- A bracket that stands next is passed. -/
theorem expect_cons (hc : c.kind = close) (ts : List Token) :
    expect s close (c :: ts) = .ok ts :=
  if_pos hc

/-- Within the limit a node is made. -/
theorem node_room {height : Nat} (room : height ≤ s.limit) (e : Expr) (ts : List Token) :
    node s e height ts = .ok (⟨e, height⟩, ts) :=
  if_neg (Nat.not_lt.2 room)

/-- Within the limit the node of a tree is made, its depth beside it. -/
theorem node_of {height : Nat} (h : height = e.depth) (room : e.depth ≤ s.limit)
    (ts : List Token) : node s e height ts = .ok (.of e, ts) := by
  subst h
  exact node_room room e ts

/-- A token that stands alone for a tree gives the node of that tree. -/
theorem primary_leaf (ht : e.leaf? = some t.content) (ts : List Token) :
    primary s inner (t :: ts) = .ok (.of e, ts) := by
  obtain ⟨kind, payload, position⟩ := t
  rcases e with l | path | _ | _ | _ | _ <;> simp [Expr.leaf?, Token.content] at ht
  · cases l <;> simp [Literal.content] at ht <;> obtain ⟨rfl, rfl⟩ := ht <;> rfl
  · obtain ⟨rfl, rfl⟩ := ht
    rfl

/-- Parentheses that group give the node inside, with no level of their own. -/
theorem primary_paren {n : Node} (ht : t.kind = .leftParen) (he : inner ts = .ok (n, c :: rest))
    (hc : c.kind = .rightParen) : primary s inner (t :: ts) = .ok (n, rest) := by
  simp only [primary, next, List.headD_cons, List.tail_cons, ht, he, ok_bind, expect_cons hc]
  rfl

/-- Items in square brackets give an array, one higher than the highest of them. -/
theorem primary_list {nodes : List Node} (ht : t.kind = .leftBracket)
    (hnodes : list s inner .rightBracket ts = .ok (nodes, rest)) :
    primary s inner (t :: ts) =
      node s (.array (nodes.map (·.expr))) (heightAll nodes + 1) rest := by
  simp only [primary, next, List.headD_cons, List.tail_cons, ht, hnodes, ok_bind]

/-- Within the limit an array is made of the trees of its items. -/
theorem primary_array (ht : t.kind = .leftBracket)
    (hes : list s inner .rightBracket ts = .ok (es.map .of, rest))
    (room : (Expr.array es).depth ≤ s.limit) :
    primary s inner (t :: ts) = .ok (.of (.array es), rest) := by
  rw [primary_list ht hes, map_expr_map_of, heightAll_map_of]
  exact node_of (by rw [Expr.depth, Nat.add_comm]) room rest

/-- A function and items in parentheses give a call, one higher than the highest item. -/
theorem primary_function {f : Token} {name : String} {nodes : List Node} (hf : f.kind = .function)
    (hname : f.payload = .text name) (ht : t.kind = .leftParen)
    (hnodes : list s inner .rightParen ts = .ok (nodes, rest)) :
    primary s inner (f :: t :: ts) =
      node s (.call name (nodes.map (·.expr))) (heightAll nodes + 1) rest := by
  simp only [primary, next, List.headD_cons, List.tail_cons, hf, hname, expect_cons ht, hnodes,
    ok_bind]

/-- Within the limit a call is made of the trees of its arguments. -/
theorem primary_call {f : Token} {name : String} (hf : f.kind = .function)
    (hname : f.payload = .text name) (ht : t.kind = .leftParen)
    (hes : list s inner .rightParen ts = .ok (es.map .of, rest))
    (room : (Expr.call name es).depth ≤ s.limit) :
    primary s inner (f :: t :: ts) = .ok (.of (.call name es), rest) := by
  rw [primary_function hf hname ht hes, map_expr_map_of, heightAll_map_of]
  exact node_of (by rw [Expr.depth, Nat.add_comm]) room rest

/-- Without an operator in front, an operand is one without operators. -/
theorem unary_operand (ht : UnaryOp.ofToken? t = none) :
    unary s behind inner (t :: ts) = primary s inner (t :: ts) := by
  have hnone : UnaryOp.ofToken? (next s (t :: ts)) = none := ht
  unfold unary
  rw [hnone]

/-- Within the limit an operator in front applies to the operand behind it. -/
theorem unary_inFront {op : UnaryOp} (ht : UnaryOp.ofToken? t = some op)
    (he : behind ts = .ok (.of e, rest)) (room : (Expr.unary op e).depth ≤ s.limit) :
    unary s behind inner (t :: ts) = .ok (.of (.unary op e), rest) := by
  simp only [unary, next, List.headD_cons, List.tail_cons, ht, he, ok_bind, Node.expr_of,
    Node.height_of]
  exact node_of (by rw [Expr.depth, Nat.add_comm]) room rest

/-- A climb leaves its left operand as it is in front of what stops its level. -/
theorem climb_stop (hs : s.finish.kind = .eof) (h : Stops least ts) (lhs : Expr) :
    climb s operand least budget (.of lhs) ts = .ok (.of lhs, ts) := by
  cases budget with
  | zero => rfl
  | succ budget =>
    simp only [climb, connective?_eq hs]
    cases hc : connective? ts with
    | none => rfl
    | some c => exact if_pos (h c hc)

/-- A climb wraps its left operand in a check behind it and goes on. -/
theorem climb_check {op : UnaryOp} {lhs : Expr}
    (ht : Connective.ofToken? t = some (.check op)) (hl : least ≤ suffixPrecedence)
    (room : (Expr.unary op lhs).depth ≤ s.limit) :
    climb s operand least (budget + 1) (.of lhs) (t :: ts) =
      climb s operand least budget (.of (.unary op lhs)) ts := by
  have hn : node s (.unary op lhs) (lhs.depth + 1) ts = .ok (.of (.unary op lhs), ts) :=
    node_of (by rw [Expr.depth, Nat.add_comm]) room ts
  simp only [climb, next, List.headD_cons, List.tail_cons, ht, Connective.precedence,
    if_neg (Nat.not_lt.2 hl), Node.expr_of, Node.height_of, hn, ok_bind]

/-- A climb takes a tighter right operand behind an operator and goes on with both. -/
theorem climb_binary {op : BinaryOp} {lhs rhs : Expr}
    (ht : Connective.ofToken? t = some (.binary op)) (hl : least ≤ op.precedence)
    (hr : operand (op.precedence + 1) ts = .ok (.of rhs, mid))
    (room : (Expr.binary op lhs rhs).depth ≤ s.limit) :
    climb s operand least (budget + 1) (.of lhs) (t :: ts) =
      climb s operand least budget (.of (.binary op lhs rhs)) mid := by
  have hn : node s (.binary op lhs rhs) (max lhs.depth rhs.depth + 1) mid =
      .ok (.of (.binary op lhs rhs), mid) :=
    node_of (by rw [Expr.depth, Nat.add_comm]) room mid
  simp only [climb, next, List.headD_cons, List.tail_cons, ht, Connective.precedence,
    if_neg (Nat.not_lt.2 hl), hr, Node.expr_of, Node.height_of, hn, ok_bind]

/-- An item in front of the closing bracket is the last one. -/
theorem items_last {n : Node} (he : inner ts = .ok (n, c :: rest)) (hc : c.kind = close)
    (hclose : closes close = true) : items s inner close budget ts = .ok ([n], rest) := by
  cases budget with
  | zero =>
    simp only [items, he, ok_bind, expect_cons hc]
    rfl
  | succ budget =>
    have hcomma : (next s (c :: rest)).kind ≠ .comma := by
      intro heq
      rw [← hc, show c.kind = .comma from heq] at hclose
      cases hclose
    simp only [items, he, ok_bind, if_neg hcomma, expect_cons hc]
    rfl

/-- Behind an item and a comma the other items follow. -/
theorem items_more {n : Node} {nodes : List Node} (he : inner ts = .ok (n, c :: mid))
    (hc : c.kind = .comma) (hes : items s inner close budget mid = .ok (nodes, rest)) :
    items s inner close (budget + 1) ts = .ok (n :: nodes, rest) := by
  have hcomma : (next s (c :: mid)).kind = .comma := hc
  simp only [items, he, ok_bind, if_pos hcomma, List.tail_cons, hes]
  rfl

/-- Brackets that do not close at once hold items. -/
theorem list_items (ht : startsExpr t.kind = true) (hclose : closes close = true) :
    list s inner close (t :: ts) = items s inner close (t :: ts).length (t :: ts) := by
  have hopen : (next s (t :: ts)).kind ≠ close := by
    rintro rfl
    cases hk : t.kind <;> simp_all [startsExpr, closes, next]
  unfold Parser.list
  rw [if_neg hopen]

end

/-- What the parser returns at a phrase with enough levels and budget. -/
def Phrase.Found (s : Setting) : Phrase → List Token → List Token → Prop
  | primary e, ts, rest => ∀ levels, ts.length ≤ levels →
      Parser.primary s (Parser.expr s levels 0) ts = .ok (.of e, rest)
  | unary e, ts, rest => ∀ levels, ts.length ≤ levels →
      Parser.unary s (Parser.operand s levels) (Parser.expr s levels 0) ts = .ok (.of e, rest)
  | climb least lhs e, ts, rest => ∀ levels budget, ts.length ≤ levels → ts.length ≤ budget →
      Parser.climb s (Parser.expr s levels) least budget (.of lhs) ts = .ok (.of e, rest)
  | expr least e, ts, rest => ∀ levels, ts.length < levels →
      Parser.expr s levels least ts = .ok (.of e, rest)
  | items close es, ts, rest => closes close = true → ∀ levels budget, ts.length < levels →
      ts.length ≤ budget →
        Parser.items s (Parser.expr s levels 0) close budget ts = .ok (es.map .of, rest)
  | list close es, ts, rest => closes close = true → ∀ levels, ts.length < levels →
      Parser.list s (Parser.expr s levels 0) close ts = .ok (es.map .of, rest)

/-- **Every reading is what the parser returns,** if the limit leaves room for the tokens and for
the operand that a climb starts from. -/
theorem Reads.found (hs : s.finish.kind = .eof) {p : Phrase} {ts rest : List Token}
    (h : Reads p ts rest) : p.start + ts.length ≤ s.limit → p.Found s ts rest := by
  induction h with
  | token ht =>
    intro _ levels _
    exact primary_leaf (Expr.ofToken?_eq_some.1 ht) _
  | paren ht h hc ih =>
    intro hl levels hlevels
    simp only [Phrase.start, List.length_cons] at hl hlevels ih
    exact primary_paren ht (ih (by omega) levels (by omega)) hc
  | array ht h ih =>
    intro hl levels hlevels
    have hdepth := h.height_add_length_le
    simp only [Phrase.start, Phrase.height, List.length_cons] at hl hlevels ih hdepth
    -- The items take up at least as many tokens as they are high, which leaves a level for the
    -- list.
    exact primary_array ht (ih (by omega) rfl levels (by omega)) (by rw [Expr.depth]; omega)
  | call hf hname ht h ih =>
    intro hl levels hlevels
    have hdepth := h.height_add_length_le
    simp only [Phrase.start, Phrase.height, List.length_cons] at hl hlevels ih hdepth
    exact primary_call hf hname ht (ih (by omega) rfl levels (by omega))
      (by rw [Expr.depth]; omega)
  | @operand e ts rest h ih =>
    intro hl levels hlevels
    obtain ⟨t, us, rfl⟩ : ∃ t us, ts = t :: us := by cases h <;> exact ⟨_, _, rfl⟩
    exact (unary_operand h.primary_head.2).trans (ih hl levels hlevels)
  | inFront ht h ih =>
    intro hl levels hlevels
    have hdepth := h.height_add_length_le
    simp only [Phrase.start, Phrase.height, List.length_cons] at hl hlevels ih hdepth
    obtain ⟨levels, rfl⟩ : ∃ k, levels = k + 1 := ⟨levels - 1, by omega⟩
    exact unary_inFront ht (ih (by omega) levels (by omega)) (by rw [Expr.depth]; omega)
  | @stop least lhs ts h =>
    intro _ levels budget _ _
    exact climb_stop hs h lhs
  | check ht hleast h ih =>
    intro hl levels budget hlevels hbudget
    simp only [Phrase.start, Expr.depth, List.length_cons] at hl hlevels hbudget ih
    obtain ⟨budget, rfl⟩ : ∃ k, budget = k + 1 := ⟨budget - 1, by omega⟩
    rw [climb_check ht hleast (by rw [Expr.depth]; omega)]
    exact ih (by omega) levels budget (by omega) (by omega)
  | binary ht hleast hr h ihr ih =>
    intro hl levels budget hlevels hbudget
    have hdepth := hr.height_add_length_le
    simp only [Phrase.start, Phrase.height, Expr.depth, List.length_cons]
      at hl hlevels hbudget ih ihr hdepth
    obtain ⟨budget, rfl⟩ : ∃ k, budget = k + 1 := ⟨budget - 1, by omega⟩
    have hrhs := ihr (by omega) levels (by omega)
    rw [climb_binary ht hleast hrhs (by rw [Expr.depth]; omega)]
    exact ih (by omega) levels budget (by omega) (by omega)
  | @expr least lhs e ts mid rest hu hc ihu ihc =>
    intro hl levels hlevels
    have hdepth := hu.height_add_length_le
    simp only [Phrase.start, Phrase.height] at hl hlevels ihu ihc hdepth
    obtain ⟨levels, rfl⟩ : ∃ k, levels = k + 1 := ⟨levels - 1, by omega⟩
    have hlhs := ihu hl levels (by omega)
    have he := ihc (by omega) levels mid.length (by omega) (Nat.le_refl _)
    simp only [Parser.expr, hlhs, ok_bind, he]
  | last h hc ih =>
    intro hl hclose levels budget hlevels _
    exact items_last (ih hl levels hlevels) hc hclose
  | more h hc hs' ih ihs =>
    intro hl hclose levels budget hlevels hbudget
    have hlt := h.length_lt
    simp only [Phrase.start, List.length_cons] at hl ih ihs hlt
    obtain ⟨budget, rfl⟩ : ∃ k, budget = k + 1 := ⟨budget - 1, by omega⟩
    exact items_more (ih hl levels hlevels) hc
      (ihs (by omega) hclose levels budget (by omega) (by omega))
  | empty hc =>
    intro _ _ levels _
    exact if_pos hc
  | some h ih =>
    intro hl hclose levels hlevels
    obtain ⟨t, us, rfl, ht⟩ := h.items_head
    exact (list_items ht hclose).trans (ih hl hclose levels _ hlevels (Nat.le_refl _))

/-! ### Whole expressions -/

/-- The setting of a run on all tokens of a source. -/
def Setting.whole (limit : Nat) (ts : List Token) : Setting :=
  ⟨limit, Token.atEnd ((ts.getLast?.map (·.position)).getD 0)⟩

/-- All tokens of a source are parsed as one expression, with nothing but the end behind it. -/
theorem ofTokens_eq (limit : Nat) (ts : List Token) :
    Expr.ofTokens limit ts = (Parser.expr (.whole limit ts) limit 0 ts >>= fun (n, rest) =>
      if (next (.whole limit ts) rest).kind = .eof then .ok n.expr
      else .error (.trailing (next (.whole limit ts) rest))) :=
  rfl

/-- The end comes next where no token is left, or where the one left is the end. -/
theorem next_whole_kind {limit : Nat} {ts rest : List Token} :
    (next (.whole limit ts) rest).kind = .eof ↔ ∀ t ∈ rest.head?, t.kind = .eof := by
  cases rest <;> simp [next, Setting.whole, Token.atEnd]

/-- What the parser makes of all tokens is a reading of them up to the end, whatever the limit. -/
theorem reads_of_ofTokens {limit : Nat} {ts : List Token} {e : Expr}
    (h : Expr.ofTokens limit ts = .ok e) :
    ∃ rest, Reads (.expr 0 e) ts rest ∧ ∀ t ∈ rest.head?, t.kind = .eof := by
  rw [ofTokens_eq] at h
  obtain ⟨⟨n, rest⟩, hn, h⟩ := bind_eq_ok.1 h
  obtain ⟨e', rfl, he⟩ := (returns_expr rfl limit).2 0 ts n rest hn
  dsimp only at h
  split at h
  · rename_i hend
    cases h
    exact ⟨rest, he, next_whole_kind.1 hend⟩
  · cases h

/-- A reading of all tokens up to the end is what the parser makes of them, if the limit is above
their number. -/
theorem ofTokens_of_reads {limit : Nat} {ts rest : List Token} {e : Expr}
    (h : Reads (.expr 0 e) ts rest) (hend : ∀ t ∈ rest.head?, t.kind = .eof)
    (hlimit : ts.length < limit) : Expr.ofTokens limit ts = .ok e := by
  have hn : Parser.expr (.whole limit ts) limit 0 ts = .ok (.of e, rest) :=
    h.found rfl (by simp only [Phrase.start, Setting.whole]; omega) limit hlimit
  rw [ofTokens_eq, hn, ok_bind]
  exact if_pos (next_whole_kind.2 hend)

end Parser
end SurveyLogic
