/-
# Reading undoes writing

An expression is written as tokens in many ways. `Renders` says which: parentheses may stand around
any expression, and must where an operand binds looser than its place demands.

| tree | written at level `m` as |
| --- | --- |
| any | its rendering at level 0 in parentheses |
| constant, variable | its token |
| call, list | the renderings of its items at level 0, with commas, in brackets |
| `not`, `-` | the token and the operand at level 7 |
| operator of level `p ≥ m` | the left operand at level `p`, the token, the right one at `p + 1` |
| `empty`, `notempty`, if `m ≤ 3` | the operand at level 3 and the word |

`ofTokens_rendering` says that the parser finds the tree again. The proof follows the renderings. A
rendering at a level is not read by one loop of the parser: the loop that reads its first operand
goes on with what stands behind it. So the statement for a rendering `ts` of `e` is about any loop
of a level up to that of `ts`: if the loop makes `e'` of `e` in front of `rest`, it makes `e'` of
`ts ++ rest`.
-/

import SurveyLogic.Proofs.Syntax.Reading

namespace SurveyLogic

open SurveyLogic.Parser

/-- What is written: a tree at some level, or the trees between a pair of brackets. -/
inductive Rendered where
  | expr (level : Nat) (e : Expr)
  | args (es : List Expr)

/-- `Renders r ts`: the tokens `ts` write `r`. -/
inductive Renders : Rendered → List Token → Prop where
  | paren {t c : Token} {level : Nat} {e : Expr} {ts : List Token} (ht : t.kind = .leftParen)
      (h : Renders (.expr 0 e) ts) (hc : c.kind = .rightParen) :
      Renders (.expr level e) (t :: (ts ++ [c]))
  | leaf {t : Token} {level : Nat} {e : Expr} (ht : e.leaf? = some t.content) :
      Renders (.expr level e) [t]
  | call {f t c : Token} {level : Nat} {name : String} {es : List Expr} {ts : List Token}
      (hf : f.content = (.function, .text name)) (ht : t.kind = .leftParen)
      (h : Renders (.args es) ts) (hc : c.kind = .rightParen) :
      Renders (.expr level (.call name es)) (f :: t :: (ts ++ [c]))
  | array {t c : Token} {level : Nat} {es : List Expr} {ts : List Token}
      (ht : t.kind = .leftBracket) (h : Renders (.args es) ts) (hc : c.kind = .rightBracket) :
      Renders (.expr level (.array es)) (t :: (ts ++ [c]))
  | inFront {t : Token} {level : Nat} {op : UnaryOp} {e : Expr} {ts : List Token}
      (hop : op.standsInFront = true) (ht : t.content = op.content)
      (h : Renders (.expr 7 e) ts) : Renders (.expr level (.unary op e)) (t :: ts)
  | binary {t : Token} {level : Nat} {op : BinaryOp} {l r : Expr} {text : String}
      {ts us : List Token} (hlevel : level ≤ op.precedence)
      (hl : Renders (.expr op.precedence l) ts) (htext : text ∈ op.spellings)
      (ht : t.content = (op.kind, .text text))
      (hr : Renders (.expr (op.precedence + 1) r) us) :
      Renders (.expr level (.binary op l r)) (ts ++ t :: us)
  | behind {t : Token} {level : Nat} {op : UnaryOp} {e : Expr} {ts : List Token}
      (hlevel : level ≤ 3) (h : Renders (.expr 3 e) ts) (hop : op.standsInFront = false)
      (ht : t.content = op.content) :
      Renders (.expr level (.unary op e)) (ts ++ [t])
  | none : Renders (.args []) []
  | one {e : Expr} {ts : List Token} (h : Renders (.expr 0 e) ts) : Renders (.args [e]) ts
  | more {c : Token} {e e' : Expr} {es : List Expr} {ts us : List Token}
      (h : Renders (.expr 0 e) ts) (hc : c.kind = .comma) (hs : Renders (.args (e' :: es)) us) :
      Renders (.args (e :: e' :: es)) (ts ++ c :: us)

/-- How the parser reads what is written. A tree at level 7 is an operand whatever follows. -/
def Rendered.Read : Rendered → List Token → Prop
  | expr level e, ts =>
    (∀ rest, Stops (level + 1) rest → ∀ least ≤ level, ∀ e' rest',
      Reads (.climb least e e') rest rest' → Reads (.expr least e') (ts ++ rest) rest') ∧
    (7 ≤ level → ∀ rest, Reads (.unary e) (ts ++ rest) rest)
  | args es, ts => ∀ close c rest, closes close = true → c.kind = close →
    Reads (.list close es) (ts ++ c :: rest) rest ∧
      (es ≠ [] → Reads (.items close es) (ts ++ c :: rest) rest)

/-- An operand whatever follows is read at every level. -/
theorem Rendered.read_of_unary {level : Nat} {e : Expr} {ts : List Token}
    (h : ∀ rest, Reads (.unary e) (ts ++ rest) rest) : (Rendered.expr level e).Read ts :=
  ⟨fun rest _ _ _ _ _ hclimb => .expr (h rest) hclimb, fun _ => h⟩

/-- No operator between operands binds tighter than `^`. -/
theorem BinaryOp.precedence_le (op : BinaryOp) : op.precedence ≤ 6 := by
  cases op <;> decide

/-- A tree at level 0 is read as a whole in front of a closing bracket, a comma or the end. -/
theorem Rendered.Read.whole {e : Expr} {ts : List Token} (h : (Rendered.expr 0 e).Read ts)
    {rest : List Token} (hrest : Stops 0 rest) : Reads (.expr 0 e) (ts ++ rest) rest :=
  h.1 rest (stops_mono (Nat.zero_le _) hrest) 0 (Nat.le_refl _) e rest (.stop hrest)

/-- **What is written is read,** by any loop of the parser that it may stand in. -/
theorem Renders.read {r : Rendered} {ts : List Token} (h : Renders r ts) : r.Read ts := by
  induction h with
  | @paren t c level e ts ht h hc ih =>
    refine Rendered.read_of_unary fun rest => ?_
    have he := ih.whole (stops_of_kind (.inl hc) 0 rest)
    simpa using Reads.operand (.paren ht he hc)
  | leaf ht =>
    exact Rendered.read_of_unary fun rest => .operand (.token (Expr.ofToken?_eq_some.2 ht))
  | @call f t c level name es ts hf ht h hc ih =>
    refine Rendered.read_of_unary fun rest => ?_
    have hes := (ih .rightParen c rest rfl hc).1
    have hkind : f.kind = .function := congrArg Prod.fst hf
    have hname : f.payload = .text name := congrArg Prod.snd hf
    simpa using Reads.operand (.call hkind hname ht hes)
  | @array t c level es ts ht h hc ih =>
    refine Rendered.read_of_unary fun rest => ?_
    have hes := (ih .rightBracket c rest rfl hc).1
    simpa using Reads.operand (.array ht hes)
  | @inFront t level op e ts hop ht h ih =>
    refine Rendered.read_of_unary fun rest => ?_
    exact .inFront (UnaryOp.ofToken?_eq_some.2 ⟨hop, ht⟩) (ih.2 (Nat.le_refl 7) rest)
  | @binary t level op l r text ts us hlevel hl htext ht hr ihl ihr =>
    have hop : Connective.ofToken? t = some (.binary op) :=
      Connective.ofToken?_eq_binary.2 ⟨text, htext, ht⟩
    refine ⟨fun rest hrest least hleast e' rest' hclimb => ?_, fun h7 => ?_⟩
    · -- The right operand ends before `rest`: what binds at level `level` is too loose for it.
      have hright : Reads (.expr (op.precedence + 1) r) (us ++ rest) rest :=
        ihr.1 rest (stops_mono (by omega) hrest) _ (Nat.le_refl _) r rest
          (.stop (stops_mono (by omega) hrest))
      have hstep : Reads (.climb least l e') (t :: (us ++ rest)) rest' :=
        .binary hop (by omega) hright hclimb
      have hleft := ihl.1 (t :: (us ++ rest)) ((stops_cons hop).2 (Nat.lt_succ_self _)) least
        (by omega) e' rest' hstep
      simpa using hleft
    · have := op.precedence_le
      omega
  | @behind t level op e ts hlevel h hop ht ih =>
    have hcheck : Connective.ofToken? t = some (.check op) :=
      Connective.ofToken?_eq_check.2 ⟨hop, ht⟩
    refine ⟨fun rest hrest least hleast e' rest' hclimb => ?_, fun h7 => ?_⟩
    · have hstep : Reads (.climb least e e') (t :: rest) rest' :=
        .check hcheck (Nat.le_trans hleast hlevel) hclimb
      have harg := ih.1 (t :: rest) ((stops_cons hcheck).2 (Nat.lt_succ_self _)) least
        (by omega) e' rest' hstep
      simpa using harg
    · omega
  | none =>
    intro close c rest _ hc
    exact ⟨.empty hc, fun h => absurd rfl h⟩
  | @one e ts h ih =>
    intro close c rest hclose hc
    have hstop : Stops 0 (c :: rest) :=
      stops_of_kind (by cases close <;> simp_all [closes]) 0 rest
    have hes : Reads (.items close [e]) (ts ++ c :: rest) rest := .last (ih.whole hstop) hc
    exact ⟨.some hes, fun _ => hes⟩
  | @more comma e e' es ts us h hcomma hs ih ihs =>
    intro close c rest hclose hc
    have hfirst := ih.whole (stops_of_kind (.inr (.inr (.inl hcomma))) 0 (us ++ c :: rest))
    have hrest := (ihs close c rest hclose hc).2 (List.cons_ne_nil _ _)
    have hes : Reads (.items close (e :: e' :: es)) (ts ++ comma :: us ++ c :: rest) rest := by
      simpa using Reads.more hfirst hcomma hrest
    exact ⟨.some hes, fun _ => hes⟩

/-- **Reading undoes writing.** Whatever tokens write a tree, with parentheses wherever they are
allowed and operators in either spelling, the parser makes this tree of them, if the limit is above
the number of tokens with the end. -/
theorem ofTokens_rendering {e : Expr} {ts : List Token} (h : Renders (.expr 0 e) ts)
    {limit position : Nat} (hlimit : (ts ++ [Token.atEnd position]).length < limit) :
    Expr.ofTokens limit (ts ++ [Token.atEnd position]) = .ok e := by
  have hstop : Stops 0 [Token.atEnd position] := stops_of_kind (.inr (.inr (.inr rfl))) 0 []
  have hread := h.read.whole hstop
  exact ofTokens_of_reads hread (by simp [Token.atEnd]) hlimit

/-- The hypotheses of `ofTokens_rendering` are satisfiable: `({a}) - {b} == {c} empty` asks whether
the comparison is empty, and the comparison is of the difference. -/
theorem ofTokens_rendering_mixed :
    Renders
      (.expr 0 (.unary .empty (.binary .eq (.binary .sub (.var "a") (.var "b")) (.var "c"))))
      [⟨.leftParen, .none, 0⟩, ⟨.reference, .text "a", 1⟩, ⟨.rightParen, .none, 4⟩,
        ⟨.operator, .text "-", 6⟩, ⟨.reference, .text "b", 8⟩, ⟨.comparison, .text "==", 12⟩,
        ⟨.reference, .text "c", 15⟩, ⟨.comparison, .text "empty", 19⟩] ∧
    Expr.ofTokens 10
      ([⟨.leftParen, .none, 0⟩, ⟨.reference, .text "a", 1⟩, ⟨.rightParen, .none, 4⟩,
        ⟨.operator, .text "-", 6⟩, ⟨.reference, .text "b", 8⟩, ⟨.comparison, .text "==", 12⟩,
        ⟨.reference, .text "c", 15⟩, ⟨.comparison, .text "empty", 19⟩] ++ [Token.atEnd 24]) =
      .ok (.unary .empty (.binary .eq (.binary .sub (.var "a") (.var "b")) (.var "c"))) := by
  have hgroup : Renders (.expr 4 (.var "a"))
      [⟨.leftParen, .none, 0⟩, ⟨.reference, .text "a", 1⟩, ⟨.rightParen, .none, 4⟩] :=
    .paren rfl (.leaf rfl) rfl
  have hsub : Renders (.expr 3 (.binary .sub (.var "a") (.var "b")))
      ([⟨.leftParen, .none, 0⟩, ⟨.reference, .text "a", 1⟩, ⟨.rightParen, .none, 4⟩] ++
        ⟨.operator, .text "-", 6⟩ :: [⟨.reference, .text "b", 8⟩]) :=
    .binary (by decide) hgroup (List.mem_singleton_self "-") rfl (.leaf rfl)
  have heq : Renders (.expr 3 (.binary .eq (.binary .sub (.var "a") (.var "b")) (.var "c")))
      ([⟨.leftParen, .none, 0⟩, ⟨.reference, .text "a", 1⟩, ⟨.rightParen, .none, 4⟩,
        ⟨.operator, .text "-", 6⟩, ⟨.reference, .text "b", 8⟩] ++
          ⟨.comparison, .text "==", 12⟩ :: [⟨.reference, .text "c", 15⟩]) :=
    .binary (by decide) hsub (.tail _ (.head _)) rfl (.leaf rfl)
  have h : Renders
      (.expr 0 (.unary .empty (.binary .eq (.binary .sub (.var "a") (.var "b")) (.var "c"))))
      ([⟨.leftParen, .none, 0⟩, ⟨.reference, .text "a", 1⟩, ⟨.rightParen, .none, 4⟩,
        ⟨.operator, .text "-", 6⟩, ⟨.reference, .text "b", 8⟩, ⟨.comparison, .text "==", 12⟩,
        ⟨.reference, .text "c", 15⟩] ++ [⟨.comparison, .text "empty", 19⟩]) :=
    .behind (by decide) heq rfl rfl
  exact ⟨h, ofTokens_rendering h (by decide)⟩

end SurveyLogic
