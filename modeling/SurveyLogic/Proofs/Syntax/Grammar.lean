/-
# The language of expressions

The grammar without levels, and what a tree keeps of its tokens.

```
expr    ::= unary ( binop unary | 'empty' | 'notempty' )*
unary   ::= ( 'not' | '-' )* primary
primary ::= '(' expr ')' | FUNCTION '(' [ expr ( ',' expr )* ] ')' | '[' [ expr ( ',' expr )* ] ']'
          | REFERENCE | NUMBER | STRING | BOOLEAN
```

`ofTokens_iff_derives`: the parser accepts what this grammar derives and nothing else, and the tree
it makes has all its tokens in order, but for the parentheses that only group. One half reads a
derivation off what the parser read. The other half needs that no connective is ever left over: a
loop of a level stops in front of a looser connective, and the loop around it goes on there; the
outermost loop, of level 0, stops at no connective at all.
-/

import SurveyLogic.Proofs.Syntax.Reading
import SurveyLogic.Proofs.Token.Lexed

namespace SurveyLogic

open SurveyLogic.Parser

namespace Token

/-- A token that writes an operator between two operands. -/
def IsBinary (t : Token) : Prop :=
  ∃ op : BinaryOp, ∃ s ∈ op.spellings, t.content = (op.kind, .text s)

/-- `empty` or `notempty`. -/
def IsCheck (t : Token) : Prop :=
  t.content = (.comparison, .text "empty") ∨ t.content = (.comparison, .text "notempty")

/-- `not` or `-`. -/
def IsFront (t : Token) : Prop :=
  t.content = (.logical, .text "not") ∨ t.content = (.operator, .text "-")

/-- A reference, a number, a string or a truth value. -/
def IsLeaf (t : Token) : Prop :=
  t.kind = .reference ∨ t.kind = .number ∨ t.kind = .string ∨ t.kind = .boolean

end Token

/-- The symbols of the grammar that stand for several tokens. -/
inductive Symbol where
  | expr
  | tail
  | unary
  | primary
  | items
  | list

/-- `Derives x ts`: the symbol `x` derives the tokens `ts`. -/
inductive Derives : Symbol → List Token → Prop where
  | expr {ts us : List Token} (hu : Derives .unary ts) (h : Derives .tail us) :
      Derives .expr (ts ++ us)
  | done : Derives .tail []
  | binary {t : Token} {ts us : List Token} (ht : t.IsBinary) (hu : Derives .unary ts)
      (h : Derives .tail us) : Derives .tail (t :: (ts ++ us))
  | check {t : Token} {ts : List Token} (ht : t.IsCheck) (h : Derives .tail ts) :
      Derives .tail (t :: ts)
  | front {t : Token} {ts : List Token} (ht : t.IsFront) (h : Derives .unary ts) :
      Derives .unary (t :: ts)
  | operand {ts : List Token} (h : Derives .primary ts) : Derives .unary ts
  | paren {t c : Token} {ts : List Token} (ht : t.kind = .leftParen) (h : Derives .expr ts)
      (hc : c.kind = .rightParen) : Derives .primary (t :: (ts ++ [c]))
  | call {f t c : Token} {ts : List Token} (hf : f.kind = .function) (ht : t.kind = .leftParen)
      (h : Derives .list ts) (hc : c.kind = .rightParen) :
      Derives .primary (f :: t :: (ts ++ [c]))
  | array {t c : Token} {ts : List Token} (ht : t.kind = .leftBracket) (h : Derives .list ts)
      (hc : c.kind = .rightBracket) : Derives .primary (t :: (ts ++ [c]))
  | leaf {t : Token} (ht : t.IsLeaf) : Derives .primary [t]
  | empty : Derives .list []
  | some {ts : List Token} (h : Derives .items ts) : Derives .list ts
  | last {ts : List Token} (h : Derives .expr ts) : Derives .items ts
  | more {c : Token} {ts us : List Token} (h : Derives .expr ts) (hc : c.kind = .comma)
      (hs : Derives .items us) : Derives .items (ts ++ c :: us)

/-- Two derived tails are one tail. -/
theorem Derives.tail_append {ts us : List Token} (h : Derives .tail ts) (h' : Derives .tail us) :
    Derives .tail (ts ++ us) := by
  generalize hx : Symbol.tail = x at h
  induction h with
  | done => exact h'
  | @binary t vs ws ht hu _ _ ih => simpa using Derives.binary ht hu (ih hx)
  | check ht _ ih => exact .check ht (ih hx)
  | _ => cases hx

/-- A derived expression behind an operator is an operand and further connectives. -/
theorem Derives.binary_expr {t : Token} (ht : t.IsBinary) {ts us : List Token}
    (h : Derives .expr ts) (h' : Derives .tail us) : Derives .tail (t :: (ts ++ us)) := by
  cases h with
  | expr hu hv => simpa using Derives.binary ht hu (Derives.tail_append hv h')

namespace Token

/-- A token with its operator in the usual spelling, apart from its position. -/
def normal (t : Token) : Content :=
  match t.kind, t.payload with
  | .comparison, .text "==" => (.comparison, .text "=")
  | .comparison, .text "!=" => (.comparison, .text "<>")
  | kind, payload => (kind, payload)

/-- The tokens without the parentheses that group. `calls` tells of each open parenthesis, the
innermost first, whether it belongs to a call; `call` whether the token before is a function. -/
def ungrouped (calls : List Bool) (call : Bool) : List Token → List Token
  | [] => []
  | t :: ts =>
    match t.kind with
    | .leftParen =>
      if call then t :: ungrouped (true :: calls) false ts else ungrouped (false :: calls) false ts
    | .rightParen =>
      match calls with
      | false :: calls => ungrouped calls false ts
      | true :: calls => t :: ungrouped calls false ts
      | [] => t :: ungrouped [] false ts
    | .function => t :: ungrouped calls true ts
    | _ => t :: ungrouped calls false ts

end Token

namespace Expr

mutual

/-- The tokens of a tree from left to right, without positions. -/
def tokens : Expr → List Token.Content
  | literal l => [l.content]
  | var path => [(.reference, .text path)]
  | unary op arg =>
    if op.standsInFront then op.content :: tokens arg else tokens arg ++ [op.content]
  | binary op lhs rhs => tokens lhs ++ (op.kind, .text op.symbol) :: tokens rhs
  | call name args =>
    (.function, .text name) :: (.leftParen, .none) :: (tokensAll args ++ [(.rightParen, .none)])
  | array items => (.leftBracket, .none) :: (tokensAll items ++ [(.rightBracket, .none)])

/-- The tokens of some trees with commas between them. -/
def tokensAll : List Expr → List Token.Content
  | [] => []
  | [e] => tokens e
  | e :: e' :: es => tokens e ++ (.comma, .none) :: tokensAll (e' :: es)

end

end Expr

/-! ### Grouping parentheses -/

namespace Token

/-- Without the parentheses that group, `ts` is `out`, whatever stands around it. -/
def Ungroups (ts out : List Token) : Prop :=
  ∀ calls rest, ungrouped calls false (ts ++ rest) = out ++ ungrouped calls false rest

theorem Ungroups.nil : Ungroups [] [] :=
  fun _ _ => rfl

/-- Grouping parentheses are left out of two parts separately. -/
theorem Ungroups.append {ts us out more : List Token} (h : Ungroups ts out)
    (h' : Ungroups us more) : Ungroups (ts ++ us) (out ++ more) := by
  intro calls rest
  rw [List.append_assoc, h, h', List.append_assoc]

/-- The kinds that matter for grouping. -/
def groups : Kind → Bool
  | .leftParen | .rightParen | .function => true
  | _ => false

/-- A token that has nothing to do with parentheses stays. -/
theorem Ungroups.cons {t : Token} (ht : groups t.kind = false) {ts out : List Token}
    (h : Ungroups ts out) : Ungroups (t :: ts) (t :: out) := by
  intro calls rest
  have hstep : ungrouped calls false (t :: (ts ++ rest)) =
      t :: ungrouped calls false (ts ++ rest) := by
    simp only [ungrouped]
    split
    · simp_all [groups]
    · simp_all [groups]
    · simp_all [groups]
    · rfl
  rw [List.cons_append, hstep, h, List.cons_append]

/-- Parentheses that are not behind a function are left out. -/
theorem Ungroups.paren {t c : Token} (ht : t.kind = .leftParen) (hc : c.kind = .rightParen)
    {ts out : List Token} (h : Ungroups ts out) : Ungroups (t :: (ts ++ [c])) out := by
  intro calls rest
  have hopen : ungrouped calls false (t :: (ts ++ [c] ++ rest)) =
      ungrouped (false :: calls) false (ts ++ (c :: rest)) := by
    simp [ungrouped, ht]
  have hclose : ungrouped (false :: calls) false (c :: rest) = ungrouped calls false rest := by
    simp [ungrouped, hc]
  rw [List.cons_append, hopen, h, hclose]

/-- Parentheses behind a function stay. -/
theorem Ungroups.call {f t c : Token} (hf : f.kind = .function) (ht : t.kind = .leftParen)
    (hc : c.kind = .rightParen) {ts out : List Token} (h : Ungroups ts out) :
    Ungroups (f :: t :: (ts ++ [c])) (f :: t :: (out ++ [c])) := by
  intro calls rest
  have hopen : ungrouped calls false (f :: t :: (ts ++ [c] ++ rest)) =
      f :: t :: ungrouped (true :: calls) false (ts ++ (c :: rest)) := by
    simp [ungrouped, hf, ht]
  have hclose : ungrouped (true :: calls) false (c :: rest) =
      c :: ungrouped calls false rest := by
    simp [ungrouped, hc]
  rw [List.cons_append, List.cons_append, hopen, h, hclose]
  simp

/-! ### Tokens in their usual spelling -/

/-- Only comparisons have a second spelling. -/
theorem normal_of_kind {t : Token} (h : t.kind ≠ .comparison) : t.normal = t.content := by
  unfold normal
  split <;> first | contradiction | rfl

/-- A spelling of a binary operator is brought to its symbol. -/
theorem normal_of_binary {t : Token} {op : BinaryOp} {s : String} (hs : s ∈ op.spellings)
    (ht : t.content = (op.kind, .text s)) : t.normal = (op.kind, .text op.symbol) := by
  obtain ⟨kind, payload, position⟩ := t
  simp only [content, Prod.mk.injEq] at ht
  obtain ⟨rfl, rfl⟩ := ht
  cases op <;> simp [BinaryOp.spellings, BinaryOp.symbol] at hs
  case eq | ne => rcases hs with rfl | rfl <;> rfl
  all_goals subst hs; rfl

/-- The operators in front and the checks have one spelling. -/
theorem normal_of_unary {t : Token} {op : UnaryOp} (ht : t.content = op.content) :
    t.normal = op.content := by
  obtain ⟨kind, payload, position⟩ := t
  simp only [content] at ht
  cases op <;> simp only [UnaryOp.content, Prod.mk.injEq] at ht <;> obtain ⟨rfl, rfl⟩ := ht <;> rfl

/-- The kinds without payload, the end apart. -/
def isPunctuation : Kind → Bool
  | .leftParen | .rightParen | .leftBracket | .rightBracket | .comma | .dot => true
  | _ => false

/-- A bracket or a comma of the lexer has no payload. -/
theorem normal_of_punctuation {t : Token} {kind : Kind} (h : t.kind = .eof ∨ t.Lexed)
    (hk : t.kind = kind) (hp : isPunctuation kind = true) : t.normal = (kind, .none) := by
  obtain ⟨k, payload, position⟩ := t
  obtain rfl : k = kind := hk
  cases k <;> cases hp <;> cases payload <;> simp_all [Lexed, Suits, normal]

/-- A binary operator has nothing to do with parentheses. -/
theorem groups_of_binary {t : Token} (ht : t.IsBinary) : groups t.kind = false := by
  obtain ⟨op, s, -, hcontent⟩ := ht
  have hkind : t.kind = op.kind := congrArg Prod.fst hcontent
  rw [hkind]
  cases op <;> rfl

/-- An operator in front or a check has nothing to do with parentheses. -/
theorem groups_of_unary {t : Token} {op : UnaryOp} (ht : t.content = op.content) :
    groups t.kind = false := by
  have hkind : t.kind = op.content.1 := congrArg Prod.fst ht
  rw [hkind]
  cases op <;> rfl

/-- The operators that stand in front are the two of the grammar. -/
theorem isFront_of_unary {t : Token} {op : UnaryOp} (hop : op.standsInFront = true)
    (ht : t.content = op.content) : t.IsFront := by
  cases op with
  | not => exact .inl ht
  | negate => exact .inr ht
  | empty | notEmpty => cases hop

/-- The operators that stand behind are the two checks of the grammar. -/
theorem isCheck_of_unary {t : Token} {op : UnaryOp} (hop : op.standsInFront = false)
    (ht : t.content = op.content) : t.IsCheck := by
  cases op with
  | not | negate => cases hop
  | empty => exact .inl ht
  | notEmpty => exact .inr ht

/-- The token of a leaf is one of the grammar and the only one of the tree. -/
theorem isLeaf_of_leaf {t : Token} {e : Expr} (h : e.leaf? = some t.content) :
    t.IsLeaf ∧ groups t.kind = false ∧ [t.normal] = e.tokens := by
  obtain ⟨kind, payload, position⟩ := t
  rcases e with l | path | _ | _ | _ | _ <;> simp [Expr.leaf?, content] at h
  · cases l <;> simp [Literal.content] at h <;> obtain ⟨rfl, rfl⟩ := h <;>
      simp [IsLeaf, groups, normal, Expr.tokens, Literal.content]
  · obtain ⟨rfl, rfl⟩ := h
    simp [IsLeaf, groups, normal, Expr.tokens]

end Token

/-! ### What is read is derived -/

namespace Parser

/-- The symbol of the grammar that derives the tokens of a phrase, a closing bracket apart. -/
def Phrase.symbol : Phrase → Symbol
  | primary _ => .primary
  | unary _ => .unary
  | climb _ _ _ => .tail
  | expr _ _ => .expr
  | items _ _ => .items
  | list _ _ => .list

/-- The tokens that a phrase starts from: those of the left operand of a climb. -/
def Phrase.before : Phrase → List Token.Content
  | climb _ lhs _ => lhs.tokens
  | _ => []

/-- The tokens of what a phrase reads. -/
def Phrase.after : Phrase → List Token.Content
  | primary e | unary e | climb _ _ e | expr _ e => e.tokens
  | items _ es | list _ es => Expr.tokensAll es

/-- What stands behind the tokens of a phrase: `rest`, and a closing bracket before it if the phrase
takes one up. -/
def Phrase.Ends (rest : List Token) : Phrase → List Token → Prop
  | items close _, end_ | list close _, end_ => ∃ c, c.kind = close ∧ end_ = c :: rest
  | _, end_ => end_ = rest

/-- The tokens `used` of a phrase are derived, and make up what it adds to the tree. -/
structure Phrase.Derived (p : Phrase) (used : List Token) : Prop where
  derives : Derives p.symbol used
  tokens : ∃ out, Token.Ungroups used out ∧ p.before ++ out.map Token.normal = p.after

/-- In front of further trees a tree is followed by a comma. -/
theorem tokensAll_cons (e : Expr) {es : List Expr} (h : es ≠ []) :
    Expr.tokensAll (e :: es) = e.tokens ++ (.comma, .none) :: Expr.tokensAll es := by
  cases es with
  | nil => exact absurd rfl h
  | cons e' es => rw [Expr.tokensAll]

/-- Items are at least one. -/
theorem Reads.items_ne_nil {close : Token.Kind} {es : List Expr} {ts rest : List Token}
    (h : Reads (.items close es) ts rest) : es ≠ [] := by
  cases h <;> exact List.cons_ne_nil _ _

/-- **What is read is derived,** and the tree has the tokens that are used, but for the parentheses
that group. -/
theorem Reads.derived {p : Phrase} {ts rest : List Token} (h : Reads p ts rest) :
    (∀ t ∈ ts, t.kind = .eof ∨ t.Lexed) →
      ∃ used end_, ts = used ++ end_ ∧ p.Ends rest end_ ∧ p.Derived used := by
  induction h with
  | @token t e rest ht =>
    intro _
    have hleaf := Expr.ofToken?_eq_some.1 ht
    obtain ⟨hl, hgroups, htokens⟩ := Token.isLeaf_of_leaf hleaf
    exact ⟨[t], rest, rfl, rfl, .leaf hl, [t], .cons hgroups .nil, htokens⟩
  | @paren t c e ts rest ht h hc ih =>
    intro hts
    obtain ⟨used, _, rfl, rfl, hd, out, hout, htokens⟩ := ih fun u hu => hts u (.tail _ hu)
    refine ⟨t :: (used ++ [c]), rest, by simp, rfl, .paren ht hd hc, out, hout.paren ht hc, htokens⟩
  | @array t es ts rest ht h ih =>
    intro hts
    obtain ⟨used, _, rfl, ⟨c, hc, rfl⟩, hd, out, hout, htokens⟩ := ih fun u hu => hts u (.tail _ hu)
    have hnt : t.normal = _ := Token.normal_of_punctuation (hts t (by simp)) ht rfl
    have hnc : c.normal = _ := Token.normal_of_punctuation (hts c (by simp)) hc rfl
    refine ⟨t :: (used ++ [c]), rest, by simp, rfl, .array ht hd hc, t :: (out ++ [c]), ?_, ?_⟩
    · have hclose : Token.Ungroups [c] [c] := .cons (by rw [hc]; rfl) .nil
      exact .cons (by rw [ht]; rfl) (hout.append hclose)
    · simpa [Phrase.before, Phrase.after, Expr.tokens, hnt, hnc] using htokens
  | @call f t name es ts rest hf hname ht h ih =>
    intro hts
    obtain ⟨used, _, rfl, ⟨c, hc, rfl⟩, hd, out, hout, htokens⟩ :=
      ih fun u hu => hts u (.tail _ (.tail _ hu))
    have hnf : f.normal = (.function, .text name) := by
      rw [Token.normal_of_kind (by rw [hf]; decide), Token.content, hf, hname]
    have hnt : t.normal = _ := Token.normal_of_punctuation (hts t (by simp)) ht rfl
    have hnc : c.normal = _ := Token.normal_of_punctuation (hts c (by simp)) hc rfl
    refine ⟨f :: t :: (used ++ [c]), rest, by simp, rfl, .call hf ht hd hc,
      f :: t :: (out ++ [c]), hout.call hf ht hc, ?_⟩
    simpa [Phrase.before, Phrase.after, Expr.tokens, hnf, hnt, hnc] using htokens
  | operand h ih =>
    intro hts
    obtain ⟨used, _, rfl, rfl, hd, hout⟩ := ih hts
    exact ⟨used, _, rfl, rfl, .operand hd, hout⟩
  | @inFront t op e ts rest ht h ih =>
    intro hts
    obtain ⟨used, _, rfl, rfl, hd, out, hout, htokens⟩ := ih fun u hu => hts u (.tail _ hu)
    obtain ⟨hop, hcontent⟩ := UnaryOp.ofToken?_eq_some.1 ht
    refine ⟨t :: used, _, rfl, rfl, .front (Token.isFront_of_unary hop hcontent) hd, t :: out,
      .cons (Token.groups_of_unary hcontent) hout, ?_⟩
    simpa [Phrase.before, Phrase.after, Expr.tokens, hop, Token.normal_of_unary hcontent]
      using htokens
  | stop h =>
    intro _
    exact ⟨[], _, rfl, rfl, .done, [], .nil, by simp [Phrase.before, Phrase.after]⟩
  | @check t op least lhs e ts rest ht hl h ih =>
    intro hts
    obtain ⟨used, _, rfl, rfl, hd, out, hout, htokens⟩ := ih fun u hu => hts u (.tail _ hu)
    obtain ⟨hop, hcontent⟩ := Connective.ofToken?_eq_check.1 ht
    refine ⟨t :: used, _, rfl, rfl, .check (Token.isCheck_of_unary hop hcontent) hd, t :: out,
      .cons (Token.groups_of_unary hcontent) hout, ?_⟩
    simpa [Phrase.before, Phrase.after, Expr.tokens, hop, Token.normal_of_unary hcontent]
      using htokens
  | @binary t op least lhs rhs e ts mid rest ht hl hr h ihr ih =>
    intro hts
    obtain ⟨usedr, _, rfl, rfl, hdr, outr, houtr, htokensr⟩ := ihr fun u hu => hts u (.tail _ hu)
    obtain ⟨used, _, rfl, rfl, hd, out, hout, htokens⟩ :=
      ih fun u hu => hts u (.tail _ (List.mem_append_right _ hu))
    obtain ⟨text, htext, hcontent⟩ := Connective.ofToken?_eq_binary.1 ht
    have hbinary : t.IsBinary := ⟨op, text, htext, hcontent⟩
    -- The right operand is derived as an expression, whose tail is joined with what the climb
    -- takes.
    refine ⟨t :: (usedr ++ used), _, by simp, rfl, Derives.binary_expr hbinary hdr hd,
      t :: (outr ++ out), .cons (Token.groups_of_binary hbinary) (houtr.append hout), ?_⟩
    simp only [Phrase.before, Phrase.after, List.nil_append] at htokens htokensr
    simp [Phrase.before, Phrase.after, ← htokens, ← htokensr, Expr.tokens,
      Token.normal_of_binary htext hcontent]
  | @expr least lhs e ts mid rest hu hc ihu ihc =>
    intro hts
    obtain ⟨usedu, _, rfl, rfl, hdu, outu, houtu, htokensu⟩ := ihu hts
    obtain ⟨used, _, rfl, rfl, hd, out, hout, htokens⟩ :=
      ihc fun u hu => hts u (List.mem_append_right _ hu)
    refine ⟨usedu ++ used, _, by simp, rfl, .expr hdu hd, outu ++ out, houtu.append hout, ?_⟩
    simp only [Phrase.before, Phrase.after, List.nil_append] at htokens htokensu
    simp [Phrase.before, Phrase.after, ← htokens, ← htokensu]
  | @last c close e ts rest h hc ih =>
    intro hts
    obtain ⟨used, _, rfl, rfl, hd, hout⟩ := ih hts
    exact ⟨used, _, rfl, ⟨c, hc, rfl⟩, .last hd, hout⟩
  | @more c close e es ts mid rest h hc hs ih ihs =>
    intro hts
    obtain ⟨used, _, rfl, rfl, hd, out, hout, htokens⟩ := ih hts
    obtain ⟨useds, end_, rfl, hend, hds, outs, houts, htokenss⟩ :=
      ihs fun u hu => hts u (List.mem_append_right _ (.tail _ hu))
    have hnc : c.normal = _ := Token.normal_of_punctuation (hts c (by simp)) hc rfl
    refine ⟨used ++ c :: useds, end_, by simp, hend, .more hd hc hds, out ++ c :: outs,
      hout.append (.cons (by rw [hc]; rfl) houts), ?_⟩
    simp only [Phrase.before, Phrase.after, List.nil_append, List.map_append, List.map_cons] at *
    rw [htokens, htokenss, hnc, tokensAll_cons e hs.items_ne_nil]
  | @empty c close rest hc =>
    intro _
    exact ⟨[], _, rfl, ⟨c, hc, rfl⟩, .empty, [], .nil, rfl⟩
  | some h ih =>
    intro hts
    obtain ⟨used, end_, rfl, hend, hd, hout⟩ := ih hts
    exact ⟨used, end_, rfl, hend, .some hd, hout⟩

/-! ### What is derived is read -/

/-- Connectives behind an operand, each with an operand that the parser reads whatever follows. -/
inductive Chain : List Token → Prop where
  | nil : Chain []
  | check {t : Token} {op : UnaryOp} {ts : List Token}
      (ht : Connective.ofToken? t = some (.check op)) (h : Chain ts) : Chain (t :: ts)
  | binary {t : Token} {op : BinaryOp} {e : Expr} {ts us : List Token}
      (ht : Connective.ofToken? t = some (.binary op))
      (he : ∀ rest, Reads (.unary e) (ts ++ rest) rest) (h : Chain us) : Chain (t :: (ts ++ us))

/-- Behind an empty chain a climb stops at once and leaves nothing. -/
theorem Chain.climb_nil (least : Nat) (lhs : Expr) : ∃ e left, Chain left ∧
    left.length ≤ ([] : List Token).length ∧ Stops least left ∧
      ∀ rest, Stops 0 rest → Reads (.climb least lhs e) ([] ++ rest) (left ++ rest) :=
  ⟨lhs, [], .nil, Nat.le_refl _, stops_nil least,
    fun _ hrest => .stop (stops_mono (Nat.zero_le _) hrest)⟩

/-- **No connective is lost.** A loop of any level reads some connectives of a chain and leaves a
chain again, which starts with a looser connective unless it is empty. The induction is on the
length, for the loop goes on with what the loop of its right operand left. -/
theorem Chain.climb (n : Nat) : ∀ {ts : List Token}, ts.length ≤ n → Chain ts →
    ∀ (least : Nat) (lhs : Expr), ∃ e left, Chain left ∧ left.length ≤ ts.length ∧
      Stops least left ∧
      ∀ rest, Stops 0 rest → Reads (.climb least lhs e) (ts ++ rest) (left ++ rest) := by
  induction n with
  | zero =>
    intro ts hn h least lhs
    obtain rfl := List.length_eq_zero_iff.1 (Nat.le_zero.1 hn)
    exact Chain.climb_nil least lhs
  | succ n ih =>
    intro ts hn h least lhs
    cases h with
    | nil => exact Chain.climb_nil least lhs
    | @check t op us ht h =>
      rcases Nat.lt_or_ge suffixPrecedence least with hlt | hge
      · have hstop (rest : List Token) : Stops least (t :: rest) := (stops_cons ht).2 hlt
        exact ⟨lhs, t :: us, .check ht h, Nat.le_refl _, hstop us,
          fun rest _ => .stop (hstop (us ++ rest))⟩
      · have hus : us.length ≤ n := Nat.le_of_succ_le_succ hn
        obtain ⟨e, left, hleft, hlen, hstop, hreads⟩ := ih hus h least (.unary op lhs)
        exact ⟨e, left, hleft, Nat.le_succ_of_le hlen, hstop,
          fun rest hrest => .check ht hge (hreads rest hrest)⟩
    | @binary t op e us vs ht he h =>
      rcases Nat.lt_or_ge op.precedence least with hlt | hge
      · have hstop (rest : List Token) : Stops least (t :: rest) := (stops_cons ht).2 hlt
        exact ⟨lhs, t :: (us ++ vs), .binary ht he h, Nat.le_refl _, hstop _,
          fun rest _ => .stop (hstop _)⟩
      · simp only [List.length_cons, List.length_append] at hn
        -- The loop of the right operand goes first. What it leaves is a shorter chain for this
        -- loop.
        obtain ⟨rhs, mid, hmid, hmidlen, -, hrhs⟩ :=
          ih (show vs.length ≤ n by omega) h (op.precedence + 1) e
        obtain ⟨e', left, hleft, hlen, hstop, hreads⟩ :=
          ih (show mid.length ≤ n by omega) hmid least (.binary op lhs rhs)
        refine ⟨e', left, hleft, ?_, hstop, fun rest hrest => ?_⟩
        · simp only [List.length_cons, List.length_append]
          omega
        · have hright : Reads (.expr (op.precedence + 1) rhs) (us ++ (vs ++ rest)) (mid ++ rest) :=
            .expr (he _) (hrhs rest hrest)
          simpa using Reads.binary ht hge hright (hreads rest hrest)

/-- The outermost loop leaves nothing. -/
theorem Chain.climb_all {ts : List Token} (h : Chain ts) (lhs : Expr) :
    ∃ e, ∀ rest, Stops 0 rest → Reads (.climb 0 lhs e) (ts ++ rest) rest := by
  obtain ⟨e, left, hleft, -, hstop, hreads⟩ := h.climb ts.length (Nat.le_refl _) 0 lhs
  have hnil : left = [] := by
    cases hleft with
    | nil => rfl
    | check ht | binary ht => exact absurd ((stops_cons ht).1 hstop) (Nat.not_lt_zero _)
  subst hnil
  exact ⟨e, hreads⟩

/-- The parser reads what a symbol derives, as a phrase of the same form. -/
def Readable : Symbol → List Token → Prop
  | .primary, ts => ∃ e, ∀ rest, Reads (.primary e) (ts ++ rest) rest
  | .unary, ts => ∃ e, ∀ rest, Reads (.unary e) (ts ++ rest) rest
  | .tail, ts => Chain ts
  | .expr, ts => ∃ e, ∀ rest, Stops 0 rest → Reads (.expr 0 e) (ts ++ rest) rest
  | .items, ts => ∃ es, ∀ close c rest, closes close = true → c.kind = close →
      Reads (.items close es) (ts ++ c :: rest) rest
  | .list, ts => ∃ es, ∀ close c rest, closes close = true → c.kind = close →
      Reads (.list close es) (ts ++ c :: rest) rest

/-- A leaf of the grammar that the lexer makes stands for a tree. -/
theorem ofToken?_of_isLeaf {t : Token} (ht : t.IsLeaf) (hl : t.Lexed) :
    ∃ e, Expr.ofToken? t = some e := by
  obtain ⟨kind, payload, position⟩ := t
  rcases ht with rfl | rfl | rfl | rfl <;> cases payload <;> first
    | exact ⟨_, rfl⟩
    | exact absurd hl id

/-- **What is derived is read,** if the leaves and functions are such as the lexer makes. -/
theorem readable_of_derives {x : Symbol} {ts : List Token} (h : Derives x ts) :
    (∀ t ∈ ts, t.Lexed) → Readable x ts := by
  induction h with
  | @expr ts us hu h ihu ih =>
    intro hts
    obtain ⟨lhs, hlhs⟩ := ihu fun t ht => hts t (List.mem_append_left _ ht)
    have hchain : Chain us := ih fun t ht => hts t (List.mem_append_right _ ht)
    obtain ⟨e, he⟩ := hchain.climb_all lhs
    refine ⟨e, fun rest hrest => ?_⟩
    rw [List.append_assoc]
    exact .expr (hlhs _) (he rest hrest)
  | done => exact fun _ => .nil
  | @binary t ts us ht hu h ihu ih =>
    intro hts
    obtain ⟨op, hop⟩ := ht
    obtain ⟨e, he⟩ := ihu fun u hu => hts u (.tail _ (List.mem_append_left _ hu))
    exact .binary (Connective.ofToken?_eq_binary.2 hop) he
      (ih fun u hu => hts u (.tail _ (List.mem_append_right _ hu)))
  | @check t ts ht h ih =>
    intro hts
    obtain ⟨op, hop⟩ : ∃ op, Connective.ofToken? t = some (.check op) := by
      rcases ht with ht | ht
      · exact ⟨.empty, Connective.ofToken?_eq_check.2 ⟨rfl, ht⟩⟩
      · exact ⟨.notEmpty, Connective.ofToken?_eq_check.2 ⟨rfl, ht⟩⟩
    exact .check hop (ih fun u hu => hts u (.tail _ hu))
  | @front t ts ht h ih =>
    intro hts
    obtain ⟨op, hop⟩ : ∃ op, UnaryOp.ofToken? t = some op := by
      rcases ht with ht | ht
      · exact ⟨.not, UnaryOp.ofToken?_eq_some.2 ⟨rfl, ht⟩⟩
      · exact ⟨.negate, UnaryOp.ofToken?_eq_some.2 ⟨rfl, ht⟩⟩
    obtain ⟨e, he⟩ := ih fun u hu => hts u (.tail _ hu)
    exact ⟨.unary op e, fun rest => .inFront hop (he rest)⟩
  | operand h ih =>
    intro hts
    obtain ⟨e, he⟩ := ih hts
    exact ⟨e, fun rest => .operand (he rest)⟩
  | @paren t c ts ht h hc ih =>
    intro hts
    obtain ⟨e, he⟩ := ih fun u hu => hts u (.tail _ (List.mem_append_left _ hu))
    refine ⟨e, fun rest => ?_⟩
    simpa using Reads.paren ht (he (c :: rest) (stops_of_kind (.inl hc) 0 rest)) hc
  | @call f t c ts hf ht h hc ih =>
    intro hts
    obtain ⟨es, hes⟩ := ih fun u hu => hts u (.tail _ (.tail _ (List.mem_append_left _ hu)))
    -- The grammar knows kinds only; that a function has a name is what the lexer sees to.
    obtain ⟨name, hname⟩ : ∃ name, f.payload = .text name := by
      have hlexed : Token.Suits f.kind f.payload := hts f (.head _)
      rw [hf] at hlexed
      cases hp : f.payload <;> rw [hp] at hlexed <;> first
        | exact ⟨_, rfl⟩
        | exact absurd hlexed id
    refine ⟨.call name es, fun rest => ?_⟩
    simpa using Reads.call hf hname ht (hes .rightParen c rest rfl hc)
  | @array t c ts ht h hc ih =>
    intro hts
    obtain ⟨es, hes⟩ := ih fun u hu => hts u (.tail _ (List.mem_append_left _ hu))
    refine ⟨.array es, fun rest => ?_⟩
    simpa using Reads.array ht (hes .rightBracket c rest rfl hc)
  | @leaf t ht =>
    intro hts
    obtain ⟨e, he⟩ := ofToken?_of_isLeaf ht (hts t (.head _))
    exact ⟨e, fun rest => .token he⟩
  | empty => exact fun _ => ⟨[], fun close c rest _ hc => .empty hc⟩
  | some h ih =>
    intro hts
    obtain ⟨es, hes⟩ := ih hts
    exact ⟨es, fun close c rest hclose hc => .some (hes close c rest hclose hc)⟩
  | last h ih =>
    intro hts
    obtain ⟨e, he⟩ := ih hts
    refine ⟨[e], fun close c rest hclose hc => .last (he _ (stops_of_kind ?_ 0 rest)) hc⟩
    cases close <;> simp_all [closes]
  | @more comma ts us h hcomma hs ih ihs =>
    intro hts
    obtain ⟨e, he⟩ := ih fun u hu => hts u (List.mem_append_left _ hu)
    obtain ⟨es, hes⟩ := ihs fun u hu => hts u (List.mem_append_right _ (.tail _ hu))
    refine ⟨e :: es, fun close c rest hclose hc => ?_⟩
    have hfirst := he (comma :: (us ++ c :: rest))
      (stops_of_kind (.inr (.inr (.inl hcomma))) 0 _)
    simpa using Reads.more hfirst hcomma (hes close c rest hclose hc)

end Parser

/-- The lexer makes no end but the one it adds. -/
theorem Token.Lexed.kind_ne {t : Token} (h : t.Lexed) : t.kind ≠ .eof := by
  intro hk
  unfold Token.Lexed at h
  rw [hk] at h
  cases hp : t.payload <;> rw [hp] at h <;> exact h

/-- A binary operator is not the end. -/
theorem Token.IsBinary.kind_ne {t : Token} (h : t.IsBinary) : t.kind ≠ .eof := by
  obtain ⟨op, s, -, hcontent⟩ := h
  have hkind : t.kind = op.kind := congrArg Prod.fst hcontent
  rw [hkind]
  cases op <;> decide

/-- No symbol derives the end of a source. -/
theorem Derives.kind_ne {x : Symbol} {ts : List Token} (h : Derives x ts) :
    ∀ t ∈ ts, t.kind ≠ .eof := by
  have of_content {t : Token} {kind : Token.Kind} {payload : Token.Payload} (hk : kind ≠ .eof)
      (ht : t.content = (kind, payload)) : t.kind ≠ .eof :=
    fun heof => hk ((congrArg Prod.fst ht).symm.trans heof)
  induction h with
  | done | empty => exact fun t ht => absurd ht List.not_mem_nil
  | operand _ ih | some _ ih | last _ ih => exact ih
  | expr _ _ ihu ih => exact List.forall_mem_append.2 ⟨ihu, ih⟩
  | binary ht _ _ ihu ih =>
    exact List.forall_mem_cons.2 ⟨ht.kind_ne, List.forall_mem_append.2 ⟨ihu, ih⟩⟩
  | check ht _ ih | front ht _ ih =>
    refine List.forall_mem_cons.2 ⟨?_, ih⟩
    rcases ht with ht | ht
    · exact of_content (by decide) ht
    · exact of_content (by decide) ht
  | paren ht _ hc ih | array ht _ hc ih =>
    refine List.forall_mem_cons.2 ⟨?_, List.forall_mem_append.2 ⟨ih, ?_⟩⟩
    · simp [ht]
    · simp [hc]
  | call hf ht _ hc ih =>
    refine List.forall_mem_cons.2 ⟨?_, List.forall_mem_cons.2 ⟨?_,
      List.forall_mem_append.2 ⟨ih, ?_⟩⟩⟩
    · simp [hf]
    · simp [ht]
    · simp [hc]
  | leaf ht => rcases ht with h | h | h | h <;> simp [h]
  | more _ hc _ ih ihs =>
    refine List.forall_mem_append.2 ⟨ih, List.forall_mem_cons.2 ⟨?_, ihs⟩⟩
    rw [hc]
    decide

/-- Tokens in front of the end that are used up to some end are all of them. -/
theorem eq_of_append_atEnd {ts used rest : List Token} {position : Nat}
    (hts : ∀ t ∈ ts, t.kind ≠ .eof) (hused : ∀ t ∈ used, t.kind ≠ .eof)
    (hend : ∀ t ∈ rest.head?, t.kind = .eof)
    (h : ts ++ [Token.atEnd position] = used ++ rest) : used = ts := by
  rcases List.append_eq_append_iff.1 h with ⟨more, rfl, hmore⟩ | ⟨more, rfl, rfl⟩
  · cases more with
    | nil => simp
    | cons t more =>
      obtain ⟨rfl, -⟩ : Token.atEnd position = t ∧ _ := by simpa using hmore
      exact absurd rfl (hused (Token.atEnd position) (by simp))
  · cases more with
    | nil => simp
    | cons t more => exact absurd (hend t rfl) (hts t (by simp))

/-- What the parser accepts it reads up to the end, the grammar derives it, and the tree has its
tokens. -/
theorem derived_of_ofTokens {ts : List Token} (hts : ∀ t ∈ ts, t.Lexed) {limit position : Nat}
    {e : Expr} (he : Expr.ofTokens limit (ts ++ [Token.atEnd position]) = .ok e) :
    Reads (.expr 0 e) (ts ++ [Token.atEnd position]) [Token.atEnd position] ∧
      Derives .expr ts ∧ e.tokens = (Token.ungrouped [] false ts).map Token.normal := by
  have hlexed : ∀ t ∈ ts ++ [Token.atEnd position], t.kind = .eof ∨ t.Lexed := by
    intro t ht
    rcases List.mem_append.1 ht with ht | ht
    · exact .inr (hts t ht)
    · exact .inl (by rw [List.mem_singleton.1 ht]; rfl)
  obtain ⟨rest, hread, hend⟩ := reads_of_ofTokens he
  obtain ⟨used, _, hsplit, rfl, hd, out, hout, htokens⟩ := hread.derived hlexed
  obtain rfl := eq_of_append_atEnd (fun t ht => (hts t ht).kind_ne) hd.kind_ne hend hsplit
  have hall : Token.ungrouped [] false used = out := by
    simpa [Token.ungrouped] using hout [] []
  rw [← List.append_cancel_left hsplit] at hread
  exact ⟨hread, hd, by rw [hall]; exact htokens.symm⟩

/-- **The parser accepts exactly one language and loses no token.** With a limit above the number of
tokens, it accepts tokens of the lexer and the end behind them if and only if the grammar derives
them, and the tokens of the tree are these tokens in order, without the parentheses that group and
with operators in their usual spelling. -/
theorem ofTokens_iff_derives {ts : List Token} (hts : ∀ t ∈ ts, t.Lexed) {limit position : Nat}
    (hlimit : (ts ++ [Token.atEnd position]).length < limit) :
    ((∃ e, Expr.ofTokens limit (ts ++ [Token.atEnd position]) = .ok e) ↔ Derives .expr ts) ∧
      ∀ e, Expr.ofTokens limit (ts ++ [Token.atEnd position]) = .ok e →
        e.tokens = (Token.ungrouped [] false ts).map Token.normal := by
  have hsound : ∀ e, Expr.ofTokens limit (ts ++ [Token.atEnd position]) = .ok e →
      Derives .expr ts ∧ e.tokens = (Token.ungrouped [] false ts).map Token.normal :=
    fun e he => (derived_of_ofTokens hts he).2
  refine ⟨⟨fun ⟨e, he⟩ => (hsound e he).1, fun h => ?_⟩, fun e he => (hsound e he).2⟩
  obtain ⟨e, he⟩ := readable_of_derives h hts
  have hread := he [Token.atEnd position]
    (stops_of_kind (.inr (.inr (.inr rfl))) 0 [])
  exact ⟨e, ofTokens_of_reads hread (by simp [Token.atEnd]) hlimit⟩

/-- The tokens of `f(({a})) != {b}`. -/
def calling : List Token :=
  [⟨.function, .text "f", 0⟩, ⟨.leftParen, .none, 1⟩, ⟨.leftParen, .none, 2⟩,
    ⟨.reference, .text "a", 3⟩, ⟨.rightParen, .none, 6⟩, ⟨.rightParen, .none, 7⟩,
    ⟨.comparison, .text "!=", 9⟩, ⟨.reference, .text "b", 12⟩]

/-- The hypotheses of `ofTokens_iff_derives` are satisfiable: `f(({a})) != {b}` is derived, as the
parser accepts it, and only the inner parentheses group. -/
theorem ofTokens_iff_derives_call :
    (∀ t ∈ calling, t.Lexed) ∧ Derives .expr calling ∧
      (Expr.binary .ne (.call "f" [.var "a"]) (.var "b")).tokens =
        (Token.ungrouped [] false calling).map Token.normal := by
  have hts : ∀ t ∈ calling, t.Lexed := by
    simp [calling, Token.Lexed, Token.Suits, Token.comparisonSigns]
  have hlimit : (calling ++ [Token.atEnd 15]).length < 10 := by decide
  obtain ⟨haccepts, htokens⟩ := ofTokens_iff_derives hts hlimit
  exact ⟨hts, haccepts.1 ⟨_, rfl⟩, htokens _ rfl⟩

end SurveyLogic
