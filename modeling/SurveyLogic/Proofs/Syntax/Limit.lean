/-
# Raising the limit

A limit never changes what tokens mean or what is wrong with them: it only cuts some runs short.
Under two limits the parser takes the same steps until the lower one is exceeded, so the result
under the lower limit is that it is exceeded, or the result under the higher one (`Narrows`, kept by
each function of the parser). This holds of errors as it does of expressions, so nothing can be said
by way of what was read, and the two runs are followed step by step.

A limit above the number of tokens is never exceeded (`Fits`). Opening an expression or passing an
operator takes up a token before the next one opens, and so does every node: an expression is at
most as high as it has tokens (`Reads.height_add_length_le`).
-/

import SurveyLogic.Proofs.Syntax.Offence

namespace SurveyLogic
namespace Parser

variable {α β : Type}

/-! ### Two limits -/

/-- The first result is that a limit is exceeded, or it is the second result. -/
def Narrows (limit : Nat) (low high : Result α) : Prop :=
  (∃ found, low = .error (.tooDeep limit found)) ∨ low = high

/-- A result narrows itself. -/
theorem Narrows.refl (limit : Nat) (x : Result α) : Narrows limit x x :=
  .inr rfl

/-- Parsers one behind another narrow if each of them does. -/
theorem Narrows.bind {limit : Nat} {x y : Result α} {f g : α → Result β}
    (h : Narrows limit x y) (hfg : ∀ a, Narrows limit (f a) (g a)) :
    Narrows limit (x >>= f) (y >>= g) := by
  rcases h with ⟨found, rfl⟩ | rfl
  · exact .inl ⟨found, rfl⟩
  · cases x with
    | ok a => exact hfg a
    | error e => exact .refl limit _

/-- The same setting but for a limit that may be higher. -/
structure Setting.Below (s s' : Setting) : Prop where
  limit : s.limit ≤ s'.limit
  finish : s.finish = s'.finish

section

variable {s s' : Setting} (below : s.Below s')
include below

/-- The next token does not depend on the limit. -/
theorem next_eq_of_below (ts : List Token) : next s ts = next s' ts :=
  congrArg ts.headD below.finish

/-- Whether a bracket comes next does not depend on the limit. -/
theorem expect_eq_of_below (bracket : Token.Kind) (ts : List Token) :
    expect s bracket ts = expect s' bracket ts := by
  rw [expect, expect, next_eq_of_below below]

/-- A lower limit turns nodes into errors, and changes no node. -/
theorem narrows_node (e : Expr) (height : Nat) (ts : List Token) :
    Narrows s.limit (node s e height ts) (node s' e height ts) := by
  have le := below.limit
  by_cases high : s.limit < height
  · refine .inl ⟨next s ts, ?_⟩
    rw [node, if_pos high]
    rfl
  · have room : ¬ s'.limit < height := by omega
    rw [node, node, if_neg high, if_neg room]
    exact .refl _ _

variable {f f' fb fb' : List Token → Result (Reading Node)}

/-- Items narrow if each item does. -/
theorem narrows_items (close : Token.Kind) (h : ∀ ts, Narrows s.limit (f ts) (f' ts))
    (budget : Nat) (ts : List Token) :
    Narrows s.limit (items s f close budget ts) (items s' f' close budget ts) := by
  induction budget generalizing ts with
  | zero =>
    refine (h ts).bind fun n => ?_
    obtain ⟨first, rest⟩ := n
    dsimp only
    rw [expect_eq_of_below below]
    exact .refl _ _
  | succ budget ih =>
    refine (h ts).bind fun n => ?_
    obtain ⟨first, rest⟩ := n
    dsimp only
    rw [next_eq_of_below below, expect_eq_of_below below]
    split
    · exact (ih rest.tail).bind fun others => .refl _ _
    · exact .refl _ _

/-- The inside of brackets narrows if each item does. -/
theorem narrows_list (close : Token.Kind) (h : ∀ ts, Narrows s.limit (f ts) (f' ts))
    (ts : List Token) : Narrows s.limit (list s f close ts) (list s' f' close ts) := by
  rw [list, list, next_eq_of_below below]
  split
  · exact .refl _ _
  · exact narrows_items below close h _ ts

/-- An operand without operators narrows if what it encloses does. -/
theorem narrows_primary (h : ∀ ts, Narrows s.limit (f ts) (f' ts)) (ts : List Token) :
    Narrows s.limit (primary s f ts) (primary s' f' ts) := by
  rw [primary, primary]
  dsimp only
  rw [next_eq_of_below below]
  split
  · refine (h ts.tail).bind fun n => ?_
    obtain ⟨inner, rest⟩ := n
    dsimp only
    rw [expect_eq_of_below below]
    exact .refl _ _
  · exact (narrows_list below .rightBracket h ts.tail).bind fun nodes => narrows_node below _ _ _
  · rw [expect_eq_of_below below]
    refine (Narrows.refl _ _).bind fun rest => ?_
    exact (narrows_list below .rightParen h rest).bind fun nodes => narrows_node below _ _ _
  · exact .refl _ _

/-- An operand narrows if the operand behind its operators does. -/
theorem narrows_unary (hb : ∀ ts, Narrows s.limit (fb ts) (fb' ts))
    (h : ∀ ts, Narrows s.limit (f ts) (f' ts)) (ts : List Token) :
    Narrows s.limit (unary s fb f ts) (unary s' fb' f' ts) := by
  rw [unary, unary, next_eq_of_below below]
  split
  · exact narrows_primary below h ts
  · exact (hb ts.tail).bind fun arg => narrows_node below _ _ _

/-- A climb narrows if its right operands do. -/
theorem narrows_climb {operand operand' : Nat → List Token → Result (Reading Node)}
    (h : ∀ k ts, Narrows s.limit (operand k ts) (operand' k ts)) (least budget : Nat) (lhs : Node)
    (ts : List Token) :
    Narrows s.limit (climb s operand least budget lhs ts)
      (climb s' operand' least budget lhs ts) := by
  induction budget generalizing lhs ts with
  | zero => exact .refl _ _
  | succ budget ih =>
    rw [climb, climb, next_eq_of_below below]
    split
    · exact .refl _ _
    · split
      · exact .refl _ _
      · split
        · exact (narrows_node below _ _ _).bind fun n => ih n.1 n.2
        · refine (h _ ts.tail).bind fun rhs => ?_
          exact (narrows_node below _ _ _).bind fun n => ih n.1 n.2

/-- **With a higher limit and no fewer levels left the parser goes on as it did,** unless it stopped
at the lower limit. The induction is on the levels left under that limit. -/
theorem narrows_expr {levels levels' : Nat} (hle : levels ≤ levels') :
    (∀ ts, Narrows s.limit (operand s levels ts) (operand s' levels' ts)) ∧
      ∀ least ts, Narrows s.limit (expr s levels least ts) (expr s' levels' least ts) := by
  induction levels generalizing levels' with
  | zero =>
    constructor
    · exact fun ts => .inl ⟨next s ts, rfl⟩
    · exact fun least ts => .inl ⟨next s ts, rfl⟩
  | succ levels ih =>
    obtain ⟨levels', rfl⟩ : ∃ k, levels' = k + 1 := ⟨levels' - 1, by omega⟩
    obtain ⟨behind, inner⟩ := ih (Nat.le_of_succ_le_succ hle)
    have front := narrows_unary below behind (inner 0)
    constructor
    · exact front
    · intro least ts
      exact (front ts).bind fun lhs => narrows_climb below inner least _ lhs.1 lhs.2

end

/-! ### Room for all tokens -/

/-- A result that is not the error of the limit. -/
def Fits (x : Result α) : Prop :=
  ∀ limit found, x ≠ .error (.tooDeep limit found)

theorem fits_ok (a : α) : Fits (.ok a : Result α) :=
  fun _ _ => nofun

/-- Parsers one behind another fit if each of them does. -/
theorem Fits.bind {x : Result α} {f : α → Result β} (h : Fits x)
    (hf : ∀ a, x = .ok a → Fits (f a)) : Fits (x >>= f) := by
  intro limit found heq
  rcases bind_eq_error.1 heq with failed | ⟨a, ha, failed⟩
  · exact h limit found failed
  · exact hf a ha limit found failed

/-- A parser that never meets the limit on fewer than `n` tokens. -/
def FitsBelow (n : Nat) (f : List Token → Result (Reading α)) : Prop :=
  ∀ ts : List Token, ts.length < n → Fits (f ts)

variable {s : Setting}

/-- A missing bracket is not an error of the limit. -/
theorem fits_expect (bracket : Token.Kind) (ts : List Token) : Fits (expect s bracket ts) := by
  intro limit found heq
  unfold expect at heq
  split at heq <;> cases heq

/-- A node within the limit fits. -/
theorem fits_node {height : Nat} (room : height ≤ s.limit) (e : Expr) (ts : List Token) :
    Fits (node s e height ts) := by
  rw [node_room room]
  exact fits_ok _

section

variable (hs : s.finish.kind = .eof) {n : Nat} {f fb : List Token → Result (Reading Node)}
include hs

omit hs in
/-- Items fit on as many tokens as a single one does. -/
theorem fits_items {close : Token.Kind} (h : FitsBelow n f) (hf : Returns f (.expr 0))
    (budget : Nat) : FitsBelow n (items s f close budget) := by
  have last (first : Node) (rest : List Token) :
      Fits (do return ([first], ← expect s close rest) : Result (Reading (List Node))) :=
    (fits_expect close rest).bind fun _ _ => fits_ok _
  induction budget with
  | zero => exact fun ts few => (h ts few).bind fun first _ => last first.1 first.2
  | succ budget ih =>
    intro ts few
    refine (h ts few).bind fun first read => ?_
    dsimp only
    split
    · obtain ⟨e, -, reads⟩ := hf ts first.1 first.2 read
      have shorter := reads.length_lt
      have behind : first.2.tail.length < n := by
        rw [List.length_tail]
        omega
      exact (ih first.2.tail behind).bind fun _ _ => fits_ok _
    · exact last first.1 first.2

omit hs in
/-- The inside of brackets fits on as many tokens as a single item does. -/
theorem fits_list {close : Token.Kind} (h : FitsBelow n f) (hf : Returns f (.expr 0)) :
    FitsBelow n (list s f close) := by
  intro ts few
  rw [list]
  split
  · exact fits_ok _
  · exact fits_items h hf _ ts few

/-- A call or a list is one node above its items, and its first token is none of theirs. -/
theorem fits_listed {close : Token.Kind} (hc : close ≠ .eof) (h : FitsBelow n f)
    (hf : Returns f (.expr 0)) (room : n ≤ s.limit) (e : List Expr → Expr) {ts : List Token}
    (few : ts.length < n) :
    Fits (list s f close ts >>= fun nodes =>
      node s (e (nodes.1.map (·.expr))) (heightAll nodes.1 + 1) nodes.2) := by
  refine (fits_list h hf ts few).bind fun nodes read => ?_
  obtain ⟨es, made, reads⟩ := returnsAll_list hs hc hf ts nodes.1 nodes.2 read
  have height := reads.height_add_length_le
  simp only [Phrase.height, Phrase.start] at height
  have enough : heightAll nodes.1 + 1 ≤ s.limit := by
    rw [made, heightAll_map_of]
    omega
  exact fits_node enough _ _

/-- An operand without operators fits on one token more than what it encloses. -/
theorem fits_primary (h : FitsBelow n f) (hf : Returns f (.expr 0)) (room : n ≤ s.limit) :
    FitsBelow (n + 1) (primary s f) := by
  intro ts few
  cases ts with
  | nil =>
    intro limit found heq
    simp [primary, next, hs, Expr.ofToken?, throw, throwThe, MonadExceptOf.throw] at heq
  | cons t ts =>
    have fewer : ts.length < n := Nat.lt_of_succ_lt_succ few
    rw [primary]
    dsimp only [next, List.headD_cons, List.tail_cons]
    split
    · exact (h ts fewer).bind fun _ _ => (fits_expect _ _).bind fun _ _ => fits_ok _
    · have proper : Token.Kind.rightBracket ≠ .eof := by decide
      exact fits_listed hs proper h hf room .array fewer
    · rename_i name _ _
      have proper : Token.Kind.rightParen ≠ .eof := by decide
      refine (fits_expect _ _).bind fun rest read => ?_
      obtain ⟨c, -, rfl⟩ := (expect_eq_ok hs (by decide)).1 read
      exact fits_listed hs proper h hf room (.call name) (Nat.lt_of_succ_lt fewer)
    · split
      · exact fits_ok _
      · intro limit found heq
        cases heq

/-- An operand with operators in front fits on one token more than what is behind them. -/
theorem fits_unary (hb : FitsBelow n fb) (hfb : Returns fb .unary) (h : FitsBelow n f)
    (hf : Returns f (.expr 0)) (room : n ≤ s.limit) : FitsBelow (n + 1) (unary s fb f) := by
  intro ts few
  unfold unary
  split
  · exact fits_primary hs h hf room ts few
  · rename_i op front
    cases ts with
    | nil => simp [next, UnaryOp.ofToken?, hs] at front
    | cons t ts =>
      have fewer : ts.length < n := Nat.lt_of_succ_lt_succ few
      refine (hb ts fewer).bind fun arg read => ?_
      obtain ⟨e, made, reads⟩ := hfb ts arg.1 arg.2 read
      have height := reads.height_add_length_le
      simp only [Phrase.height, Phrase.start] at height
      have enough : arg.1.height + 1 ≤ s.limit := by
        rw [made, Node.height_of]
        omega
      exact fits_node enough _ _

/-- A climb fits if its left operand leaves a level for each token left. -/
theorem fits_climb {operand : Nat → List Token → Result (Reading Node)}
    (h : ∀ k, FitsBelow n (operand k)) (hf : ∀ k, Returns (operand k) (.expr k)) {least : Nat}
    (budget : Nat) {lhs : Expr} {ts : List Token} (few : ts.length ≤ n)
    (room : lhs.depth + ts.length ≤ s.limit) :
    Fits (climb s operand least budget (.of lhs) ts) := by
  induction budget generalizing lhs ts with
  | zero => exact fits_ok _
  | succ budget ih =>
    rw [climb, connective?_eq hs]
    cases ts with
    | nil => exact fits_ok _
    | cons t ts =>
      rw [List.length_cons] at few room
      split
      · exact fits_ok _
      · split
        · exact fits_ok _
        · split
          · have enough : (Node.of lhs).height + 1 ≤ s.limit := by
              rw [Node.height_of]
              omega
            refine (fits_node enough _ _).bind fun n read => ?_
            obtain ⟨made, rest⟩ := n
            obtain ⟨-, whole, behind⟩ := node_eq_ok.1 read
            dsimp only
            rw [whole, ← behind, Node.mk_unary]
            refine ih (by rw [List.tail_cons]; omega) ?_
            rw [Expr.depth, List.tail_cons]
            omega
          · refine (h _ ts few).bind fun rhs read => ?_
            obtain ⟨e, made, reads⟩ := hf _ ts rhs.1 rhs.2 read
            -- The right operand is at most as high as the tokens it takes up are many, and the
            -- connective is one more.
            have height := reads.height_add_length_le
            simp only [Phrase.height, Phrase.start] at height
            have enough : max (Node.of lhs).height rhs.1.height + 1 ≤ s.limit := by
              rw [made, Node.height_of, Node.height_of]
              omega
            refine (fits_node enough _ _).bind fun n read => ?_
            obtain ⟨made', rest⟩ := n
            obtain ⟨-, whole, behind⟩ := node_eq_ok.1 read
            dsimp only
            rw [whole, ← behind, made, Node.mk_binary]
            refine ih (by omega) ?_
            rw [Expr.depth]
            omega

/-- **On fewer tokens than levels the limit is never met.** -/
theorem fits_expr {levels : Nat} (room : levels ≤ s.limit) :
    FitsBelow levels (operand s levels) ∧ ∀ least, FitsBelow levels (expr s levels least) := by
  induction levels with
  | zero =>
    constructor
    · exact fun ts few => absurd few (Nat.not_lt_zero _)
    · exact fun least ts few => absurd few (Nat.not_lt_zero _)
  | succ levels ih =>
    obtain ⟨behind, inner⟩ := ih (Nat.le_of_succ_le room)
    obtain ⟨returnsBehind, returnsInner⟩ := returns_expr hs levels
    have le : levels ≤ s.limit := Nat.le_of_succ_le room
    have front := fits_unary hs behind returnsBehind (inner 0) (returnsInner 0) le
    constructor
    · exact front
    · intro least ts few
      rw [expr]
      refine (front ts few).bind fun lhs read => ?_
      obtain ⟨e, made, reads⟩ := returns_unary hs returnsBehind (returnsInner 0) ts lhs.1 lhs.2 read
      have height := reads.height_add_length_le
      have positive := e.one_le_depth
      simp only [Phrase.height, Phrase.start] at height
      dsimp only
      rw [made]
      exact fits_climb hs inner returnsInner _ (by omega) (by omega)

end

/-! ### Whole sources -/

/-- On the same tokens, settings differ in their limits only. -/
theorem below_whole {low high : Nat} (hle : low ≤ high) (ts : List Token) :
    (Setting.whole low ts).Below (.whole high ts) :=
  ⟨hle, rfl⟩

/-- A lower limit narrows the parse of all tokens. -/
theorem narrows_ofTokens {low high : Nat} (hle : low ≤ high) (ts : List Token) :
    Narrows low (Expr.ofTokens low ts) (Expr.ofTokens high ts) := by
  rw [ofTokens_eq, ofTokens_eq]
  refine ((narrows_expr (below_whole hle ts) hle).2 0 ts).bind fun n => ?_
  obtain ⟨whole, rest⟩ := n
  dsimp only
  rw [next_eq_of_below (below_whole hle ts)]
  exact .refl _ _

/-- On fewer tokens than the limit, a parse never meets the limit. -/
theorem fits_ofTokens {limit : Nat} {ts : List Token} (room : ts.length < limit) :
    Fits (Expr.ofTokens limit ts) := by
  rw [ofTokens_eq]
  refine ((fits_expr rfl (Nat.le_refl _)).2 0 ts room).bind fun n _ => ?_
  dsimp only
  split
  · exact fits_ok _
  · intro limit found heq
    cases heq

/-- Under a limit without room for a reading of all tokens there is no other result than that. -/
theorem ofTokens_of_reads_or_tooDeep {ts rest : List Token} {e : Expr}
    (h : Reads (.expr 0 e) ts rest) (hend : ∀ t ∈ rest.head?, t.kind = .eof) (limit : Nat) :
    Expr.ofTokens limit ts = .ok e ∨
      ∃ found, Expr.ofTokens limit ts = .error (.tooDeep limit found) := by
  have le : limit ≤ limit + ts.length + 1 := by omega
  have accepted : Expr.ofTokens (limit + ts.length + 1) ts = .ok e :=
    ofTokens_of_reads h hend (by omega)
  rcases narrows_ofTokens le ts with deep | same
  · exact .inr deep
  · exact .inl (same.trans accepted)

/-- **A limit only ever turns a result into the error that it is exceeded.** Of two limits, the
lower one is exceeded, or it gives what the higher one gives: the same expression, or the same error
at the same token. A limit above the number of tokens is not exceeded. -/
theorem ofTokens_of_limit_le {low high : Nat} (hle : low ≤ high) (ts : List Token) :
    ((∃ found, Expr.ofTokens low ts = .error (.tooDeep low found)) ∨
        Expr.ofTokens low ts = Expr.ofTokens high ts) ∧
      ∀ limit, ts.length < limit → ∀ bound found,
        Expr.ofTokens limit ts ≠ .error (.tooDeep bound found) :=
  ⟨narrows_ofTokens hle ts, fun _ room => fits_ofTokens room⟩

/-- The hypothesis of `ofTokens_of_limit_le` is satisfiable: `--x` needs three levels and has the
same three of them under any higher limit, while a second operand is an error of its own. -/
theorem ofTokens_of_limit_le_signs :
    let signs : List Token := [⟨.operator, .text "-", 0⟩, ⟨.operator, .text "-", 1⟩]
    let x : Token := ⟨.reference, .text "x", 2⟩
    Expr.ofTokens 2 (signs ++ [x]) = .error (.tooDeep 2 x) ∧
      Expr.ofTokens 3 (signs ++ [x]) = .ok (.unary .negate (.unary .negate (.var "x"))) ∧
      Expr.ofTokens 3 (signs ++ [x]) = Expr.ofTokens 128 (signs ++ [x]) ∧
      Expr.ofTokens 128 (signs ++ [x, x]) = .error (.trailing x) := by
  intro signs x
  have le : 3 ≤ 128 := by decide
  have higher := (ofTokens_of_limit_le le (signs ++ [x])).1
  have accepted : Expr.ofTokens 3 (signs ++ [x]) =
      .ok (.unary .negate (.unary .negate (.var "x"))) := rfl
  refine ⟨rfl, accepted, ?_, rfl⟩
  rcases higher with ⟨found, deep⟩ | same
  · rw [accepted] at deep
    cases deep
  · exact same

end Parser
end SurveyLogic
