/-
# Expressions as arguments

An expression that stands alone is read in the same way where it is an argument of a call, in front
of a comma or a right parenthesis instead of the end. The limit needs one level more, for the call.

A reading alone does not say how deep the parser went, so this is a fact about its runs: in front of
more tokens it does what it did in front of the end (`Outlasts`), if the limit is not lower, no
fewer levels are left and the budget is no smaller. A run that succeeds never looks past the token
behind the expression, and the end, a comma and a closing bracket are alike to it there.
-/

import SurveyLogic.Proofs.Syntax.Depth
import SurveyLogic.Proofs.Syntax.Grammar
import SurveyLogic.Proofs.Token.Separation

namespace SurveyLogic
namespace Parser

/-- In front of more tokens a parser does what another one does in front of the end, and takes up at
least one token. -/
def Outlasts (finish : Token) (more : List Token) {α : Type}
    (f f' : List Token → Result (Reading α)) : Prop :=
  ∀ us a rest, f (us ++ [finish]) = .ok (a, rest) →
    ∃ t vs, t :: vs <:+ us ∧ rest = vs ++ [finish] ∧ f' (us ++ more) = .ok (a, vs ++ more)

variable {s s' : Setting} {finish c : Token} {more back us rest : List Token}

/-- What ends the tokens behind some token ends all of them. -/
theorem suffix_of_cons {α : Type} {t u : α} {ts us vs : List α} (h : u :: us <:+ vs)
    (h' : t :: vs <:+ ts) : u :: us <:+ ts :=
  h.trans ((List.suffix_cons t vs).trans h')

/-- What ends the tokens behind some token has a token in front of it. -/
theorem exists_cons_suffix {α : Type} {t : α} {ts us vs : List α} (h : us <:+ vs)
    (h' : t :: vs <:+ ts) : ∃ u, u :: us <:+ ts := by
  obtain ⟨front, rfl⟩ := h
  induction front generalizing t with
  | nil => exact ⟨t, h'⟩
  | cons u front ih => exact ih ((List.suffix_cons t _).trans h')

/-- A bracket stands in front of the end. -/
theorem expect_front (hend : finish.kind = .eof) {bracket : Token.Kind} (hne : bracket ≠ .eof)
    (h : expect s bracket (us ++ [finish]) = .ok rest) :
    ∃ t vs, us = t :: vs ∧ t.kind = bracket ∧ rest = vs ++ [finish] := by
  unfold expect at h
  split at h
  · rename_i here
    cases us with
    | nil => exact absurd (here.symm.trans hend) hne
    | cons t vs =>
      cases h
      exact ⟨t, vs, rfl, here, rfl⟩
  · cases h

/-- The end of a source is no closing bracket. -/
theorem ne_eof_of_closes {close : Token.Kind} (h : closes close = true) : close ≠ .eof := by
  rintro rfl
  cases h

section

variable (hend : finish.kind = .eof)
include hend

variable {f f' fb fb' : List Token → Result (Reading Node)} {close : Token.Kind}

/-- Items outlast the end if each item does, with a budget that is no smaller. -/
theorem Outlasts.items (s s' : Setting) (hclose : closes close = true)
    (h : Outlasts finish more f f') {budget budget' : Nat} (hle : budget ≤ budget') :
    Outlasts finish more (items s f close budget) (items s' f' close budget') := by
  induction budget generalizing budget' with
  | zero =>
    intro us ns rest heq
    simp only [Parser.items, bind_eq_ok, pure_eq_ok, Prod.exists] at heq
    obtain ⟨n, mid, hn, last, hlast, heq⟩ := heq
    obtain ⟨t, vs, hvs, rfl, hn'⟩ := h us n mid hn
    obtain ⟨u, ws, rfl, hu, rfl⟩ := expect_front hend (ne_eof_of_closes hclose) hlast
    cases heq
    exact ⟨u, ws, (List.suffix_cons t _).trans hvs, rfl, items_last hn' hu hclose⟩
  | succ budget ih =>
    intro us ns rest heq
    simp only [Parser.items, bind_eq_ok, Prod.exists] at heq
    obtain ⟨n, mid, hn, heq⟩ := heq
    obtain ⟨t, vs, hvs, rfl, hn'⟩ := h us n mid hn
    split at heq
    · rename_i hcomma
      simp only [bind_eq_ok, pure_eq_ok, Prod.exists] at heq
      obtain ⟨ns', last, hns, heq⟩ := heq
      obtain ⟨budget', rfl⟩ : ∃ k, budget' = k + 1 := ⟨budget' - 1, by omega⟩
      cases vs with
      | nil => simp [next, hend] at hcomma
      | cons u vs =>
        obtain ⟨w, ws, hws, rfl, hns'⟩ := ih (Nat.le_of_succ_le_succ hle) vs ns' last hns
        cases heq
        have front : u :: vs <:+ us := (List.suffix_cons t _).trans hvs
        exact ⟨w, ws, suffix_of_cons hws front, rfl, items_more hn' hcomma hns'⟩
    · simp only [bind_eq_ok, pure_eq_ok] at heq
      obtain ⟨last, hlast, heq⟩ := heq
      obtain ⟨u, ws, rfl, hu, rfl⟩ := expect_front hend (ne_eof_of_closes hclose) hlast
      cases heq
      exact ⟨u, ws, (List.suffix_cons t _).trans hvs, rfl, items_last hn' hu hclose⟩

/-- The inside of brackets outlasts the end if each item does. -/
theorem Outlasts.list (s s' : Setting) (hclose : closes close = true)
    (h : Outlasts finish (c :: back) f f') :
    Outlasts finish (c :: back) (list s f close) (list s' f' close) := by
  intro us ns rest heq
  have hle : (us ++ [finish]).length ≤ (us ++ c :: back).length := by
    simp only [List.length_append, List.length_cons, List.length_nil]
    omega
  have through := h.items hend s s' hclose hle us ns rest
  unfold Parser.list at heq ⊢
  cases us with
  | nil =>
    have hopen : (next s ([] ++ [finish])).kind ≠ close := fun here =>
      ne_eof_of_closes hclose (here.symm.trans hend)
    rw [if_neg hopen] at heq
    obtain ⟨t, vs, hvs, -⟩ := through heq
    exact nomatch List.eq_nil_of_suffix_nil hvs
  | cons t us =>
    have same : next s' (t :: us ++ c :: back) = next s (t :: us ++ [finish]) := rfl
    rw [same]
    split at heq
    · rename_i here
      cases heq
      rw [if_pos here]
      exact ⟨t, us, List.suffix_rfl, rfl, rfl⟩
    · rename_i other
      rw [if_neg other]
      exact through heq

/-- An operand without operators outlasts the end if what it encloses does. -/
theorem Outlasts.primary (hlimit : s.limit ≤ s'.limit)
    (h : Outlasts finish (c :: back) f f') :
    Outlasts finish (c :: back) (primary s f) (primary s' f') := by
  intro us n rest heq
  cases us with
  | nil =>
    simp [Parser.primary, next, hend, Expr.ofToken?, throw, throwThe, MonadExceptOf.throw] at heq
  | cons t us =>
    simp only [Parser.primary, next, List.cons_append, List.headD_cons, List.tail_cons] at heq
    split at heq
    · rename_i hk
      simp only [bind_eq_ok, pure_eq_ok, Prod.exists] at heq
      obtain ⟨n, mid, hn, last, hlast, heq⟩ := heq
      obtain ⟨u, vs, hvs, rfl, hn'⟩ := h us n mid hn
      obtain ⟨w, ws, rfl, hw, rfl⟩ := expect_front hend (by decide) hlast
      cases heq
      have front : w :: ws <:+ us := (List.suffix_cons u _).trans hvs
      exact ⟨w, ws, front.trans (List.suffix_cons t us), rfl, primary_paren hk hn' hw⟩
    · rename_i hk
      simp only [bind_eq_ok, node_eq_ok, Prod.exists] at heq
      obtain ⟨nodes, mid, hnodes, room, rfl, rfl⟩ := heq
      obtain ⟨u, vs, hvs, rfl, hnodes'⟩ := h.list hend s s' rfl us nodes mid hnodes
      exact ⟨u, vs, hvs.trans (List.suffix_cons t us), rfl,
        (primary_list hk hnodes').trans (node_room (Nat.le_trans room hlimit) _ _)⟩
    · rename_i name hk hname
      simp only [bind_eq_ok, node_eq_ok, Prod.exists] at heq
      obtain ⟨front, hfront, nodes, mid, hnodes, room, rfl, rfl⟩ := heq
      obtain ⟨u, vs, rfl, hu, rfl⟩ := expect_front hend (by decide) hfront
      obtain ⟨w, ws, hws, rfl, hnodes'⟩ := h.list hend s s' rfl vs nodes mid hnodes
      exact ⟨w, ws, hws.trans ((List.suffix_cons u vs).trans (List.suffix_cons t _)), rfl,
        (primary_function hk hname hu hnodes').trans (node_room (Nat.le_trans room hlimit) _ _)⟩
    · split at heq
      · rename_i e he
        cases heq
        have leaf := Expr.ofToken?_eq_some.1 he
        have made : (⟨e, 1⟩ : Node) = .of e := by rw [Node.of, Expr.depth_of_leaf leaf]
        rw [made]
        exact ⟨t, us, List.suffix_refl _, rfl, primary_leaf leaf _⟩
      · cases heq

/-- An operand outlasts the end if the operand behind its operators does. -/
theorem Outlasts.unary (hlimit : s.limit ≤ s'.limit)
    (hb : Outlasts finish (c :: back) fb fb') (h : Outlasts finish (c :: back) f f') :
    Outlasts finish (c :: back) (unary s fb f) (unary s' fb' f') := by
  intro us n rest heq
  unfold Parser.unary at heq ⊢
  cases us with
  | nil =>
    split at heq
    · obtain ⟨t, vs, hvs, -⟩ := h.primary hend hlimit [] n rest heq
      exact nomatch List.eq_nil_of_suffix_nil hvs
    · rename_i hop
      simp [next, UnaryOp.ofToken?, hend] at hop
  | cons t us =>
    have same : next s' (t :: us ++ c :: back) = next s (t :: us ++ [finish]) := rfl
    rw [same]
    split at heq
    · rename_i hnone
      exact h.primary hend hlimit (t :: us) n rest heq
    · rename_i op hop
      simp only [bind_eq_ok, node_eq_ok, Prod.exists] at heq
      obtain ⟨arg, mid, harg, room, rfl, rfl⟩ := heq
      obtain ⟨u, vs, hvs, rfl, harg'⟩ := hb us arg mid harg
      refine ⟨u, vs, hvs.trans (List.suffix_cons t us), rfl, ?_⟩
      exact bind_eq_ok.2 ⟨_, harg', node_room (Nat.le_trans room hlimit) _ _⟩

/-- A climb outlasts the end if its right operands do and no connective comes next. -/
theorem Outlasts.climb (hlimit : s.limit ≤ s'.limit) (hc : Connective.ofToken? c = none)
    {operand operand' : Nat → List Token → Result (Reading Node)}
    (h : ∀ k, Outlasts finish (c :: back) (operand k) (operand' k)) {least budget budget' : Nat}
    (hle : budget ≤ budget') {lhs n : Node} (hus : us.length < budget)
    (heq : climb s operand least budget lhs (us ++ [finish]) = .ok (n, rest)) :
    ∃ vs, vs <:+ us ∧ rest = vs ++ [finish] ∧
      climb s' operand' least budget' lhs (us ++ c :: back) = .ok (n, vs ++ c :: back) := by
  -- The induction is on the budget that is known to suffice. Nothing has to be taken up here, so
  -- this is no `Outlasts`: a climb may stop at once.
  induction budget generalizing budget' lhs us with
  | zero => exact absurd hus (Nat.not_lt_zero _)
  | succ budget ih =>
    obtain ⟨budget', rfl⟩ : ∃ k, budget' = k + 1 := ⟨budget' - 1, by omega⟩
    unfold Parser.climb at heq ⊢
    cases us with
    | nil =>
      have atEnd : Connective.ofToken? (next s ([] ++ [finish])) = none :=
        ofToken?_of_kind (.inr (.inr (.inr hend)))
      have atMore : Connective.ofToken? (next s' ([] ++ c :: back)) = none := hc
      rw [atEnd] at heq
      rw [atMore]
      cases heq
      exact ⟨[], List.suffix_refl _, rfl, rfl⟩
    | cons t us =>
      have same : next s' (t :: us ++ c :: back) = next s (t :: us ++ [finish]) := rfl
      rw [same]
      split at heq
      · cases heq
        exact ⟨t :: us, List.suffix_refl _, rfl, rfl⟩
      · rename_i con hcon
        split at heq
        · rename_i hlt
          cases heq
          exact ⟨t :: us, List.suffix_refl _, rfl, if_pos hlt⟩
        · rename_i hge
          simp only [if_neg hge]
          simp only [List.length_cons] at hus
          split at heq
          · rename_i op
            simp only [bind_eq_ok, node_eq_ok, Prod.exists] at heq
            obtain ⟨n', mid, ⟨room, rfl, rfl⟩, heq⟩ := heq
            obtain ⟨vs, hvs, rfl, hn⟩ := ih (Nat.le_of_succ_le_succ hle) (by omega) heq
            exact ⟨vs, hvs.trans (List.suffix_cons t us), rfl,
              bind_eq_ok.2 ⟨_, node_room (Nat.le_trans room hlimit) _ _, hn⟩⟩
          · rename_i op
            simp only [bind_eq_ok, node_eq_ok, Prod.exists] at heq
            obtain ⟨rhs, mid, hrhs, n', mid', ⟨room, rfl, rfl⟩, heq⟩ := heq
            obtain ⟨u, ws, hws, rfl, hrhs'⟩ := h _ us rhs _ hrhs
            have shorter : ws.length < us.length := hws.length_le
            obtain ⟨vs, hvs, rfl, hn⟩ := ih (Nat.le_of_succ_le_succ hle) (by omega) heq
            have behind : ws <:+ t :: us :=
              (List.suffix_cons u ws).trans (hws.trans (List.suffix_cons t us))
            exact ⟨vs, hvs.trans behind, rfl, bind_eq_ok.2
              ⟨_, hrhs', bind_eq_ok.2 ⟨_, node_room (Nat.le_trans room hlimit) _ _, hn⟩⟩⟩

/-- **What stands alone is read in the same way in front of a token that is no connective,** with a
limit that is no lower and no fewer levels left. -/
theorem outlasts_expr (hlimit : s.limit ≤ s'.limit) (hc : Connective.ofToken? c = none)
    {levels levels' : Nat} (hle : levels ≤ levels') :
    Outlasts finish (c :: back) (operand s levels) (operand s' levels') ∧
      ∀ least, Outlasts finish (c :: back) (expr s levels least) (expr s' levels' least) := by
  induction levels generalizing levels' with
  | zero =>
    refine ⟨fun us n rest heq => ?_, fun least us n rest heq => ?_⟩
    · cases heq
    · cases heq
  | succ levels ih =>
    obtain ⟨levels', rfl⟩ : ∃ k, levels' = k + 1 := ⟨levels' - 1, by omega⟩
    obtain ⟨iho, ihe⟩ := ih (Nat.le_of_succ_le_succ hle)
    have front := iho.unary hend hlimit (ihe 0)
    refine ⟨front, fun least us n rest heq => ?_⟩
    simp only [Parser.expr, bind_eq_ok, Prod.exists] at heq
    obtain ⟨lhs, mid, hlhs, heq⟩ := heq
    obtain ⟨t, vs, hvs, rfl, hlhs'⟩ := front us lhs mid hlhs
    have longer : (vs ++ [finish]).length ≤ (vs ++ c :: back).length := by
      simp only [List.length_append, List.length_cons, List.length_nil]
      omega
    have budget : vs.length < (vs ++ [finish]).length := by
      rw [List.length_append]
      exact Nat.lt_succ_self _
    obtain ⟨ws, hws, rfl, hn⟩ := Outlasts.climb hend hlimit hc ihe longer budget heq
    obtain ⟨u, hu⟩ := exists_cons_suffix hws hvs
    exact ⟨u, ws, hu, rfl, bind_eq_ok.2 ⟨_, hlhs', hn⟩⟩

end

/-! ### Calls -/

/-- What tokens in front of the end form, they also form in front of a comma or of the parenthesis
that closes a call. -/
theorem expr_of_ofTokens {depth levels : Nat} {e : Expr}
    (h : Expr.ofTokens depth (us ++ [finish]) = .ok e) (hend : finish.kind = .eof)
    (hus : ∀ t ∈ us, t.kind ≠ .eof) (hlimit : depth ≤ s.limit) (hlevels : depth ≤ levels)
    (hc : Connective.ofToken? c = none) (back : List Token) :
    expr s levels 0 (us ++ c :: back) = .ok (.of e, c :: back) := by
  rw [ofTokens_eq] at h
  obtain ⟨⟨n, rest⟩, hn, h⟩ := bind_eq_ok.1 h
  have outlasts : Outlasts finish (c :: back) (expr (.whole depth (us ++ [finish])) depth 0)
      (expr s levels 0) := (outlasts_expr hend hlimit hc hlevels).2 0
  obtain ⟨t, vs, hvs, rfl, hn'⟩ := outlasts us n rest hn
  obtain ⟨e', rfl, -⟩ := (returns_expr rfl depth).2 0 _ n _ hn
  dsimp only at h
  split at h
  · rename_i last
    cases h
    cases vs with
    | nil => exact hn'
    | cons u vs =>
      have mem : u ∈ us := hvs.subset (.tail t (.head vs))
      exact absurd (next_whole_kind.1 last u rfl) (hus u mem)
  · cases h

variable {depth limit levels : Nat} {uss : List (List Token)} {es : List Expr}

/-- Tokens that form an expression in front of the end, none of them an end itself: an argument. -/
structure Arguments (depth : Nat) (finish : Token) (us : List Token) (e : Expr) : Prop where
  formed : Expr.ofTokens depth (us ++ [finish]) = .ok e
  proper : ∀ t ∈ us, t.kind ≠ .eof

/-- Arguments with commas between them and a parenthesis behind are read as items. -/
theorem items_arguments (h : List.Forall₂ (Arguments depth finish) uss es)
    (hend : finish.kind = .eof) (hne : uss ≠ []) (hlimit : depth ≤ s.limit)
    (hlevels : depth ≤ levels) (back : List Token) {budget : Nat}
    (hbudget : uss.length ≤ budget + 1) :
    items s (expr s levels 0) .rightParen budget
        ([Token.ofKind .comma].intercalate uss ++ Token.ofKind .rightParen :: back) =
      .ok (es.map .of, back) := by
  have closing : Connective.ofToken? (Token.ofKind .rightParen) = none := rfl
  have between : Connective.ofToken? (Token.ofKind .comma) = none := rfl
  induction h generalizing budget with
  | nil => exact absurd rfl hne
  | @cons us e uss es first rest ih =>
    cases rest with
    | nil =>
      rw [List.intercalate_singleton]
      exact items_last (expr_of_ofTokens first.formed hend first.proper hlimit hlevels closing back)
        rfl rfl
    | @cons us' e' uss es second rest =>
      obtain ⟨budget, rfl⟩ : ∃ k, budget = k + 1 := ⟨budget - 1, by simp at hbudget; omega⟩
      have others := ih (List.cons_ne_nil _ _) (Nat.le_of_succ_le_succ hbudget)
      rw [List.intercalate_cons_cons, List.append_assoc, List.append_assoc]
      exact items_more (expr_of_ofTokens first.formed hend first.proper hlimit hlevels between _)
        rfl others

/-- Joined by a separator, some lists are at least as long as their number less one. -/
theorem length_le_intercalate {α : Type} (sep : α) (xss : List (List α)) :
    xss.length ≤ ([sep].intercalate xss).length + 1 := by
  induction xss with
  | nil => exact Nat.zero_le _
  | cons xs xss ih =>
    cases xss with
    | nil => exact Nat.le_add_left 1 _
    | cons ys xss =>
      rw [List.intercalate_cons_cons, List.length_append, List.length_append, List.length_cons]
      simp only [List.length_cons, List.length_nil] at ih ⊢
      omega

/-- An argument has a first token, and that one starts an expression. -/
theorem Arguments.exists_cons {e : Expr} (h : Arguments depth finish us e)
    (hend : finish.kind = .eof) : ∃ t ts, us = t :: ts ∧ startsExpr t.kind = true := by
  obtain ⟨rest, reads, -⟩ := reads_of_ofTokens h.formed
  cases us with
  | nil =>
    have starts := reads.expr_head
    rw [hend] at starts
    cases starts
  | cons t ts => exact ⟨t, ts, rfl, reads.expr_head⟩

/-- Arguments with commas between them are the inside of the parentheses of a call. -/
theorem list_arguments (h : List.Forall₂ (Arguments depth finish) uss es)
    (hend : finish.kind = .eof) (hlimit : depth ≤ s.limit) (hlevels : depth ≤ levels)
    (back : List Token) :
    list s (expr s levels 0) .rightParen
        ([Token.ofKind .comma].intercalate uss ++ Token.ofKind .rightParen :: back) =
      .ok (es.map .of, back) := by
  cases h with
  | nil => exact if_pos rfl
  | @cons us e uss es first rest =>
    obtain ⟨t, ts, rfl, starts⟩ := first.exists_cons hend
    have budget : ((t :: ts) :: uss).length ≤
        ([Token.ofKind .comma].intercalate ((t :: ts) :: uss) ++
          Token.ofKind .rightParen :: back).length + 1 := by
      have := length_le_intercalate (Token.ofKind .comma) ((t :: ts) :: uss)
      rw [List.length_append]
      omega
    have found := items_arguments (.cons first rest) hend (List.cons_ne_nil _ _) hlimit hlevels
      back budget
    rw [List.intercalate_cons_cons_left] at found ⊢
    exact (list_items starts rfl).trans found

/-- Arguments are within the limit under which each was parsed alone. -/
theorem depthAll_le (h : List.Forall₂ (Arguments depth finish) uss es) :
    Expr.depthAll es ≤ depth := by
  induction h with
  | nil => exact Nat.zero_le _
  | cons first rest ih => exact Nat.max_le.2 ⟨((depth_of_ofTokens depth _).1 _ first.formed).2, ih⟩

/-- **A call of arguments that parse parses,** with one level more for the call. -/
theorem ofTokens_call (h : List.Forall₂ (Arguments depth finish) uss es)
    (hend : finish.kind = .eof) (hlimit : depth < limit) {f : Token} {name : String}
    (hf : f.kind = .function) (hname : f.payload = .text name) :
    Expr.ofTokens limit (f :: Token.ofKind .leftParen ::
        ([Token.ofKind .comma].intercalate uss ++ [Token.ofKind .rightParen, finish])) =
      .ok (.call name es) := by
  obtain ⟨levels, rfl⟩ : ∃ k, limit = k + 1 := ⟨limit - 1, by omega⟩
  rw [ofTokens_eq]
  generalize whole : Setting.whole (levels + 1) _ = s
  have bound : s.limit = levels + 1 := by rw [← whole]; rfl
  have last : s.finish.kind = .eof := by rw [← whole]; rfl
  have room : (Expr.call name es).depth ≤ s.limit := by
    have := depthAll_le h
    rw [Expr.depth]
    omega
  have front : UnaryOp.ofToken? f = none := by simp [UnaryOp.ofToken?, hf]
  have args := list_arguments (s := s) h hend (by omega) (Nat.le_of_lt_succ hlimit) [finish]
  have paren : (Token.ofKind .leftParen).kind = .leftParen := rfl
  have call :
      unary s (operand s levels) (expr s levels 0) _ = .ok (.of (.call name es), [finish]) :=
    (unary_operand front).trans (primary_call hf hname paren args room)
  have climbed : ∀ budget, climb s (expr s levels) 0 budget (.of (.call name es)) [finish] =
      .ok (.of (.call name es), [finish]) := fun budget =>
    climb_stop last (stops_of_kind (.inr (.inr (.inr hend))) 0 []) _
  have found : expr s (levels + 1) 0 _ = .ok (.of (.call name es), [finish]) :=
    bind_eq_ok.2 ⟨_, call, climbed _⟩
  rw [found, ok_bind]
  exact if_pos hend

end Parser

/-- Each source of a list parses to the tree at its place. -/
def Expr.ParseTo (limits : Limits) (sources : List String) (es : List Expr) : Prop :=
  List.Forall₂ (fun source e => parse limits source = .ok e) sources es

/-- Sources that all parse have trees, one each. -/
theorem Expr.exists_parseTo {limits : Limits} {sources : List String}
    (h : sources.all fun source => (parse limits source).isOk) :
    ∃ es, ParseTo limits sources es := by
  induction sources with
  | nil => exact ⟨[], .nil⟩
  | cons source sources ih =>
    rw [List.all_cons, Bool.and_eq_true] at h
    obtain ⟨es, others⟩ := ih h.2
    cases parsed : parse limits source with
    | error fault =>
      rw [parsed] at h
      cases h.1
    | ok e => exact ⟨e :: es, .cons parsed others⟩

/-- A source that parses has tokens that form its tree in front of any end. -/
theorem Expr.exists_tokens {depth : Nat} {source : String} {e : Expr}
    (h : parse ⟨depth⟩ source = .ok e) :
    ∃ us, Token.Spans source us ∧
      Parser.Arguments depth (Token.atEnd 0) (us.map (.sketch id)) e := by
  obtain ⟨ts, scanned, formed⟩ := parse_eq_ok_iff.1 h
  obtain ⟨us, stop, rfl, lexed⟩ := Token.tokenize_lexed scanned
  refine ⟨us, ⟨stop, scanned⟩, ?_, ?_⟩
  · have sketched := Parser.ofTokens_sketch id depth (us ++ [Token.atEnd stop])
    rw [formed, List.map_append] at sketched
    exact sketched.trans (congrArg Except.ok (sketch_id e))
  · intro t mem
    obtain ⟨u, inside, rfl⟩ := List.mem_map.1 mem
    have proper : u.Lexed := lexed u inside
    exact proper.kind_ne

/-- Sources that parse have tokens that form their trees, one list each. -/
theorem Expr.ParseTo.exists_tokens {depth : Nat} {sources : List String} {es : List Expr}
    (h : ParseTo ⟨depth⟩ sources es) :
    ∃ uss, List.Forall₂ Token.Spans sources uss ∧
      List.Forall₂ (Parser.Arguments depth (Token.atEnd 0)) (uss.map (List.map (.sketch id)))
        es := by
  unfold ParseTo at h
  induction h with
  | nil => exact ⟨[], .nil, .nil⟩
  | cons first rest ih =>
    obtain ⟨us, spans, arguments⟩ := Expr.exists_tokens first
    obtain ⟨uss, others, more⟩ := ih
    exact ⟨us :: uss, .cons spans others, .cons arguments more⟩

/-- **A call parses to a call.** Arguments that parse with one level less parse to the same trees as
arguments of a function, whose name keeps its case. -/
theorem Expr.parse_call {word : String} (shape : Token.IsWord word.toList)
    (free : Token.reserved? (Text.lower word) = none) {depth : Nat} {sources : List String}
    {args : List Expr} (h : ParseTo ⟨depth⟩ sources args) {limits : Limits}
    (deep : depth < limits.maxDepth) :
    parse limits (word ++ "(" ++ Text.join "," sources ++ ")") = .ok (.call word args) := by
  obtain ⟨uss, spans, arguments⟩ := h.exists_tokens
  have sketched := sketchParsed_parse id limits (word ++ "(" ++ Text.join "," sources ++ ")")
  rw [Token.sketchScanned_tokenize_call shape free spans] at sketched
  dsimp only at sketched
  rw [Parser.ofTokens_call arguments rfl deep rfl rfl] at sketched
  cases parsed : parse limits (word ++ "(" ++ Text.join "," sources ++ ")") with
  | error fault =>
    rw [parsed] at sketched
    cases sketched
  | ok e =>
    rw [parsed] at sketched
    have same : e.sketch id = .call word args := Except.ok.inj sketched
    rw [← same, sketch_id]

end SurveyLogic
