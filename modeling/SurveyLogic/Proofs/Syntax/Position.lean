/-
# Where errors stand

The parser makes no tokens: the one that an error names is one of those it was given, or the end
that it reads past the last of them. So a property that all of these have, the token at fault has
(`Keeps`), also where the limit is exceeded. It is carried through each function of the parser with
the tokens that are left, as these are what the next function is given.

With the positions of the tokens of a source this bounds the position of every error, and places the
errors of the lexer at the end of what can be read on its own (`source_positions`).
-/

import SurveyLogic.Proofs.Syntax.Offence
import SurveyLogic.Proofs.Token.Position

namespace SurveyLogic
namespace Parser

variable {α β : Type} {P : Token → Prop}

/-- The tokens that are left satisfy `P`, or the token at fault does. -/
def Keeps (P : Token → Prop) : Result (Reading α) → Prop
  | .ok reading => ∀ t ∈ reading.2, P t
  | .error e => P e.found

/-- Given tokens that satisfy `P`, a parser leaves such tokens or blames one. -/
def KeepsAll (P : Token → Prop) (f : List Token → Result (Reading α)) : Prop :=
  ∀ ts : List Token, (∀ t ∈ ts, P t) → Keeps P (f ts)

/-- Parsers one behind another keep a property of tokens if each of them does. -/
theorem Keeps.bind {x : Result (Reading α)} {f : Reading α → Result (Reading β)} (h : Keeps P x)
    (hf : ∀ a rest, (∀ t ∈ rest, P t) → Keeps P (f (a, rest))) : Keeps P (x >>= f) := by
  cases x with
  | ok reading => exact hf reading.1 reading.2 h
  | error e => exact h

theorem forall_mem_tail {ts : List Token} (h : ∀ t ∈ ts, P t) : ∀ t ∈ ts.tail, P t :=
  fun t mem => h t (List.mem_of_mem_tail mem)

section

variable {s : Setting} (hs : P s.finish)
include hs

/-- The next token has the property that all tokens and the end have. -/
theorem next_keeps {ts : List Token} (h : ∀ t ∈ ts, P t) : P (next s ts) := by
  cases ts with
  | nil => exact hs
  | cons t ts => exact h t List.mem_cons_self

/-- What keeps a property behind a bracket keeps it with the bracket. -/
theorem keeps_expect_bind {bracket : Token.Kind} {ts : List Token} (h : ∀ t ∈ ts, P t)
    {f : List Token → Result (Reading α)} (hf : KeepsAll P f) :
    Keeps P (expect s bracket ts >>= f) := by
  unfold expect
  split
  · exact hf ts.tail (forall_mem_tail h)
  · exact next_keeps hs h

/-- A node takes up no token, and is too high at the next one. -/
theorem keeps_node (e : Expr) (height : Nat) : KeepsAll P (node s e height) := by
  intro ts h
  unfold node
  split
  · exact next_keeps hs h
  · exact h

variable {f fb : List Token → Result (Reading Node)}

/-- Items keep a property if each item does. -/
theorem keeps_items (close : Token.Kind) (hf : KeepsAll P f) (budget : Nat) :
    KeepsAll P (items s f close budget) := by
  have last (first : Node) : KeepsAll P fun ts =>
      (do return ([first], ← expect s close ts) : Result (Reading (List Node))) :=
    fun ts h => keeps_expect_bind hs h fun _ behind => behind
  induction budget with
  | zero => exact fun ts h => (hf ts h).bind fun first rest behind => last first rest behind
  | succ budget ih =>
    intro ts h
    refine (hf ts h).bind fun first rest behind => ?_
    dsimp only
    split
    · exact (ih rest.tail (forall_mem_tail behind)).bind fun _ _ left => left
    · exact last first rest behind

/-- The inside of brackets keeps a property if each item does. -/
theorem keeps_list (close : Token.Kind) (hf : KeepsAll P f) : KeepsAll P (list s f close) := by
  intro ts h
  unfold list
  split
  · exact forall_mem_tail h
  · exact keeps_items hs close hf _ ts h

/-- An operand without operators keeps a property if what it encloses does. -/
theorem keeps_primary (hf : KeepsAll P f) : KeepsAll P (primary s f) := by
  intro ts h
  have behind := forall_mem_tail h
  unfold primary
  dsimp only
  split
  · exact (hf ts.tail behind).bind fun n rest left =>
      keeps_expect_bind hs left fun _ closed => closed
  · exact (keeps_list hs .rightBracket hf ts.tail behind).bind fun nodes rest left =>
      keeps_node hs _ _ rest left
  · refine keeps_expect_bind hs behind fun rest opened => ?_
    exact (keeps_list hs .rightParen hf rest opened).bind fun nodes rest left =>
      keeps_node hs _ _ rest left
  · split
    · exact behind
    · exact next_keeps hs h

/-- An operand keeps a property if the operand behind its operators does. -/
theorem keeps_unary (hb : KeepsAll P fb) (hf : KeepsAll P f) : KeepsAll P (unary s fb f) := by
  intro ts h
  unfold unary
  split
  · exact keeps_primary hs hf ts h
  · exact (hb ts.tail (forall_mem_tail h)).bind fun arg rest left =>
      keeps_node hs _ _ rest left

/-- A climb keeps a property if its right operands do. -/
theorem keeps_climb {operand : Nat → List Token → Result (Reading Node)}
    (h : ∀ k, KeepsAll P (operand k)) (least budget : Nat) (lhs : Node) :
    KeepsAll P (climb s operand least budget lhs) := by
  induction budget generalizing lhs with
  | zero => exact fun ts left => left
  | succ budget ih =>
    intro ts left
    have behind := forall_mem_tail left
    unfold climb
    split
    · exact left
    · split
      · exact left
      · split
        · exact (keeps_node hs _ _ ts.tail behind).bind fun n => ih n
        · refine (h _ ts.tail behind).bind fun rhs rest right => ?_
          exact (keeps_node hs _ _ rest right).bind fun n => ih n

/-- **An error blames a token that was given,** or the end. The induction is on the levels left. -/
theorem keeps_expr (levels : Nat) :
    KeepsAll P (operand s levels) ∧ ∀ least, KeepsAll P (expr s levels least) := by
  induction levels with
  | zero => exact ⟨fun ts h => next_keeps hs h, fun least ts h => next_keeps hs h⟩
  | succ levels ih =>
    have front := keeps_unary hs ih.1 (ih.2 0)
    exact ⟨front, fun least ts h => (front ts h).bind fun lhs rest =>
      keeps_climb hs ih.2 least _ lhs rest⟩

end

/-- The token at fault is one of all tokens, or the end read past them, at the place of the last. -/
theorem found_of_ofTokens {limit : Nat} {ts : List Token} {e : ParseError}
    (failed : Expr.ofTokens limit ts = .error e) (h : ∀ t ∈ ts, P t)
    (hs : P (Setting.whole limit ts).finish) : P e.found := by
  rw [ofTokens_eq] at failed
  have read := (keeps_expr hs limit).2 0 ts h
  rcases bind_eq_error.1 failed with stopped | ⟨⟨n, rest⟩, made, trailing⟩
  · rw [stopped] at read
    exact read
  · rw [made] at read
    dsimp only at trailing
    split at trailing
    · cases trailing
    · cases trailing
      exact next_keeps hs read

end Parser

namespace Expr

/-- A source fails in the lexer, or its tokens fail in the parser. -/
theorem parse_eq_error {limits : Limits} {source : String} {e : SyntaxError}
    (h : parse limits source = .error e) :
    (∃ fault, Token.tokenize source = .error fault ∧ e = .lex fault) ∨
      ∃ ts err, Token.tokenize source = .ok ts ∧ ofTokens limits.maxDepth ts = .error err ∧
        e = .parse err := by
  unfold parse at h
  cases scanned : Token.tokenize source with
  | error fault =>
    rw [scanned] at h
    cases h
    exact .inl ⟨fault, rfl, rfl⟩
  | ok ts =>
    rw [scanned] at h
    change (ofTokens limits.maxDepth ts).mapError SyntaxError.parse = .error e at h
    cases formed : ofTokens limits.maxDepth ts with
    | ok tree => rw [formed] at h; cases h
    | error err =>
      rw [formed] at h
      cases h
      exact .inr ⟨ts, err, rfl, formed, rfl⟩

/-- No error in a source is behind its last character. -/
theorem position_le {limits : Limits} {source : String} {e : SyntaxError}
    (h : parse limits source = .error e) : e.position ≤ source.length := by
  rw [← String.length_toList]
  rcases parse_eq_error h with ⟨fault, failed, rfl⟩ | ⟨ts, err, scanned, failed, rfl⟩
  · obtain ⟨front, rest, whole, -, place, -⟩ := Token.scanned_of_error failed
    change fault.position ≤ source.toList.length
    rw [place, whole, List.length_append]
    omega
  · obtain ⟨us, rfl, -, placed⟩ := Token.stands_of_scanned scanned
    rw [Nat.zero_add] at failed
    refine Parser.found_of_ofTokens (P := (·.position ≤ source.toList.length)) failed
      (fun t mem => ?_) ?_
    · rcases List.mem_append.1 mem with inside | last
      · exact Nat.le_of_lt (Nat.zero_add source.toList.length ▸ (placed t inside).lt)
      · rw [List.mem_singleton.1 last]
        exact Nat.le_refl _
    · simp [Parser.Setting.whole, Token.atEnd]

/-- **Where tokens and errors stand in a source.** The tokens increase in position, each in front of
the end at a character that is not blank, and the end stands behind the last character. An error of
the lexer stands at a character, and the text in front of it has the tokens that were made and
nothing else. No error of either kind stands behind the end. -/
theorem source_positions (source : String) :
    Token.tokenize source = (Token.reach none 0 source.toList).result ∧
      (∀ ts, Token.tokenize source = .ok ts →
        ∃ us, ts = us ++ [Token.atEnd source.length] ∧ ts.Pairwise (·.position < ·.position) ∧
          ∀ t ∈ us, t.kind ≠ .eof ∧ t.position < source.length ∧
            ∃ c, source.toList[t.position]? = some c ∧ Text.isBlank c = false) ∧
      (∀ e, Token.tokenize source = .error e →
        e.position < source.length ∧
          Token.tokenize (String.ofList (source.toList.take e.position)) =
            .ok ((Token.reach none 0 source.toList).tokens ++ [Token.atEnd e.position])) ∧
      ∀ limits e, parse limits source = .error e → e.position ≤ source.length := by
  refine ⟨Token.scan_eq_result _ _ _, fun ts scanned => ?_, fun e failed => ?_,
    fun limits e => position_le⟩
  · obtain ⟨us, rfl, ordered, placed⟩ := Token.stands_of_scanned scanned
    rw [Nat.zero_add, String.length_toList] at ordered ⊢
    refine ⟨us, rfl, ordered, fun t mem => ?_⟩
    have within := (placed t mem).lt
    obtain ⟨proper, before, c, after, whole, full, place⟩ := placed t mem
    rw [Nat.zero_add] at within place
    refine ⟨proper, String.length_toList ▸ within, c, ?_, full⟩
    rw [whole, place, List.getElem?_append_right (Nat.le_refl _), Nat.sub_self]
    rfl
  · obtain ⟨front, rest, whole, more, place, scanned⟩ := Token.scanned_of_error failed
    rw [Nat.zero_add] at place
    have front_eq : source.toList.take e.position = front := by
      rw [whole, place, List.take_left]
    refine ⟨?_, ?_⟩
    · rw [← String.length_toList, whole, place, List.length_append]
      exact Nat.lt_add_of_pos_right (List.length_pos_iff.2 more)
    · rw [Token.tokenize, String.toList_ofList, front_eq]
      exact scanned

/-- The hypotheses of `source_positions` are satisfiable: the lexer stops in `f(a) # b` at position
5, the text in front of it has four tokens, and the parser blames `b` in `a b`. -/
theorem source_positions_sign :
    (Token.tokenize "f(a) # b" = .error ⟨.unexpectedChar '#', 5⟩ ∧ 5 < "f(a) # b".length ∧
        ∃ us, Token.tokenize "f(a) " = .ok (us ++ [Token.atEnd 5]) ∧
          us.map (·.position) = [0, 1, 2, 3] ∧ ∀ t ∈ us, t.position < "f(a) ".length) ∧
      ∃ e, parse {} "a b" = .error e ∧ e.position = 2 ∧ e.position ≤ "a b".length := by
  have fault : (match Token.tokenize "f(a) # b" with
      | .error e => e == ⟨.unexpectedChar '#', 5⟩
      | .ok _ => false) = true := by
    decide +kernel
  have blamed : (match parse {} "a b" with
      | .error e => e.position == 2
      | .ok _ => false) = true := by
    decide +kernel
  have made : (Token.reach none 0 "f(a) # b".toList).tokens.map (·.position) = [0, 1, 2, 3] := by
    decide +kernel
  have front : String.ofList ("f(a) # b".toList.take 5) = "f(a) " := by decide +kernel
  obtain ⟨-, -, stops, -⟩ := source_positions "f(a) # b"
  obtain ⟨-, stands, -, -⟩ := source_positions "f(a) "
  obtain ⟨-, -, -, bound⟩ := source_positions "a b"
  split at fault
  · rename_i e failed
    obtain rfl : e = ⟨.unexpectedChar '#', 5⟩ := by simpa using fault
    obtain ⟨within, scanned⟩ := stops _ failed
    rw [front] at scanned
    obtain ⟨us, whole, -, placed⟩ := stands _ scanned
    have same := (List.append_inj' whole rfl).1
    refine ⟨⟨failed, within, _, scanned, made, fun t mem => (placed t (same ▸ mem)).2.1⟩, ?_⟩
    split at blamed
    · rename_i e' refused
      exact ⟨e', refused, by simpa using blamed, bound _ e' refused⟩
    · cases blamed
  · cases fault

end Expr
end SurveyLogic
