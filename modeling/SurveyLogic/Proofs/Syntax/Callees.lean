/-
# The functions that a source calls

Each function that a tree calls comes from a token of its source (`Reads.uses`), and the lexer looks
whether a word is reserved before it looks for a parenthesis behind it. So no tree calls a function
under a reserved word, in whatever case it is written and whether or not there is such a function
(`reserved?_of_mem_functions`).
-/

import SurveyLogic.Expr.Dependencies
import SurveyLogic.Proofs.Syntax.Offence
import SurveyLogic.Proofs.Token.Lexed
import SurveyLogic.Proofs.Token.Written

namespace SurveyLogic

namespace Token

/-- A token that is a function has a name, and the name is not reserved. -/
def Callee (kind : Kind) (payload : Payload) : Prop :=
  kind = .function → ∃ word, payload = .text word ∧ reserved? (Text.lower word) = none

/-- A word becomes a function only if it is not reserved. -/
theorem callee_ofWord (word : String) (next : Option Char) :
    Callee (ofWord word next).1 (ofWord word next).2 := by
  intro function
  unfold ofWord at function ⊢
  cases meaning : reserved? (Text.lower word) with
  | none =>
    refine ⟨word, ?_, meaning⟩
    rfl
  | some content =>
    rw [meaning, Option.getD_some] at function
    unfold reserved? at meaning
    split at meaning <;> cases meaning <;> cases function

/-- The lexer makes no function of a reserved word. -/
theorem callee_of_lexeme {last : Option Kind} {c : Char} {cs : List Char} {l : Lexeme}
    (h : lexeme last c cs = .ok l) : Callee l.kind l.payload := by
  cases lexes_of_lexeme h with
  | word _ read => exact read ▸ callee_ofWord _ _
  | punctuation sign =>
    intro function
    unfold punctuation? at sign
    split at sign <;> cases sign <;> cases function
  | _ =>
    intro function
    cases function

end Token

namespace Parser

/-- The functions that a phrase calls satisfy `P`, if those of a left operand that it goes on from
do. -/
def Phrase.Uses (P : String → Prop) : Phrase → Prop
  | primary e | unary e | expr _ e => ∀ name ∈ e.functions, P name
  | climb _ lhs e => (∀ name ∈ lhs.functions, P name) → ∀ name ∈ e.functions, P name
  | items _ es | list _ es => ∀ name ∈ Expr.functionsAll es, P name

/-- A reading takes up tokens from the front. -/
theorem Reads.suffix {p : Phrase} {ts rest : List Token} (h : Reads p ts rest) : rest <:+ ts := by
  obtain ⟨used, rfl, -⟩ := h.replace
  exact List.suffix_append used rest

/-- A tree that one token writes calls nothing. -/
theorem functions_of_leaf {t : Token} {e : Expr} (h : Expr.ofToken? t = some e) :
    e.functions = [] := by
  have leaf := Expr.ofToken?_eq_some.1 h
  cases e with
  | literal l => rfl
  | var path => rfl
  | _ => simp [Expr.leaf?] at leaf

/-- **Each function that is called comes from a token.** -/
theorem Reads.uses {P : String → Prop} {p : Phrase} {ts rest : List Token} (h : Reads p ts rest)
    (hP : ∀ t ∈ ts, t.kind = .function → ∀ word, t.payload = .text word → P (Text.lower word)) :
    p.Uses P := by
  induction h with
  | token ht =>
    intro name mem
    rw [functions_of_leaf ht] at mem
    cases mem
  | paren ht h hc ih => exact ih (List.forall_mem_cons.1 hP).2
  | array ht h ih => exact ih (List.forall_mem_cons.1 hP).2
  | call hf hname ht h ih =>
    obtain ⟨here, behind⟩ := List.forall_mem_cons.1 hP
    exact List.forall_mem_cons.2 ⟨here hf _ hname, ih (List.forall_mem_cons.1 behind).2⟩
  | operand h ih => exact ih hP
  | inFront ht h ih => exact ih (List.forall_mem_cons.1 hP).2
  | stop h => exact id
  | check ht hl h ih => exact ih (List.forall_mem_cons.1 hP).2
  | binary ht hl hr h ihr ih =>
    intro left
    obtain ⟨-, behind⟩ := List.forall_mem_cons.1 hP
    refine ih (fun t mem => behind t (hr.suffix.subset mem)) ?_
    exact List.forall_mem_append.2 ⟨left, ihr behind⟩
  | expr hu hc ihu ihc => exact ihc (fun t mem => hP t (hu.suffix.subset mem)) (ihu hP)
  | last h hc ih => exact List.forall_mem_append.2 ⟨ih hP, List.forall_mem_nil _⟩
  | more h hc hs ih ihs =>
    have behind := ihs fun t mem => hP t (h.suffix.subset (.tail _ mem))
    exact List.forall_mem_append.2 ⟨ih hP, behind⟩
  | empty hc => exact List.forall_mem_nil _
  | some h ih => exact ih hP

end Parser

/-- **No source calls a function under a reserved word.** -/
theorem Expr.reserved?_of_mem_functions {limits : Limits} {source : String} {e : Expr}
    (h : parse limits source = .ok e) : ∀ name ∈ e.functions, Token.reserved? name = none := by
  obtain ⟨ts, scanned, formed⟩ := parse_eq_ok_iff.1 h
  obtain ⟨us, stop, rfl, callees⟩ :=
    Token.scan_forall (fun _ _ _ _ => Token.callee_of_lexeme) scanned
  obtain ⟨rest, reads, -⟩ := Parser.reads_of_ofTokens formed
  refine reads.uses fun t mem function word named => ?_
  rcases List.mem_append.1 mem with inside | last
  · obtain ⟨word', named', free⟩ := callees t inside function
    cases named.symm.trans named'
    exact free
  · cases List.mem_singleton.1 last
    cases function

end SurveyLogic
