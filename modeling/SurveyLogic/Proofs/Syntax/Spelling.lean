/-
# How expressions are spelled

What writes a leaf, an operator or a check as a token, and that the parser takes a token for exactly
what it writes. Two operators have two spellings, all others one:

| operator | token | texts |
| --- | --- | --- |
| `=` | comparison | `=`, `==` |
| `<>` | comparison | `<>`, `!=` |
| any other between operands | operator, comparison or logical | its symbol |
| `not`, `-` in front | logical, operator | `not`, `-` |
| `empty`, `notempty` behind | comparison | the word |
-/

import SurveyLogic.Syntax.Parser

namespace SurveyLogic

namespace Token

/-- A token apart from its position. -/
abbrev Content := Kind × Payload

/-- What a token is apart from its position. -/
def content (t : Token) : Content :=
  (t.kind, t.payload)

end Token

/-- The token that writes a constant. -/
def Literal.content : Literal → Token.Content
  | number x => (.number, .number x)
  | string s => (.string, .text s)
  | bool b => (.boolean, .bool b)
  | null => (.boolean, .null)

/-- The token that writes a tree without further trees in it. -/
def Expr.leaf? : Expr → Option Token.Content
  | literal l => some l.content
  | var path => some (.reference, .text path)
  | _ => none

namespace UnaryOp

/-- Whether an operator stands in front of its operand rather than behind it. -/
def standsInFront : UnaryOp → Bool
  | not | negate => true
  | empty | notEmpty => false

/-- The token that writes an operator with one operand. -/
def content : UnaryOp → Token.Content
  | not => (.logical, .text "not")
  | negate => (.operator, .text "-")
  | empty => (.comparison, .text "empty")
  | notEmpty => (.comparison, .text "notempty")

end UnaryOp

namespace BinaryOp

/-- The kind of the token that writes an operator. -/
def kind : BinaryOp → Token.Kind
  | or | and => .logical
  | add | sub | mul | div | mod | pow => .operator
  | _ => .comparison

/-- The texts that write an operator, its symbol first. -/
def spellings : BinaryOp → List String
  | eq => ["=", "=="]
  | ne => ["<>", "!="]
  | op => [op.symbol]

end BinaryOp

/-- A token stands alone for the trees that it writes. -/
theorem Expr.ofToken?_eq_some {t : Token} {e : Expr} :
    ofToken? t = some e ↔ e.leaf? = some t.content := by
  obtain ⟨kind, payload, position⟩ := t
  constructor
  · intro h
    unfold ofToken? at h
    split at h <;> simp_all [leaf?, Literal.content, Token.content] <;> subst h <;> rfl
  · intro h
    rcases e with l | path | _ | _ | _ | _ <;> simp [leaf?, Token.content] at h
    · cases l <;> simp [Literal.content] at h <;> obtain ⟨rfl, rfl⟩ := h <;> rfl
    · obtain ⟨rfl, rfl⟩ := h
      rfl

/-- A tree that one token writes is one level high. -/
theorem Expr.depth_of_leaf {e : Expr} {c : Token.Content} (h : e.leaf? = some c) :
    e.depth = 1 := by
  cases e <;> simp [leaf?] at h <;> rfl

/-- A token is an operator in front if it writes one. -/
theorem UnaryOp.ofToken?_eq_some {t : Token} {op : UnaryOp} :
    ofToken? t = some op ↔ op.standsInFront = true ∧ t.content = op.content := by
  obtain ⟨kind, payload, position⟩ := t
  constructor
  · intro h
    unfold ofToken? at h
    split at h <;> simp_all [Token.content] <;> subst h <;> exact ⟨rfl, rfl⟩
  · rintro ⟨hop, h⟩
    cases op <;> simp [standsInFront, content, Token.content] at hop h <;>
      obtain ⟨rfl, rfl⟩ := h <;> rfl

namespace Connective

/-- A token is a binary operator between operands if it is a spelling of the operator. -/
theorem ofToken?_eq_binary {t : Token} {op : BinaryOp} :
    ofToken? t = some (.binary op) ↔
      ∃ s ∈ op.spellings, t.content = (op.kind, .text s) := by
  obtain ⟨kind, payload, position⟩ := t
  constructor
  · intro h
    unfold ofToken? ofText? at h
    cases payload <;> simp only [reduceCtorEq] at h
    cases kind <;> simp only [reduceCtorEq] at h
    case operator | comparison | logical =>
      split at h <;> simp at h <;> subst h <;>
        simp [BinaryOp.spellings, BinaryOp.kind, BinaryOp.symbol, Token.content]
  · rintro ⟨s, hs, h⟩
    simp only [Token.content, Prod.mk.injEq] at h
    obtain ⟨rfl, rfl⟩ := h
    cases op <;> simp [BinaryOp.spellings, BinaryOp.symbol] at hs
    case eq | ne => rcases hs with rfl | rfl <;> rfl
    all_goals subst hs; rfl

/-- A token behind an operand is a check if it writes one. -/
theorem ofToken?_eq_check {t : Token} {op : UnaryOp} :
    ofToken? t = some (.check op) ↔ op.standsInFront = false ∧ t.content = op.content := by
  obtain ⟨kind, payload, position⟩ := t
  constructor
  · intro h
    unfold ofToken? ofText? at h
    cases payload <;> simp only [reduceCtorEq] at h
    cases kind <;> simp only [reduceCtorEq] at h
    case operator | comparison | logical =>
      split at h <;> simp at h <;> subst h <;>
        simp [UnaryOp.standsInFront, UnaryOp.content, Token.content]
  · rintro ⟨hop, h⟩
    cases op <;> simp [UnaryOp.standsInFront, UnaryOp.content, Token.content] at hop h <;>
      obtain ⟨rfl, rfl⟩ := h <;> rfl

end Connective
end SurveyLogic
