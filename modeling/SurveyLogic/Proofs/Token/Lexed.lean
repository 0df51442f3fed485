/-
# The tokens of a text

The lexer pairs each kind with payloads of its own: a value with a number, any text with a string,
a reference or a function, one of the signs or words of the language with an operator, and nothing
with punctuation. `tokenize_lexed` says that all tokens of a source but the last are of this form,
and that the last is its end.
-/

import Mathlib.Data.List.TakeWhile
import SurveyLogic.Token.Lexer

namespace SurveyLogic
namespace Token

/-- The words that stand for comparisons. -/
def comparisonWords : List String :=
  ["contains", "notcontains", "anyof", "allof", "empty", "notempty"]

/-- Whether the lexer gives tokens of this kind such a payload. It makes the end apart from all
others. -/
def Suits : Kind → Payload → Prop
  | .number, .number _ => True
  | .string, .text _ => True
  | .boolean, .bool _ => True
  | .boolean, .null => True
  | .reference, .text _ => True
  | .function, .text _ => True
  | .operator, .text s => s ∈ ["+", "-", "*", "/", "%", "^"]
  | .comparison, .text s => s ∈ comparisonSigns ++ comparisonWords
  | .logical, .text s => s ∈ ["and", "or", "not"]
  | .leftParen, .none => True
  | .rightParen, .none => True
  | .leftBracket, .none => True
  | .rightBracket, .none => True
  | .comma, .none => True
  | .dot, .none => True
  | _, _ => False

/-- Whether a token is one that the lexer makes in front of the end. -/
def Lexed (t : Token) : Prop :=
  Suits t.kind t.payload

/-- The payload of a reserved word suits its kind. -/
theorem suits_of_reserved {lower : String} {content : Kind × Payload}
    (h : reserved? lower = some content) : Suits content.1 content.2 := by
  unfold reserved? at h
  split at h <;> cases h <;> simp [Suits, comparisonSigns, comparisonWords]

/-- The payload of a word suits its kind. -/
theorem suits_ofWord (word : String) (next : Option Char) :
    Suits (ofWord word next).1 (ofWord word next).2 := by
  unfold ofWord
  cases h : reserved? (Text.lower word) with
  | some content => exact suits_of_reserved h
  | none =>
    simp only [Option.getD_none]
    split <;> trivial

/-- The signs of operators are the six of the grammar. -/
theorem mem_of_operatorSigns :
    ∀ c ∈ operatorSigns, c.toString ∈ ["+", "-", "*", "/", "%", "^"] := by
  unfold operatorSigns
  simp only [List.mem_cons, List.not_mem_nil, or_false, forall_eq_or_imp, forall_eq]
  decide

/-! ### What a token can be -/

/-- The tokens that may start with `c` in front of `cs`, and what is known of the text of each. -/
inductive Lexes (last : Option Kind) : Char → List Char → Lexeme → Prop where
  | reference {name rest : List Char} (ends : '\x7d' ∉ name) :
      Lexes last '\x7b' (name ++ '\x7d' :: rest)
        ⟨.reference, .text (Text.trim (String.ofList name)), name.length + 1⟩
  | string {c : Char} {cs content : List Char} {n : Nat} (quote : c = '\'' ∨ c = '"')
      (read : quotedContent? c cs = some (content, n)) :
      Lexes last c cs ⟨.string, .text (String.ofList content), n⟩
  | number {c : Char} {cs : List Char} {x : Float} (starts : startsNumber last c cs)
      (read : Number.read? (c :: numberTail cs) = some x) :
      Lexes last c cs ⟨.number, .number x, (numberTail cs).length⟩
  | punctuation {c : Char} {cs : List Char} {kind : Kind} (sign : punctuation? c = some kind) :
      Lexes last c cs ⟨kind, .none, 0⟩
  | comparison {c : Char} {cs : List Char} {sign : String}
      (found : comparisonSign? (c :: cs) = some sign) :
      Lexes last c cs ⟨.comparison, .text sign, sign.length - 1⟩
  | operator {c : Char} {cs : List Char} (mem : c ∈ operatorSigns) :
      Lexes last c cs ⟨.operator, .text c.toString, 0⟩
  | word {c : Char} {cs : List Char} {content : Kind × Payload} (starts : startsWord c)
      (read : ofWord (String.ofList (c :: cs.takeWhile continuesWord))
        (cs.drop (cs.takeWhile continuesWord).length).head? = content) :
      Lexes last c cs ⟨content.1, content.2, (cs.takeWhile continuesWord).length⟩

/-- A reference goes up to the first closing brace, and its name is trimmed. -/
theorem reference?_eq_some {cs : List Char} {l : Lexeme} (h : Lexeme.reference? cs = some l) :
    ∃ name rest, '\x7d' ∉ name ∧ cs = name ++ '\x7d' :: rest ∧
      l = ⟨.reference, .text (Text.trim (String.ofList name)), name.length + 1⟩ := by
  unfold Lexeme.reference? at h
  dsimp only at h
  split at h
  · rename_i closed
    have split : cs.takeWhile (· ≠ '\x7d') ++ cs.dropWhile (· ≠ '\x7d') = cs :=
      List.takeWhile_append_dropWhile
    have ends : '\x7d' ∉ cs.takeWhile (· ≠ '\x7d') := fun mem => by
      simpa using List.mem_takeWhile_imp mem
    have stops := List.head?_dropWhile_not (fun c : Char => decide (c ≠ '\x7d')) cs
    cases h
    cases behind : cs.dropWhile (· ≠ '\x7d') with
    | nil =>
      rw [behind, List.append_nil] at split
      rw [split] at closed
      omega
    | cons d rest =>
      rw [behind] at split stops
      have close : d = '\x7d' := by simpa using stops
      exact ⟨_, rest, ends, close ▸ split.symm, rfl⟩
  · cases h

/-- **A token is of one of seven forms.** -/
theorem lexes_of_lexeme {last : Option Kind} {c : Char} {cs : List Char} {l : Lexeme}
    (h : lexeme last c cs = .ok l) : Lexes last c cs l := by
  unfold lexeme at h
  split at h
  · rename_i brace
    subst brace
    cases found : Lexeme.reference? cs with
    | none => rw [found] at h; cases h
    | some r =>
      rw [found] at h
      cases h
      obtain ⟨name, rest, ends, rfl, rfl⟩ := reference?_eq_some found
      exact .reference ends
  split at h
  · rename_i quote
    rw [Lexeme.string?] at h
    cases found : quotedContent? c cs with
    | none => rw [found] at h; cases h
    | some r =>
      rw [found] at h
      cases h
      exact .string (by simpa using quote) found
  split at h
  · rename_i starts
    dsimp only at h
    split at h
    · rename_i read
      cases h
      exact .number starts read
    · cases h
  split at h
  · rename_i sign
    cases h
    exact .punctuation sign
  split at h
  · rename_i found
    cases h
    exact .comparison found
  split at h
  · rename_i mem
    cases h
    exact .operator (by simpa using mem)
  split at h
  · rename_i starts
    dsimp only at h
    cases h
    exact .word starts rfl
  · cases h

/-- The payload of a token suits its kind. -/
theorem suits_of_lexeme {last : Option Kind} {c : Char} {cs : List Char} {l : Lexeme}
    (h : lexeme last c cs = .ok l) : Suits l.kind l.payload := by
  cases lexes_of_lexeme h with
  | reference | string | number => trivial
  | punctuation sign =>
    unfold punctuation? at sign
    split at sign <;> cases sign <;> trivial
  | comparison found => exact List.mem_append_left _ (List.mem_of_find?_eq_some found)
  | operator mem => exact mem_of_operatorSigns c mem
  | word _ read => exact read ▸ suits_ofWord _ _

/-- A scan that goes on behind a token gives that token and what it finds there. -/
theorem exists_of_scanned_cons {t : Token} {scanned : Except LexError (List Token)}
    {ts : List Token}
    (h : (do
        let rest ← scanned
        .ok (t :: rest)) = .ok ts) :
    ∃ rest, scanned = .ok rest ∧ t :: rest = ts := by
  cases scanned with
  | error e => cases h
  | ok rest => exact ⟨rest, rfl, Except.ok.inj h⟩

/-- What holds of each token that the lexer makes holds of all tokens of a text in front of its
end. -/
theorem scan_forall {P : Kind → Payload → Prop}
    (h : ∀ last c cs l, lexeme last c cs = .ok l → P l.kind l.payload) {last : Option Kind}
    {position : Nat} {cs : List Char} {ts : List Token} (scanned : scan last position cs = .ok ts) :
    ∃ us stop, ts = us ++ [atEnd stop] ∧ ∀ t ∈ us, P t.kind t.payload := by
  fun_induction scan last position cs generalizing ts with
  | case1 last position =>
    cases scanned
    exact ⟨[], position, rfl, fun t ht => absurd ht List.not_mem_nil⟩
  | case2 last position c cs hblank ih => exact ih scanned
  | case3 last position c cs hblank fault hfault => cases scanned
  | case4 last position c cs hblank l hl ih =>
    obtain ⟨rest, hrest, rfl⟩ := exists_of_scanned_cons scanned
    obtain ⟨us, stop, rfl, hus⟩ := ih hrest
    refine ⟨⟨l.kind, l.payload, position⟩ :: us, stop, rfl, fun t ht => ?_⟩
    rcases List.mem_cons.1 ht with rfl | ht
    · exact h last c cs l hl
    · exact hus t ht

/-- A scan gives tokens of the lexer, and then the end. -/
theorem scan_lexed {last : Option Kind} {position : Nat} {cs : List Char} {ts : List Token}
    (h : scan last position cs = .ok ts) :
    ∃ us stop, ts = us ++ [atEnd stop] ∧ ∀ t ∈ us, t.Lexed :=
  scan_forall (fun _ _ _ _ => suits_of_lexeme) h

/-- **What the lexer makes of a source:** tokens with payloads that suit their kinds, then its
end. -/
theorem tokenize_lexed {source : String} {ts : List Token} (h : tokenize source = .ok ts) :
    ∃ us stop, ts = us ++ [atEnd stop] ∧ ∀ t ∈ us, t.Lexed :=
  scan_lexed h

end Token
end SurveyLogic
