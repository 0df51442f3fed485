/-
# A minus sign behind an expression

A minus sign in front of a digit is the sign of a number, unless an operand ends before it. The
lexer tells this by the kind of the last token alone (`Token.Kind.endsOperand`). The last token of
an expression is one of these kinds, or it is `empty` or `notempty` (`Derives.ends`).

| last token of the expression | a minus sign and digits behind it |
| --- | --- |
| reference, number, string, truth value, `)`, `]` | an operator and a number: accepted |
| `empty`, `notempty` | a negative number, behind a whole expression: refused |

`Expr.parse_append_minus` says so for every source. Blanks at the end of the source make no
difference; blanks behind the sign do, for then it is an operator in the second case as well.
-/

import SurveyLogic.Proofs.Syntax.Limit
import SurveyLogic.Proofs.Token.Separation

namespace SurveyLogic

open SurveyLogic.Parser

/-! ### How an expression ends -/

/-- Only a tail and a list can be derived without any token. -/
theorem Derives.ne_nil {x : Symbol} {ts : List Token} (h : Derives x ts) (tail : x ≠ .tail)
    (list : x ≠ .list) : ts ≠ [] := by
  induction h with
  | done => exact absurd rfl tail
  | empty | some => exact absurd rfl list
  | operand _ ih | last _ ih => exact ih nofun nofun
  | expr _ _ ih => exact List.append_ne_nil_of_left_ne_nil (ih nofun nofun) _
  | more => exact List.append_ne_nil_of_right_ne_nil _ (List.cons_ne_nil _ _)
  | _ => exact List.cons_ne_nil _ _

/-- The last of some tokens ends an operand or is a check of one. -/
def Ends (ts : List Token) : Prop :=
  ∀ t ∈ ts.getLast?, t.kind.endsOperand ∨ t.IsCheck

theorem ends_nil : Ends [] :=
  nofun

/-- Where two parts end so, both together do. -/
theorem Ends.append {ts us : List Token} (h : Ends ts) (h' : Ends us) : Ends (ts ++ us) := by
  intro t mem
  cases us with
  | nil => exact h t (by simpa using mem)
  | cons u us => exact h' t (by simpa [List.getLast?_append] using mem)

/-- A token in front of others does not change how they end. -/
theorem Ends.cons {t : Token} {ts : List Token} (h : Ends ts) (more : ts ≠ []) :
    Ends (t :: ts) := by
  intro u mem
  rw [List.getLast?_cons_of_ne_nil more] at mem
  exact h u mem

/-- What ends with the end of an operand or with a check ends so. -/
theorem ends_append_singleton (ts : List Token) {t : Token}
    (h : t.kind.endsOperand ∨ t.IsCheck) : Ends (ts ++ [t]) := by
  intro u mem
  rw [List.getLast?_concat] at mem
  cases mem
  exact h

/-- **An expression ends with the end of an operand or with a check.** -/
theorem Derives.ends {x : Symbol} {ts : List Token} (h : Derives x ts) : Ends ts := by
  induction h with
  | done | empty => exact ends_nil
  | operand _ ih | some _ ih | last _ ih => exact ih
  | expr _ _ ihu ih => exact ihu.append ih
  | @binary t ts us _ hu _ ihu ih =>
    have more : ts ++ us ≠ [] := List.append_ne_nil_of_left_ne_nil (hu.ne_nil nofun nofun) us
    exact (ihu.append ih).cons more
  | @check t ts ht _ ih => exact (ends_append_singleton [] (.inr ht)).append ih
  | front _ h ih => exact ih.cons (h.ne_nil nofun nofun)
  | @paren t c ts _ _ hc | @array t c ts _ _ hc =>
    have closes : c.kind.endsOperand ∨ c.IsCheck := .inl (by rw [hc]; rfl)
    exact ends_append_singleton (t :: ts) closes
  | @call f t c ts _ _ _ hc =>
    have closes : c.kind.endsOperand ∨ c.IsCheck := .inl (by rw [hc]; rfl)
    exact ends_append_singleton (f :: t :: ts) closes
  | @leaf t ht =>
    have closes : t.kind.endsOperand ∨ t.IsCheck := by
      rcases ht with h | h | h | h <;> exact .inl (by rw [h]; rfl)
    exact ends_append_singleton [] closes
  | @more c ts us _ _ hs ih ihs => exact ih.append (ihs.cons (hs.ne_nil nofun nofun))

/-! ### What stands behind it -/

namespace Token

variable {last : Option Kind} {ds : List Char}

/-- The number that some digits write. -/
def digitsNumber (ds : List Char) : Float :=
  Number.ofDecimal (Number.digitsValue ds) 0

/-- The value of digits with or without a sign is their number, negated or not. -/
theorem value_digits (negative : Bool) (ds : List Char) :
    Numeral.value ⟨negative, ds, none⟩ =
      if negative then -digitsNumber ds else digitsNumber ds := by
  simp [Numeral.value, digitsNumber]

/-- A numeral at the end of a source is one token, if its sign does not count as an operator. -/
theorem scan_numeral (last : Option Kind) {n : Numeral} (proper : n.Proper)
    (signed : n.negative → last.any (·.endsOperand) = false) (position : Nat) :
    scan last position n.text =
      .ok [⟨.number, .number n.value, position⟩, atEnd (position + n.text.length)] := by
  obtain ⟨c, cs, text, full, read⟩ := lexeme_numeral proper signed
  have rest : scan (some .number) (position + 1 + cs.length) [] =
      .ok [atEnd (position + 1 + cs.length)] := by
    rw [scan]
  have alone : lexeme last c (cs ++ []) = .ok ⟨.number, .number n.value, cs.length⟩ := by
    rw [List.append_nil, read]
  have scanned := scan_cons full alone position rest
  rw [List.append_nil] at scanned
  rw [text, scanned, List.length_cons, Nat.add_right_comm, Nat.add_assoc]

variable (more : ds ≠ []) (decimal : ∀ c ∈ ds, c.isDigit)
include more decimal

/-- Digits with or without a sign are a numeral. -/
theorem proper_digits (negative : Bool) : Numeral.Proper ⟨negative, ds, none⟩ :=
  ⟨more, decimal, nofun⟩

/-- Where an operand ended, a minus sign is an operator. -/
theorem scan_minus_of_endsOperand (ends : last.any (·.endsOperand) = true) (position : Nat) :
    scan last position ('-' :: ds) =
      .ok [⟨.operator, .text "-", position⟩, ⟨.number, .number (digitsNumber ds), position + 1⟩,
        atEnd (position + ('-' :: ds).length)] := by
  have starts : startsNumber last '-' ds = false := by simp [startsNumber, ends]
  have read : lexeme last '-' ([] ++ ds) = .ok ⟨.operator, .text "-", 0⟩ := by
    rw [List.nil_append, lexeme, starts]
    rfl
  have text : Numeral.text ⟨false, ds, none⟩ = ds := by simp [Numeral.text]
  have unsigned : false = true → (some Kind.operator).any (·.endsOperand) = false :=
    fun negative => absurd negative Bool.false_ne_true
  have number := scan_numeral (some .operator) (proper_digits more decimal false) unsigned
    (position + 1)
  rw [text, value_digits] at number
  have scanned := scan_cons (by decide) read position number
  rw [List.singleton_append] at scanned
  rw [scanned, List.length_cons, Nat.add_assoc, Nat.add_comm 1]
  rfl

/-- Where none did, it is the sign of a number. -/
theorem scan_minus_of_not_endsOperand (goes : last.any (·.endsOperand) = false) (position : Nat) :
    scan last position ('-' :: ds) =
      .ok [⟨.number, .number (-digitsNumber ds), position⟩,
        atEnd (position + ('-' :: ds).length)] := by
  have text : Numeral.text ⟨true, ds, none⟩ = '-' :: ds := by simp [Numeral.text]
  have number := scan_numeral last (proper_digits more decimal true) (fun _ => goes) position
  rw [text, value_digits] at number
  exact number

end Token

namespace Expr

/-- Behind the lexer, a parse is that of the tokens. -/
theorem parse_of_tokenize {source : String} {ts : List Token}
    (scanned : Token.tokenize source = .ok ts) (limits : Limits) :
    parse limits source = (ofTokens limits.maxDepth ts).mapError .parse := by
  rw [parse, scanned]
  rfl

/-- Behind an expression an operator and a number make one that is longer. -/
theorem exists_reads_minus {us : List Token} (derived : Derives .expr us)
    (lexed : ∀ t ∈ us, t.Lexed) (p q stop : Nat) (x : Float) :
    ∃ e, Reads (.expr 0 e)
      (us ++ [⟨.operator, .text "-", p⟩, ⟨.number, .number x, q⟩, Token.atEnd stop])
      [Token.atEnd stop] := by
  let minus : Token := ⟨.operator, .text "-", p⟩
  let number : Token := ⟨.number, .number x, q⟩
  have operand : Derives .unary [number] := .operand (.leaf (.inr (.inl rfl)))
  have binary : minus.IsBinary := ⟨.sub, "-", List.mem_singleton_self _, rfl⟩
  have behind : Derives .tail (minus :: ([number] ++ [])) := .binary binary operand .done
  have longer : Derives .expr (us ++ [minus, number]) := by
    cases derived with
    | expr hu h => simpa using Derives.expr hu (h.tail_append behind)
  have proper : ∀ t ∈ us ++ [minus, number], t.Lexed := by
    refine List.forall_mem_append.2 ⟨lexed, ?_⟩
    simp [minus, number, Token.Lexed, Token.Suits]
  obtain ⟨e, he⟩ := readable_of_derives longer proper
  have stops : Stops 0 [Token.atEnd stop] := stops_of_kind (.inr (.inr (.inr rfl))) 0 []
  exact ⟨e, by simpa using he [Token.atEnd stop] stops⟩

/-- Behind an expression a number makes none: it stands where a connective is needed. -/
theorem ofTokens_number_ne_ok {us : List Token} {stop : Nat} {e : Expr}
    (reads : Reads (.expr 0 e) (us ++ [Token.atEnd stop]) [Token.atEnd stop]) (p stop' : Nat)
    (x : Float) (limit : Nat) (e' : Expr) :
    ofTokens limit (us ++ [⟨.number, .number x, p⟩, Token.atEnd stop']) ≠ .ok e' := by
  intro accepted
  let number : Token := ⟨.number, .number x, p⟩
  have stops : Stops 0 [number, Token.atEnd stop'] := by
    intro c here
    cases here
  obtain ⟨used, split, goes⟩ := reads.replace
  obtain rfl := List.append_cancel_right split
  have before := goes [number, Token.atEnd stop'] fun least level => by
    cases level
    exact stops
  obtain ⟨rest, whole, ends⟩ := reads_of_ofTokens accepted
  obtain ⟨-, rfl⟩ := whole.expr_unique before
  cases ends number rfl

/-- **A minus sign behind an operand is an operator.** Let a source parse under some limit, and let
a minus sign and digits follow it. If the source does not end with `empty` or `notempty`, the tokens
are those of the source, the operator and the number, and they parse to the same expression under
each limit that leaves room for it, at least under any limit above their number. If the source does
end so, the tokens are those of the source and a negative number, and they parse under no limit. -/
theorem parse_append_minus {limits : Limits} {source digits : String} {e : Expr}
    (accepted : parse limits source = .ok e) (more : digits ≠ "")
    (decimal : ∀ c ∈ digits.toList, c.isDigit) :
    ∃ us, Token.tokenize source = .ok (us ++ [Token.atEnd source.length]) ∧
      let longer := source ++ "-" ++ digits
      let x := Token.digitsNumber digits.toList
      ((∀ t ∈ us.getLast?, ¬ t.IsCheck) →
        Token.tokenize longer = .ok (us ++ [⟨.operator, .text "-", source.length⟩,
          ⟨.number, .number x, source.length + 1⟩, Token.atEnd longer.length]) ∧
        ∃ e', ∀ limit,
          (parse ⟨limit⟩ longer = .ok e' ∨
            ∃ found, parse ⟨limit⟩ longer = .error (.parse (.tooDeep limit found))) ∧
          (us.length + 3 < limit → parse ⟨limit⟩ longer = .ok e')) ∧
      ((∃ t ∈ us.getLast?, t.IsCheck) →
        Token.tokenize longer = .ok (us ++ [⟨.number, .number (-x), source.length⟩,
          Token.atEnd longer.length]) ∧
        ∀ limit e', parse ⟨limit⟩ longer ≠ .ok e') := by
  obtain ⟨ts, scanned, formed⟩ := parse_eq_ok_iff.1 accepted
  obtain ⟨us, stop, rfl, lexed⟩ := Token.tokenize_lexed scanned
  obtain ⟨reads, derived, -⟩ := derived_of_ofTokens lexed formed
  obtain ⟨front, t, rfl⟩ : ∃ front t, us = front ++ [t] :=
    ⟨_, _, (List.dropLast_concat_getLast (derived.ne_nil nofun nofun)).symm⟩
  have last : (front ++ [t]).getLast? = some t := List.getLast?_concat
  have nonempty : digits.toList ≠ [] := fun none => more (String.toList_eq_nil_iff.1 none)
  have separated : Token.Separated ('-' :: digits.toList) := fun c mem => by cases mem; rfl
  have text : (source ++ "-" ++ digits).toList = source.toList ++ '-' :: digits.toList := by
    rw [String.toList_append, String.toList_append, List.append_assoc]
    rfl
  have length :
      (source ++ "-" ++ digits).length = source.length + ('-' :: digits.toList).length := by
    rw [← String.length_toList, text, List.length_append, String.length_toList]
  obtain ⟨ends, goes⟩ := Token.scan_append separated scanned
  obtain rfl : stop = source.length := by rw [ends, Nat.zero_add, String.length_toList]
  rw [Token.lastKind_append_singleton, ← text] at goes
  refine ⟨front ++ [t], scanned, ?_, ?_⟩
  · -- Where the end of an operand is the last token, the minus is an operator.
    intro plain
    have operand : (some t.kind).any (·.endsOperand) = true :=
      (derived.ends t last).resolve_right (plain t last)
    rw [Token.scan_minus_of_endsOperand nonempty decimal operand, ← length] at goes
    refine ⟨goes, ?_⟩
    obtain ⟨e', reads'⟩ := exists_reads_minus derived lexed source.length (source.length + 1)
      (source ++ "-" ++ digits).length (Token.digitsNumber digits.toList)
    have atEnd : ∀ t ∈ [Token.atEnd (source ++ "-" ++ digits).length].head?, t.kind = .eof := by
      simp [Token.atEnd]
    refine ⟨e', fun limit => ?_⟩
    rw [parse_of_tokenize goes]
    constructor
    · rcases ofTokens_of_reads_or_tooDeep reads' atEnd limit with accepted | ⟨found, deep⟩
      · exact .inl (by rw [accepted]; rfl)
      · exact .inr ⟨found, by rw [deep]; rfl⟩
    · intro room
      rw [ofTokens_of_reads reads' atEnd (by simpa using room)]
      rfl
  · -- Behind a check the minus is a sign, and the number stands where a connective is needed.
    rintro ⟨u, mem, check⟩
    obtain rfl : t = u := by simpa using mem
    have operator : (some t.kind).any (·.endsOperand) = false := by
      rcases check with check | check
      · rw [show t.kind = .comparison from congrArg Prod.fst check]
        rfl
      · rw [show t.kind = .comparison from congrArg Prod.fst check]
        rfl
    rw [Token.scan_minus_of_not_endsOperand nonempty decimal operator, ← length] at goes
    refine ⟨goes, fun limit e' accepted => ?_⟩
    obtain ⟨ts, scanned', formed'⟩ := parse_eq_ok_iff.1 accepted
    obtain rfl := Except.ok.inj (goes.symm.trans scanned')
    exact ofTokens_number_ne_ok reads _ _ _ limit e' formed'

/-- The hypotheses of `parse_append_minus` are satisfiable: a blank in front of the sign does not
count, and the parenthesis in front of the blank ends an operand. -/
theorem parse_append_minus_blank :
    let source := "({a}) "
    let tokens : List Token := [⟨.leftParen, .none, 0⟩, ⟨.reference, .text "a", 1⟩,
      ⟨.rightParen, .none, 4⟩]
    parse ⟨3⟩ source = .ok (.var "a") ∧
      Token.tokenize (source ++ "-" ++ "5") = .ok (tokens ++ [⟨.operator, .text "-", 6⟩,
        ⟨.number, .number (Token.digitsNumber ['5']), 7⟩, Token.atEnd 8]) ∧
      ∃ e', ∀ limit, 6 < limit → parse ⟨limit⟩ (source ++ "-" ++ "5") = .ok e' := by
  have lexed : Token.tokenize "({a}) " = .ok ([⟨.leftParen, .none, 0⟩,
      ⟨.reference, .text "a", 1⟩, ⟨.rightParen, .none, 4⟩] ++ [Token.atEnd "({a}) ".length]) := by
    with_unfolding_all rfl
  intro source tokens
  have accepted : parse ⟨3⟩ source = .ok (.var "a") := by
    rw [parse_of_tokenize lexed]
    rfl
  have decimal : ∀ c ∈ "5".toList, c.isDigit := by
    intro c mem
    obtain rfl : c = '5' := by simpa using mem
    rfl
  obtain ⟨us, scanned, operand, -⟩ := parse_append_minus accepted (by decide) decimal
  obtain rfl := List.append_cancel_right (Except.ok.inj (scanned.symm.trans lexed))
  have plain : ∀ t ∈ tokens.getLast?, ¬ t.IsCheck := by
    intro t mem
    cases mem
    simp [Token.IsCheck, Token.content]
  obtain ⟨read, e', goes⟩ := operand plain
  have here : source.length = 6 := by decide
  have digit : "5".toList = ['5'] := by decide
  have stop : (source ++ "-" ++ "5").length = 8 := by decide
  rw [here, digit, stop] at read
  exact ⟨accepted, read, e', fun limit room => (goes limit).2 room⟩

/-- **Behind a check the sign is not read as an operator, unless a blank follows it.** Both
expressions are within the limit, and the difference of the one is an error in the other. -/
theorem parse_check_minus :
    parse {} "{a} empty" = .ok (.unary .empty (.var "a")) ∧ (∀ c ∈ "5".toList, c.isDigit) ∧
      (parse {} ("{a} empty" ++ "- " ++ "5")).isOk ∧
      ((Token.tokenize ("{a} empty" ++ "-" ++ "5")).toOption.map fun ts => ts.map (·.kind)) =
        some [.reference, .comparison, .number, .eof] ∧
      (parse {} ("{a} empty" ++ "-" ++ "5")).isOk = false := by
  have lexed : Token.tokenize "{a} empty" =
      .ok [⟨.reference, .text "a", 0⟩, ⟨.comparison, .text "empty", 4⟩, Token.atEnd 9] := by
    with_unfolding_all rfl
  refine ⟨?_, ?_, ?_, ?_, ?_⟩
  · rw [parse_of_tokenize lexed]
    rfl
  · intro c mem
    obtain rfl : c = '5' := by simpa using mem
    rfl
  · decide +kernel
  · decide +kernel
  · decide +kernel

end Expr
end SurveyLogic
