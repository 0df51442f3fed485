/-
# The JSON text of a number determines it

A text of digits is read back by splitting it at the point and at the exponent (`readDecimal`).
Every layout of a decimal is read back as a decimal of the same value, however the digits are spread
over the two sides of the point:

| layout | read as |
| --- | --- |
| `1200.0` | `12000 · 10^-1` |
| `0.0012` | `12 · 10^-4` |
| `1.2e-7` | `12 · 10^-8` |

So the text gives the sign and the decimal, the decimal gives the double, and two finite doubles
with one text are the same, bit for bit (`jsonText?_inj`).
-/

import SurveyLogic.Proofs.Number.Digits
import SurveyLogic.Proofs.Number.Shortest

namespace SurveyLogic
namespace Number

/-! ### Reading a text -/

/-- The decimal that a text without a sign writes. -/
def readDecimal (cs : List Char) : Decimal :=
  let (whole, cs) := cs.span (·.isDigit)
  let (fraction, cs) := takeFraction cs
  ⟨digitsValue (whole ++ fraction), (readExponent? cs).getD 0 - fraction.length⟩

variable {whole fraction exponent : List Char}

/-- A text with a point, its exponent being empty or starting with neither a digit nor a point. -/
theorem readDecimal_point (digits : ∀ c ∈ whole ++ fraction, c.isDigit)
    (stops : exponent.takeWhile (·.isDigit) = []) :
    readDecimal (whole ++ '.' :: (fraction ++ exponent)) =
      ⟨digitsValue (whole ++ fraction), (readExponent? exponent).getD 0 - fraction.length⟩ := by
  obtain ⟨front, back⟩ := List.forall_mem_append.1 digits
  have point : ('.' :: (fraction ++ exponent)).takeWhile (·.isDigit) = [] := rfl
  have behind : takeFraction ('.' :: (fraction ++ exponent)) = (fraction, exponent) :=
    span_append back stops
  unfold readDecimal
  rw [span_append front point]
  dsimp only
  rw [behind]

/-- A text without a point. -/
theorem readDecimal_exponent (digits : ∀ c ∈ whole, c.isDigit) (cs : List Char) :
    readDecimal (whole ++ 'e' :: cs) = ⟨digitsValue whole, (readExponent? ('e' :: cs)).getD 0⟩ := by
  have letter : ('e' :: cs).takeWhile (·.isDigit) = [] := rfl
  unfold readDecimal
  have behind : takeFraction ('e' :: cs) = ([], 'e' :: cs) := rfl
  rw [span_append digits letter]
  dsimp only
  rw [behind, List.append_nil, List.length_nil, Nat.cast_zero, Int.sub_zero]

/-- An exponent is read back from its sign and digits. -/
theorem readExponent?_natDigits (e : Int) :
    readExponent? ('e' :: (if e < 0 then '-' else '+') :: natDigits e.natAbs) = some e := by
  have digits : (natDigits e.natAbs).all (·.isDigit) :=
    List.all_eq_true.2 fun c mem => isDigit_of_mem_natDigits mem
  have nonempty : (natDigits e.natAbs).isEmpty = false :=
    List.isEmpty_eq_false_iff.2 Nat.toDigits_ne_nil
  by_cases negative : e < 0
  · rw [if_pos negative]
    simp [readExponent?, takeSign, digits, nonempty, digitsValue_natDigits, abs_of_neg negative]
  · rw [if_neg negative]
    simp [readExponent?, takeSign, digits, nonempty, digitsValue_natDigits,
      abs_of_nonneg (Int.not_lt.1 negative)]

/-! ### Layouts of a decimal -/

/-- The JSON text of a decimal. -/
def Decimal.jsonText (d : Decimal) : List Char :=
  let magnitude := d.exponent + digitCount d.digits
  if d.digits = 0 then ['0', '.', '0']
  else if -5 < magnitude && magnitude ≤ 16 then
    if 0 ≤ d.exponent then d.positional ++ ['.', '0'] else d.positional
  else d.scientific

/-- The text of a finite double is its sign and its shortest decimal. -/
theorem jsonText?_eq (x : Float) :
    jsonText? x = (toBinary? x).map fun b =>
      signed b.negative (shortest .toEven b.mantissa b.exponent).jsonText :=
  rfl

namespace Decimal

variable {d : Decimal}

/-- A whole number is written with a zero behind the point. -/
theorem positional_of_nonneg (le : 0 ≤ d.exponent) :
    d.positional = natDigits (d.digits * 10 ^ d.exponent.toNat) :=
  if_pos le

/-- A number with a fraction has as many digits behind the point as its exponent asks for, and
zeros in front if these are too few. -/
theorem positional_of_neg (negative : d.exponent < 0) :
    ∃ whole fraction, d.positional = whole ++ '.' :: fraction ∧ whole ≠ [] ∧
      (∀ c ∈ whole ++ fraction, c.isDigit) ∧ digitsValue (whole ++ fraction) = d.digits ∧
        (fraction.length : Int) = -d.exponent := by
  have places : ((-d.exponent).toNat : Int) = -d.exponent := by omega
  rw [positional, if_neg (Int.not_le.2 negative), withPoint, ← places]
  generalize (-d.exponent).toNat = k
  set padded := List.replicate (k + 1 - (natDigits d.digits).length) '0' ++ natDigits d.digits
    with hp
  have long : k < padded.length := by
    rw [hp, List.length_append, List.length_replicate]
    omega
  have parts := List.take_append_drop (padded.length - k) padded
  refine ⟨padded.take (padded.length - k), padded.drop (padded.length - k), rfl, ?_, ?_, ?_, ?_⟩
  · intro empty
    have length := congrArg List.length empty
    rw [List.length_take, List.length_nil] at length
    omega
  · rw [parts]
    refine List.forall_mem_append.2 ⟨fun c mem => ?_, fun c mem => isDigit_of_mem_natDigits mem⟩
    rw [List.eq_of_mem_replicate mem]
    rfl
  · rw [parts, hp, digitsValue_replicate_append, digitsValue_natDigits]
  · rw [List.length_drop]
    omega

/-- A number in scientific form has one digit in front of the point. -/
theorem scientific_eq {c : Char} {cs : List Char} (digits : natDigits d.digits = c :: cs) :
    d.scientific = [c] ++ ((if cs = [] then [] else '.' :: cs) ++
      'e' :: (if d.exponent + cs.length < 0 then '-' else '+') ::
        natDigits (d.exponent + cs.length).natAbs) := by
  unfold scientific
  rw [digits]
  cases cs with
  | nil => rfl
  | cons f fs => rfl

end Decimal

/-- A decimal without a fraction is read back from its positional form. -/
theorem value_readDecimal_whole {d : Decimal} (le : 0 ≤ d.exponent) :
    (readDecimal (d.positional ++ ['.', '0'])).value = d.value := by
  have digits : ∀ c ∈ natDigits (d.digits * 10 ^ d.exponent.toNat) ++ ['0'], c.isDigit := by
    refine List.forall_mem_append.2 ⟨fun c mem => isDigit_of_mem_natDigits mem, ?_⟩
    exact List.forall_mem_singleton.2 rfl
  have read := readDecimal_point digits List.takeWhile_nil
  rw [List.append_nil] at read
  have power : (10 : ℚ) ^ d.exponent = 10 ^ d.exponent.toNat := by
    rw [← zpow_natCast, Int.toNat_of_nonneg le]
  rw [Decimal.positional_of_nonneg le, read, digitsValue_append_zero, digitsValue_natDigits,
    Decimal.value, Decimal.value, power]
  simp [readExponent?]
  ring

/-- A decimal with a fraction is read back from its positional form. -/
theorem value_readDecimal_fraction {d : Decimal} (negative : d.exponent < 0) :
    (readDecimal d.positional).value = d.value := by
  obtain ⟨whole, fraction, layout, -, digits, worth, places⟩ := Decimal.positional_of_neg negative
  have read := readDecimal_point digits List.takeWhile_nil
  have exponent : ((readExponent? []).getD 0 - fraction.length : Int) = d.exponent := by
    rw [places]
    exact (Int.zero_sub _).trans (Int.neg_neg _)
  rw [List.append_nil, worth, exponent] at read
  rw [layout, read]

/-- A decimal is read back from its scientific form. -/
theorem value_readDecimal_scientific (d : Decimal) :
    (readDecimal d.scientific).value = d.value := by
  obtain ⟨c, cs, split, first, others⟩ := natDigits_eq_cons d.digits
  have digits : ∀ d ∈ c :: cs, d.isDigit := List.forall_mem_cons.2 ⟨first, others⟩
  have worth : digitsValue (c :: cs) = d.digits := by rw [← split, digitsValue_natDigits]
  have exponent := readExponent?_natDigits (d.exponent + cs.length)
  have stops (written : List Char) : ('e' :: written).takeWhile (·.isDigit) = [] := rfl
  rw [Decimal.scientific_eq split]
  cases cs with
  | nil =>
    rw [if_pos rfl, List.nil_append, readDecimal_exponent digits, exponent, worth]
    exact congrArg (Decimal.value ⟨d.digits, ·⟩) (Int.add_zero d.exponent)
  | cons f fs =>
    have all : ∀ d ∈ [c] ++ (f :: fs), d.isDigit := digits
    rw [if_neg (List.cons_ne_nil f fs)]
    change (readDecimal ([c] ++ '.' :: ((f :: fs) ++ 'e' :: _))).value = _
    rw [readDecimal_point all (stops _), exponent, List.singleton_append, worth]
    exact congrArg (Decimal.value ⟨d.digits, ·⟩) (Int.add_sub_cancel _ _)

/-- **A text stands for the decimal it was made of.** -/
theorem value_readDecimal_jsonText (d : Decimal) : (readDecimal d.jsonText).value = d.value := by
  unfold Decimal.jsonText
  dsimp only
  split
  · rename_i zero
    have nothing : readDecimal ['0', '.', '0'] = ⟨0, -1⟩ := rfl
    rw [nothing, Decimal.value, Decimal.value, zero, Nat.cast_zero, zero_mul, zero_mul]
  split
  · split
    · rename_i le
      exact value_readDecimal_whole le
    · rename_i negative
      exact value_readDecimal_fraction (Int.not_le.1 negative)
  · exact value_readDecimal_scientific d

/-! ### The characters of a text -/

/-- The characters that numbers are written with. -/
def isNumberChar (c : Char) : Bool :=
  c.isDigit || c = '.' || c = 'e' || c = '+' || c = '-'

/-- A digit is a character of numbers. -/
theorem isNumberChar_of_isDigit {c : Char} (h : c.isDigit) : isNumberChar c := by
  simp [isNumberChar, h]

/-- A digit, then characters of numbers, with a point or the letter of an exponent among them. -/
structure IsUnsigned (cs : List Char) : Prop where
  first : ∃ c rest, cs = c :: rest ∧ c.isDigit
  chars : ∀ c ∈ cs, isNumberChar c
  marked : '.' ∈ cs ∨ 'e' ∈ cs

/-- Digits in front of a point or an exponent start a text of a number. -/
theorem isUnsigned_append {ds rest : List Char} (nonempty : ds ≠ []) (digits : ∀ c ∈ ds, c.isDigit)
    (others : ∀ c ∈ rest, isNumberChar c) (marked : '.' ∈ rest ∨ 'e' ∈ rest) :
    IsUnsigned (ds ++ rest) := by
  refine ⟨?_, List.forall_mem_append.2 ⟨fun c mem => ?_, others⟩, ?_⟩
  · obtain ⟨d, ds, rfl⟩ := List.exists_cons_of_ne_nil nonempty
    exact ⟨d, ds ++ rest, rfl, digits d List.mem_cons_self⟩
  · exact isNumberChar_of_isDigit (digits c mem)
  · exact marked.imp (List.mem_append_right ds) (List.mem_append_right ds)

/-- A decimal is written as the text of a number without a sign. -/
theorem isUnsigned_jsonText (d : Decimal) : IsUnsigned d.jsonText := by
  have nat (n : Nat) : ∀ c ∈ natDigits n, c.isDigit := fun c mem => isDigit_of_mem_natDigits mem
  have zero : ∀ c ∈ ['.', '0'], isNumberChar c :=
    List.forall_mem_cons.2 ⟨rfl, List.forall_mem_singleton.2 rfl⟩
  unfold Decimal.jsonText
  dsimp only
  split
  · exact isUnsigned_append (List.cons_ne_nil '0' []) (List.forall_mem_singleton.2 rfl) zero
      (.inl List.mem_cons_self)
  split
  · split
    · rename_i le
      rw [Decimal.positional_of_nonneg le]
      exact isUnsigned_append Nat.toDigits_ne_nil (nat _) zero (.inl List.mem_cons_self)
    · rename_i negative
      obtain ⟨whole, fraction, layout, nonempty, digits, -⟩ :=
        Decimal.positional_of_neg (Int.not_le.1 negative)
      obtain ⟨front, back⟩ := List.forall_mem_append.1 digits
      rw [layout]
      refine isUnsigned_append nonempty front (List.forall_mem_cons.2 ⟨rfl, fun c mem => ?_⟩)
        (.inl List.mem_cons_self)
      exact isNumberChar_of_isDigit (back c mem)
  · obtain ⟨c, cs, split, first, others⟩ := natDigits_eq_cons d.digits
    rw [Decimal.scientific_eq split]
    refine isUnsigned_append (List.cons_ne_nil _ _) (List.forall_mem_singleton.2 first) ?_
      (.inr (List.mem_append_right _ List.mem_cons_self))
    refine List.forall_mem_append.2 ⟨fun c mem => ?_, List.forall_mem_cons.2 ⟨rfl, ?_⟩⟩
    · split at mem
      · cases mem
      · rcases List.mem_cons.1 mem with rfl | mem
        · rfl
        · exact isNumberChar_of_isDigit (others c mem)
    · refine List.forall_mem_cons.2 ⟨by split <;> rfl, fun c mem => ?_⟩
      exact isNumberChar_of_isDigit (nat _ c mem)

theorem ne_minus_of_isDigit {c : Char} (digit : c.isDigit) : c ≠ '-' := by
  rintro rfl
  exact nomatch digit

/-- A sign does not hide the text behind it. -/
theorem signed_inj {negative negative' : Bool} {cs cs' : List Char}
    (first : ∃ c rest, cs = c :: rest ∧ c.isDigit) (first' : ∃ c rest, cs' = c :: rest ∧ c.isDigit)
    (same : signed negative cs = signed negative' cs') : negative = negative' ∧ cs = cs' := by
  obtain ⟨c, rest, rfl, digit⟩ := first
  obtain ⟨c', rest', rfl, digit'⟩ := first'
  have chars := String.ofList_inj.1 same
  cases negative <;> cases negative'
  · exact ⟨rfl, chars⟩
  · exact absurd (List.cons.inj chars).1 (ne_minus_of_isDigit digit)
  · exact absurd (List.cons.inj chars).1.symm (ne_minus_of_isDigit digit')
  · exact ⟨rfl, (List.cons.inj chars).2⟩

/-! ### The text of a double -/

variable {x y : Float} {b b' : Binary}

/-- The exact value of a finite double is within the format. -/
theorem isMagnitude_of_toBinary? (h : toBinary? x = some b) :
    IsMagnitude b.mantissa b.exponent := by
  unfold toBinary? at h
  dsimp only at h
  have fraction := Nat.mod_lt x.toBits.toNat (show 0 < 2 ^ 52 by decide)
  have field := Nat.mod_lt (x.toBits.toNat / 2 ^ 52) (show 0 < 2 ^ 11 by decide)
  simp only [Nat.pow_eq] at h
  split at h
  · cases h
  split at h
  · cases h
    refine ⟨?_, ?_, ?_⟩ <;> dsimp only <;> omega
  · cases h
    refine ⟨?_, ?_, ?_⟩ <;> dsimp only <;> omega

/-- Doubles with the same bits are the same. -/
theorem eq_of_toBits (h : x.toBits = y.toBits) : x = y := by
  obtain ⟨⟨bits, valid⟩⟩ := x
  obtain ⟨⟨bits', valid'⟩⟩ := y
  cases h
  rfl

/-- **The exact value of a finite double determines its bits.** -/
theorem toBinary?_inj (h : toBinary? x = some b) (h' : toBinary? y = some b) : x = y := by
  have fits := x.toBits.toNat_lt
  have fits' := y.toBits.toNat_lt
  refine eq_of_toBits (UInt64.toNat_inj.1 ?_)
  unfold toBinary? signBit at h h'
  simp only [Nat.pow_eq] at h h'
  generalize x.toBits.toNat = m at h fits ⊢
  generalize y.toBits.toNat = n at h' fits' ⊢
  have sign (h : (m / 2 ^ 63 == 1) = (n / 2 ^ 63 == 1)) : m / 2 ^ 63 = n / 2 ^ 63 := by
    rw [Bool.eq_iff_iff, beq_iff_eq, beq_iff_eq] at h
    omega
  split at h
  · cases h
  split at h'
  · cases h'
  rw [← h'] at h
  -- The mantissa tells whether the exponent field is zero, so there are no mixed cases.
  split at h <;> split at h
  all_goals
    obtain ⟨signs, mantissas, exponents⟩ := Binary.mk.inj (Option.some.inj h)
    have := sign signs
    omega

/-- **Finite doubles with the same JSON text are the same,** bit for bit. -/
theorem jsonText?_inj (h : toBinary? x = some b) (h' : toBinary? y = some b')
    (same : jsonText? x = jsonText? y) : x = y := by
  rw [jsonText?_eq, jsonText?_eq, h, h', Option.map_some, Option.map_some, Option.some_inj] at same
  obtain ⟨negative, m, q⟩ := b
  obtain ⟨negative', m', q'⟩ := b'
  have unsigned := isUnsigned_jsonText (shortest .toEven m q)
  have unsigned' := isUnsigned_jsonText (shortest .toEven m' q')
  obtain ⟨rfl, text⟩ := signed_inj unsigned.first unsigned'.first same
  have value : (shortest .toEven m q).value = (shortest .toEven m' q').value := by
    rw [← value_readDecimal_jsonText, text, value_readDecimal_jsonText]
  obtain ⟨rfl, rfl⟩ := shortest_inj (isMagnitude_of_toBinary? h) (isMagnitude_of_toBinary? h') value
  exact toBinary?_inj h h'

end Number
end SurveyLogic
