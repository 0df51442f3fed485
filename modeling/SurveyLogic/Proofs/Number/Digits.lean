/-
# Rows of digits

What a row of digits is worth, and how it is split off from what follows it.
-/

import Mathlib.Data.List.TakeDrop
import SurveyLogic.Number.Format
import SurveyLogic.Number.Read

namespace SurveyLogic
namespace Number

/-- The value of digits is that of the library. -/
theorem digitsValue_eq (ds : List Char) : digitsValue ds = Nat.ofDigitChars 10 ds 0 :=
  rfl

/-- A natural number is read back from its digits. -/
theorem digitsValue_natDigits (n : Nat) : digitsValue (natDigits n) = n :=
  Nat.ofDigitChars_ten_toDigits

/-- A zero behind some digits multiplies their value by ten. -/
theorem digitsValue_append_zero (ds : List Char) :
    digitsValue (ds ++ ['0']) = 10 * digitsValue ds := by
  rw [digitsValue_eq, Nat.ofDigitChars_append]
  rfl

/-- Zeros in front of some digits do not change their value. -/
theorem digitsValue_replicate_append (n : Nat) (ds : List Char) :
    digitsValue (List.replicate n '0' ++ ds) = digitsValue ds := by
  rw [digitsValue_eq, Nat.ofDigitChars_append]
  have zeros : Nat.ofDigitChars 10 (List.replicate n '0') 0 = 0 := by
    induction n with
    | zero => rfl
    | succ n ih => exact ih
  rw [zeros]
  rfl

/-- A natural number is written in digits only. -/
theorem isDigit_of_mem_natDigits {n : Nat} {c : Char} (h : c ∈ natDigits n) : c.isDigit :=
  Nat.isDigit_of_mem_toDigits (by decide) (by decide) h

/-- A number has a digit. -/
theorem natDigits_eq_cons (n : Nat) :
    ∃ c cs, natDigits n = c :: cs ∧ c.isDigit ∧ ∀ d ∈ cs, d.isDigit := by
  obtain ⟨c, cs, digits⟩ := List.exists_cons_of_ne_nil (Nat.toDigits_ne_nil (n := n) (b := 10))
  have all : ∀ d ∈ c :: cs, d.isDigit := fun d mem => isDigit_of_mem_natDigits (digits ▸ mem)
  exact ⟨c, cs, digits, List.forall_mem_cons.1 all⟩

/-- A row of digits is split off in front of what does not start with one. -/
theorem span_append {p : Char → Bool} {ds rest : List Char} (all : ∀ c ∈ ds, p c)
    (stops : rest.takeWhile p = []) : (ds ++ rest).span p = (ds, rest) := by
  have none : rest.dropWhile p = rest := by
    have whole := List.takeWhile_append_dropWhile (p := p) (l := rest)
    rwa [stops, List.nil_append] at whole
  rw [List.span_eq_takeWhile_dropWhile, List.takeWhile_append_of_pos all,
    List.dropWhile_append_of_pos all, stops, none, List.append_nil]

end Number
end SurveyLogic
