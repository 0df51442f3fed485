/-
# Words in any case

A text is a word if its lower case is one (`IsWord.of_lower`), so a function can be called in any
case if it can be called at all. Case moves letters only: each run of the table of lower case lies
within the letters. That is checked on the runs as intervals (`liesIn`), and code point by code
point for the one run that steps over characters that are not there.
-/

import SurveyLogic.Proofs.Token.Written

namespace SurveyLogic

namespace Text

/-- Whether all code points from `a` to `b` lie in one of the ranges, by the comparison that the
kernel computes with. -/
def Ranges.coversRun : Ranges → Nat → Nat → Bool
  | [], _, _ => false
  | (first, last) :: rest, a, b => first.ble a && (b.ble last || coversRun rest a b)

/-- Ranges that cover a run cover what lies in it. -/
theorem Ranges.covers_of_coversRun {xs : Ranges} {a b n : Nat} (h : xs.coversRun a b)
    (least : a ≤ n) (most : n ≤ b) : xs.covers n := by
  induction xs with
  | nil => exact nomatch h
  | cons x xs ih =>
    simp only [coversRun, Bool.and_eq_true, Bool.or_eq_true, Nat.ble_eq] at h
    simp only [covers, Bool.and_eq_true, Bool.or_eq_true, decide_eq_true_eq]
    refine ⟨by omega, ?_⟩
    rcases h.2 with within | behind
    · exact .inl (by omega)
    · exact .inr (ih behind)

/-- Whether the ranges cover what a run moves. -/
def Shift.liesIn (s : Shift) (xs : Ranges) : Bool :=
  xs.coversRun s.first s.last ||
    (List.range (s.last + 1 - s.first)).all fun k =>
      !s.moves (s.first + k) || xs.covers (s.first + k)

/-- Ranges that a run lies in cover what it moves. -/
theorem Shift.covers_of_moves {s : Shift} {xs : Ranges} (h : s.liesIn xs) {n : Nat}
    (moved : s.moves n) : xs.covers n := by
  have bounds : s.first ≤ n ∧ n ≤ s.last := by
    simp only [moves, Bool.and_eq_true, decide_eq_true_eq] at moved
    exact moved.1
  rcases (Bool.or_eq_true _ _).mp h with whole | each
  · exact Ranges.covers_of_coversRun whole bounds.1 bounds.2
  · have here := List.all_eq_true.1 each (n - s.first) (List.mem_range.2 (by omega))
    rw [Nat.add_sub_cancel' bounds.1, moved] at here
    exact here

/-- All runs that change in lower case are letters. -/
theorem lowerShifts_lieIn : ∀ s ∈ lowerShifts, s.liesIn alphabeticRanges := by
  have all : lowerShifts.all (·.liesIn alphabeticRanges) := by decide +kernel
  exact List.all_eq_true.1 all

/-- **Case moves letters only.** -/
theorem isAlphabetic_of_lowerChar_ne {c : Char} (h : lowerChar c ≠ [c]) : isAlphabetic c := by
  unfold lowerChar at h
  unfold isAlphabetic
  split at h
  · rename_i ascii
    rw [if_pos ascii]
    have small : ((List.range 0x80).all fun n =>
        (Char.ofNat n).toLower == Char.ofNat n || (Char.ofNat n).isAlpha) := by decide +kernel
    have here := List.all_eq_true.1 small c.toNat (List.mem_range.2 ascii)
    rw [Char.ofNat_toNat, Bool.or_eq_true, beq_iff_eq] at here
    exact here.resolve_left fun same => h (congrArg (fun d => [d]) same)
  · rename_i far
    rw [if_neg far]
    unfold mapCase at h
    split at h
    · rename_i s found
      have moved : s.moves c.toNat := by simpa using List.find?_some found
      exact Shift.covers_of_moves (lowerShifts_lieIn s (List.mem_of_find?_eq_some found)) moved
    · split at h
      · rename_i code images found
        have listed := List.mem_of_find?_eq_some found
        have here : code = c.toNat := by simpa using List.find?_some found
        simp only [lowerExpansions, List.mem_singleton, Prod.mk.injEq] at listed
        rw [← here, listed.1]
        decide +kernel
      · exact absurd rfl h

/-- A character of a text stays as it is in lower case, or is a letter. -/
theorem lowerFrom_cons (before : List Char) (c : Char) (cs : List Char) :
    lowerFrom before (c :: cs) = c :: lowerFrom (c :: before) cs ∨
      isAlphabetic c ∧
        ∃ image, lowerFrom before (c :: cs) = image ++ lowerFrom (c :: before) cs := by
  rw [lowerFrom]
  split
  · rename_i sigma
    subst sigma
    exact .inr ⟨by decide +kernel, _, rfl⟩
  · by_cases same : lowerChar c = [c]
    · rw [same]
      exact .inl rfl
    · exact .inr ⟨isAlphabetic_of_lowerChar_ne same, _, rfl⟩

end Text

namespace Token

/-- A letter starts a word. -/
theorem startsWord_of_isAlphabetic {c : Char} (h : Text.isAlphabetic c) : startsWord c := by
  rw [startsWord, h]
  rfl

/-- A letter goes on with a word. -/
theorem continuesWord_of_isAlphabetic {c : Char} (h : Text.isAlphabetic c) : continuesWord c := by
  rw [continuesWord, Text.isAlphanumeric, h]
  rfl

/-- What starts a word goes on with one. -/
theorem continuesWord_of_startsWord {c : Char} (h : startsWord c) : continuesWord c := by
  rcases (Bool.or_eq_true _ _).mp h with letter | underscore
  · exact continuesWord_of_isAlphabetic letter
  · rw [continuesWord, underscore, Bool.or_true]

/-- What goes on with a word in lower case goes on with one as it is. -/
theorem continuesWord_of_lowerFrom {before cs : List Char}
    (h : ∀ d ∈ Text.lowerFrom before cs, continuesWord d) : ∀ c ∈ cs, continuesWord c := by
  induction cs generalizing before with
  | nil => exact List.forall_mem_nil _
  | cons c cs ih =>
    rcases Text.lowerFrom_cons before c cs with same | ⟨letter, image, moved⟩
    · rw [same, List.forall_mem_cons] at h
      exact List.forall_mem_cons.2 ⟨h.1, ih h.2⟩
    · rw [moved, List.forall_mem_append] at h
      exact List.forall_mem_cons.2 ⟨continuesWord_of_isAlphabetic letter, ih h.2⟩

/-- All characters of a word go on with one. -/
theorem IsWord.continues {cs : List Char} (h : IsWord cs) : ∀ c ∈ cs, continuesWord c := by
  cases cs with
  | nil => exact h.elim
  | cons c cs => exact List.forall_mem_cons.2 ⟨continuesWord_of_startsWord h.1, h.2⟩

/-- **What is a word in lower case is a word.** -/
theorem IsWord.of_lower {word : String} (h : IsWord (Text.lower word).toList) :
    IsWord word.toList := by
  rw [Text.lower, String.toList_ofList] at h
  have goes := continuesWord_of_lowerFrom h.continues
  generalize word.toList = cs at h goes
  cases cs with
  | nil => exact h
  | cons c cs =>
    refine ⟨?_, (List.forall_mem_cons.1 goes).2⟩
    rcases Text.lowerFrom_cons [] c cs with same | ⟨letter, -⟩
    · rw [same] at h
      exact h.1
    · exact startsWord_of_isAlphabetic letter

end Token
end SurveyLogic
