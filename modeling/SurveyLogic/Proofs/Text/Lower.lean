/-
# Lower case twice

A text in lower case is its own lower case (`lower_lower`), so names that were brought to lower case
can be looked up in any case again. No character of a lower-case text changes any more: capital
sigma, the one letter that looks at its neighbours, does not occur in it, and what the tables map to
they leave alone. For the runs of the table this is checked on the runs as intervals (`avoids`), not
on each code point.
-/

import SurveyLogic.Text.Case

namespace SurveyLogic
namespace Text

/-- A run takes no code point to where another run moves on. Runs that overlap have to take turns,
or the first of them has to be a single code point. -/
def Shift.avoids (s t : Shift) : Bool :=
  s.target s.last < t.first || t.last < s.target s.first ||
    (s.step % 2 == 0 && t.step % 2 == 0 && (s.target s.first + t.first) % 2 == 1) ||
    (s.first == s.last && !t.moves (s.target s.first))

/-- A run leads to characters outside ASCII, or else to a small letter. -/
def Shift.landsWell (s : Shift) : Bool :=
  (0x80 ≤ s.target s.first || (s.first == s.last && s.target s.first == 'k'.toNat)) &&
    (s.target s.last < 0xd800 || (0xdfff < s.target s.first && s.target s.last < 0x110000))

/-- What a run moves goes to between where its ends go. -/
theorem Shift.target_bounds {s : Shift} {n : Nat} (h : s.moves n) :
    s.target s.first ≤ s.target n ∧ s.target n ≤ s.target s.last := by
  simp only [moves, Bool.and_eq_true, decide_eq_true_eq] at h
  simp only [target]
  omega

/-- A run that skips every other code point moves those of one parity. -/
theorem Shift.even_of_moves {s : Shift} {n : Nat} (h : s.moves n) (even : s.step % 2 = 0) :
    n % 2 = s.first % 2 := by
  simp only [moves, Bool.and_eq_true, decide_eq_true_eq, beq_iff_eq] at h
  obtain ⟨⟨least, -⟩, multiple⟩ := h
  have two : 2 ∣ n - s.first :=
    Nat.dvd_trans (Nat.dvd_of_mod_eq_zero even) (Nat.dvd_of_mod_eq_zero multiple)
  omega

/-- No code point is moved to where a run that is avoided would move it on. -/
theorem Shift.moves_target {s t : Shift} (h : s.avoids t) {n : Nat} (moved : s.moves n)
    (positive : 0 < s.target s.first) : t.moves (s.target n) = false := by
  have bounds := s.target_bounds moved
  rw [Bool.eq_false_iff]
  intro again
  simp only [avoids, Bool.or_eq_true, Bool.and_eq_true, decide_eq_true_eq, beq_iff_eq,
    Bool.not_eq_true'] at h
  rcases h with ((below | above) | ⟨⟨two, two'⟩, odd⟩) | ⟨single, unmoved⟩
  · simp only [moves, Bool.and_eq_true, decide_eq_true_eq] at again
    omega
  · simp only [moves, Bool.and_eq_true, decide_eq_true_eq] at again
    omega
  · have from_ := s.even_of_moves moved two
    have to_ := t.even_of_moves again two'
    simp only [moves, Bool.and_eq_true, decide_eq_true_eq] at moved
    simp only [target] at *
    omega
  · have same : n = s.first := by
      simp only [moves, Bool.and_eq_true, decide_eq_true_eq] at moved
      omega
    rw [same, unmoved] at again
    exact nomatch again

/-- A character is its own lower case. -/
def IsLower (c : Char) : Prop :=
  lowerChar c = [c]

/-- A capital sigma is not in lower case. -/
theorem IsLower.ne_sigma {c : Char} (h : IsLower c) : c ≠ 'Σ' := by
  rintro rfl
  have image : lowerChar 'Σ' = ['σ'] := by decide +kernel
  rw [IsLower, image] at h
  exact absurd (List.cons.inj h).1 (by decide)

/-- No run of the table leads to what another one moves. -/
theorem lowerShifts_avoid : ∀ s ∈ lowerShifts, ∀ t ∈ lowerShifts, s.avoids t := by
  have all : (lowerShifts.all fun s => lowerShifts.all s.avoids) := by decide +kernel
  exact fun s mem t mem' => List.all_eq_true.1 (List.all_eq_true.1 all s mem) t mem'

/-- Each run of the table leads to characters, and in ASCII to a small letter. -/
theorem lowerShifts_landWell : ∀ s ∈ lowerShifts, s.landsWell := by
  have all : lowerShifts.all Shift.landsWell := by decide +kernel
  exact List.all_eq_true.1 all

/-- No run of the table leads to the letter that becomes two. -/
theorem lowerShifts_miss_expansions :
    ∀ s ∈ lowerShifts, s.target s.last < 0x130 ∨ 0x130 < s.target s.first := by
  have all : (lowerShifts.all fun s => s.target s.last < 0x130 || 0x130 < s.target s.first) := by
    decide +kernel
  intro s mem
  simpa using List.all_eq_true.1 all s mem

/-- A valid code point is that of its character. -/
theorem toNat_ofNat {n : Nat} (h : n.isValidChar) : (Char.ofNat n).toNat = n := by
  rw [Char.ofNat, dif_pos h]
  rfl

/-- The letters that no run leads to. -/
theorem isLower_listed : ∀ c ∈ ['i', '\u0307', 'σ', 'ς'], IsLower c := by
  have all : (['i', '\u0307', 'σ', 'ς'].all fun c => lowerChar c == [c]) := by decide +kernel
  exact fun c mem => eq_of_beq (List.all_eq_true.1 all c mem)

/-- Within ASCII the small letter is its own lower case. -/
theorem isLower_toLower {c : Char} (h : c.toNat < 0x80) : IsLower c.toLower := by
  have all : ((List.range 0x80).all fun n =>
      lowerChar (Char.ofNat n).toLower == [(Char.ofNat n).toLower]) := by decide +kernel
  have here := eq_of_beq (List.all_eq_true.1 all c.toNat (List.mem_range.2 h))
  rwa [Char.ofNat_toNat] at here

/-- Where a run of the table leads is in lower case. -/
theorem isLower_target {s : Shift} (mem : s ∈ lowerShifts) {n : Nat} (moved : s.moves n) :
    IsLower (Char.ofNat (s.target n)) := by
  have well := lowerShifts_landWell s mem
  have miss := lowerShifts_miss_expansions s mem
  obtain ⟨above, below⟩ := s.target_bounds moved
  simp only [Shift.landsWell, Bool.and_eq_true, Bool.or_eq_true, decide_eq_true_eq,
    beq_iff_eq] at well
  obtain ⟨far | ⟨single, small⟩, valid⟩ := well
  · have toNat : (Char.ofNat (s.target n)).toNat = s.target n :=
      toNat_ofNat (by rw [Nat.isValidChar]; omega)
    -- No run of the table moves on what this one has moved.
    have unmoved : lowerShifts.find? (·.moves (s.target n)) = none := by
      rw [List.find?_eq_none]
      intro t mem'
      rw [Shift.moves_target (lowerShifts_avoid s mem t mem') moved (by omega)]
      exact Bool.false_ne_true
    have single : lowerExpansions.find? (·.1 == s.target n) = none := by
      rw [lowerExpansions, List.find?_cons_of_neg (by simp; omega), List.find?_nil]
    rw [IsLower, lowerChar, toNat, if_neg (by omega), mapCase, toNat, unmoved, single]
  · rw [← single] at below
    have same : s.target n = 'k'.toNat := by omega
    rw [same, Char.ofNat_toNat, IsLower]
    decide +kernel

/-- **The lower case of a character is in lower case.** -/
theorem isLower_of_mem_lowerChar {c d : Char} (h : d ∈ lowerChar c) : IsLower d := by
  unfold lowerChar at h
  split at h
  · rename_i ascii
    rw [List.mem_singleton.1 h]
    exact isLower_toLower ascii
  · rename_i far
    have image : lowerChar c = mapCase lowerShifts lowerExpansions c := if_neg far
    unfold mapCase at h image
    split at h
    · rename_i s found
      rw [List.mem_singleton.1 h]
      have moved : s.moves c.toNat := by simpa using List.find?_some found
      exact isLower_target (List.mem_of_find?_eq_some found) moved
    · rename_i unmoved
      split at h
      · rename_i code images found
        have listed := List.mem_of_find?_eq_some found
        simp only [lowerExpansions, List.mem_singleton, Prod.mk.injEq] at listed
        obtain ⟨-, rfl⟩ := listed
        refine isLower_listed d ?_
        simp only [List.map_cons, List.map_nil, List.mem_cons, List.not_mem_nil, or_false] at h ⊢
        rcases h with rfl | rfl
        · exact .inl rfl
        · exact .inr (.inl rfl)
      · rename_i single
        rw [unmoved, single] at image
        rw [List.mem_singleton.1 h]
        exact image

/-- Each character of a text in lower case is in lower case. -/
theorem isLower_of_mem_lowerFrom {d : Char} {before cs : List Char} (h : d ∈ lowerFrom before cs) :
    IsLower d := by
  induction cs generalizing before with
  | nil => exact nomatch h
  | cons c cs ih =>
    rw [lowerFrom] at h
    rcases List.mem_append.1 h with h | h
    · split at h
      · rw [List.mem_singleton.1 h]
        split
        · exact isLower_listed _ (by simp)
        · exact isLower_listed _ (by simp)
      · exact isLower_of_mem_lowerChar h
    · exact ih h

/-- A text of such characters stays as it is. -/
theorem lowerFrom_of_isLower {before cs : List Char} (h : ∀ c ∈ cs, IsLower c) :
    lowerFrom before cs = cs := by
  induction cs generalizing before with
  | nil => rfl
  | cons c cs ih =>
    rw [List.forall_mem_cons] at h
    rw [lowerFrom, if_neg h.1.ne_sigma, h.1, ih h.2]
    rfl

/-- **Lower case is reached at once.** -/
theorem lower_lower (s : String) : lower (lower s) = lower s := by
  rw [lower, lower, String.toList_ofList]
  exact congrArg String.ofList (lowerFrom_of_isLower fun _ mem => isLower_of_mem_lowerFrom mem)

end Text
end SurveyLogic
