/-
# Where tokens end

A blank character separates tokens, and so do a comma, a right parenthesis and a minus sign. No
token goes on across a separator but a reference in braces and a string, and these end where they
are closed. So a text that starts with a separator leaves the token before it as it is
(`lexeme_append`), and one of nothing but blanks does not close what was left open either
(`lexeme_append_blank`).

| token | ends in front of a separator, for |
| --- | --- |
| number | no digit and no point is one |
| word | no letter and no numeral is one, nor is the parenthesis of a call |
| comparison | no second character of a sign is one |
| sign of a number | no digit is one |
-/

import Mathlib.Data.List.Find
import SurveyLogic.Proofs.Token.Lexed

namespace SurveyLogic

namespace Text

/-- The code points of the blank characters. -/
def blanks : List Nat :=
  [0x09, 0x0a, 0x0b, 0x0c, 0x0d, 0x20, 0x85, 0xa0, 0x1680, 0x2000, 0x2001, 0x2002, 0x2003, 0x2004,
    0x2005, 0x2006, 0x2007, 0x2008, 0x2009, 0x200a, 0x2028, 0x2029, 0x202f, 0x205f, 0x3000]

/-- What is checked of each blank character holds of every blank character. -/
theorem of_isBlank {p : Char → Bool} (all : blanks.all fun n => p (Char.ofNat n)) {c : Char}
    (h : isBlank c) : p c := by
  have mem : c.toNat ∈ blanks := by
    simp only [isBlank, Bool.or_eq_true, Bool.and_eq_true, decide_eq_true_eq, beq_iff_eq] at h
    simp only [blanks, List.mem_cons, List.not_mem_nil, or_false]
    omega
  have here := List.all_eq_true.1 all c.toNat mem
  rwa [Char.ofNat_toNat] at here

/-- A character of some class is none outside of it. -/
theorem ne_of_class {p : Char → Bool} {c d : Char} (h : p c) (other : p d = false) : c ≠ d := by
  rintro rfl
  exact Bool.false_ne_true (other.symm.trans h)

end Text

namespace Token

/-- No word goes on with a blank. -/
theorem continuesWord_of_isBlank {c : Char} (h : Text.isBlank c) : continuesWord c = false := by
  have none : Text.blanks.all fun n => !continuesWord (Char.ofNat n) := by decide +kernel
  simpa using Text.of_isBlank (p := (!continuesWord ·)) none h

/-- Characters that no token goes on with, but a reference in braces and a string. -/
def separates (c : Char) : Bool :=
  Text.isBlank c || c = ',' || c = ')' || c = '-'

/-- A blank separates. -/
theorem separates_of_isBlank {c : Char} (h : Text.isBlank c) : separates c := by
  rw [separates, h]
  rfl

/-- No word goes on with a separator. -/
theorem continuesWord_of_separates {c : Char} (h : separates c) : continuesWord c = false := by
  simp only [separates, Bool.or_eq_true, decide_eq_true_eq] at h
  rcases h with ((blank | rfl) | rfl) | rfl
  · exact continuesWord_of_isBlank blank
  · decide +kernel
  · decide +kernel
  · decide +kernel

/-- No separator is a digit. -/
theorem isDigit_of_separates {c : Char} (h : separates c) : c.isDigit = false := by
  have none : Text.blanks.all fun n => !(Char.ofNat n).isDigit := by decide +kernel
  simp only [separates, Bool.or_eq_true, decide_eq_true_eq] at h
  rcases h with ((blank | rfl) | rfl) | rfl
  · simpa using Text.of_isBlank (p := (!·.isDigit)) none blank
  · rfl
  · rfl
  · rfl

/-- Nothing, or a text that starts with a blank character. -/
def Detached (rest : List Char) : Prop :=
  ∀ c ∈ rest.head?, Text.isBlank c

/-- Nothing, or a text that starts with a separator. -/
def Separated (rest : List Char) : Prop :=
  ∀ c ∈ rest.head?, separates c

/-- Blanks alone are detached. -/
theorem detached_of_forall {rest : List Char} (h : ∀ c ∈ rest, Text.isBlank c) : Detached rest :=
  fun c mem => h c (List.mem_of_mem_head? mem)

/-- What is detached is separated. -/
theorem Detached.separated {rest : List Char} (h : Detached rest) : Separated rest :=
  fun c mem => separates_of_isBlank (h c mem)

namespace Separated

variable {rest : List Char} (h : Separated rest)
include h

/-- What a separator ends, a separated text does not prolong. -/
theorem takeWhile_append {p : Char → Bool} (hp : ∀ c, separates c → p c = false)
    (cs : List Char) : (cs ++ rest).takeWhile p = cs.takeWhile p := by
  induction cs with
  | nil =>
    cases rest with
    | nil => rfl
    | cons c rest =>
      rw [List.nil_append, List.takeWhile_cons, hp c (h c rfl)]
      rfl
  | cons c cs ih => rw [List.cons_append, List.takeWhile_cons, List.takeWhile_cons, ih]

/-- A separated text does not prolong a number. -/
theorem numberTail_append (cs : List Char) : numberTail (cs ++ rest) = numberTail cs := by
  refine h.takeWhile_append (fun c ends => ?_) cs
  have point : c ≠ '.' := Text.ne_of_class ends (by decide)
  rw [isDigit_of_separates ends, decide_eq_false point]
  rfl

/-- Whether a number starts does not depend on a separated text behind it. -/
theorem startsNumber_append (last : Option Kind) (c : Char) (cs : List Char) :
    startsNumber last c (cs ++ rest) = startsNumber last c cs := by
  cases cs with
  | cons d cs => rfl
  | nil =>
    cases rest with
    | nil => rfl
    | cons d rest =>
      simp [startsNumber, isDigit_of_separates (h d rfl)]

/-- A sign without separators does not reach into a separated text. -/
theorem isPrefixOf_append {sign : List Char} (full : ∀ c ∈ sign, separates c = false)
    (cs : List Char) : sign.isPrefixOf (cs ++ rest) = sign.isPrefixOf cs := by
  induction sign generalizing cs with
  | nil => rfl
  | cons a sign ih =>
    have first : separates a = false := full a List.mem_cons_self
    cases cs with
    | cons c cs =>
      rw [List.cons_append, List.isPrefixOf, List.isPrefixOf,
        ih fun b mem => full b (List.mem_cons_of_mem _ mem)]
    | nil =>
      cases rest with
      | nil => rfl
      | cons d rest =>
        have ne : a ≠ d := (Text.ne_of_class (h d rfl) first).symm
        simp [List.isPrefixOf, ne]

/-- A separated text does not prolong a comparison. -/
theorem comparisonSign?_append (cs : List Char) :
    comparisonSign? (cs ++ rest) = comparisonSign? cs := by
  have full : comparisonSigns.all fun sign => sign.toList.all (!separates ·) := by
    decide +kernel
  have same : ∀ sign ∈ comparisonSigns,
      sign.toList.isPrefixOf (cs ++ rest) = sign.toList.isPrefixOf cs := by
    intro sign mem
    refine h.isPrefixOf_append (fun c inside => ?_) cs
    simpa using List.all_eq_true.1 (List.all_eq_true.1 full sign mem) c inside
  exact List.find?_congr same

/-- What a word means does not depend on a separated text further behind. -/
theorem ofWord_append (word : String) {n : Nat} {cs : List Char} (within : n ≤ cs.length) :
    ofWord word ((cs ++ rest).drop n).head? = ofWord word (cs.drop n).head? := by
  rw [List.drop_append_of_le_length within]
  cases behind : cs.drop n with
  | cons c cs => rfl
  | nil =>
    cases rest with
    | nil => rfl
    | cons c rest =>
      have ne : c ≠ '(' := Text.ne_of_class (h c rfl) (by decide)
      simp [ofWord, ne]

/-- Behind a token that is no reference in braces and no string, a separated text does not show. -/
theorem lexeme_append_of {last : Option Kind} {c : Char} {cs : List Char}
    (braced : c = '\x7b' → Lexeme.reference? (cs ++ rest) = Lexeme.reference? cs)
    (quoted : c = '\'' ∨ c = '"' → Lexeme.string? c (cs ++ rest) = Lexeme.string? c cs) :
    lexeme last c (cs ++ rest) = lexeme last c cs := by
  have word : (cs ++ rest).takeWhile continuesWord = cs.takeWhile continuesWord :=
    h.takeWhile_append (fun _ => continuesWord_of_separates) cs
  have length := (List.takeWhile_sublist continuesWord (l := cs)).length_le
  unfold lexeme
  rw [h.startsNumber_append, h.numberTail_append, ← List.cons_append, h.comparisonSign?_append,
    word]
  dsimp only
  rw [h.ofWord_append _ length]
  by_cases brace : c = '\x7b'
  · rw [if_pos brace, if_pos brace, braced brace]
  · rw [if_neg brace, if_neg brace]
    by_cases quote : (c = '\'' || c = '"') = true
    · rw [if_pos quote, if_pos quote, quoted (by simpa using quote)]
    · rw [if_neg quote, if_neg quote]

end Separated

/-! ### What is closed, and what is left open -/

variable {quote : Char} {cs rest : List Char}

/-- A character other than a backslash closes a string or is part of it. -/
theorem quotedContent?_cons {c : Char} (plain : c ≠ '\\') (cs : List Char) :
    quotedContent? quote (c :: cs) =
      if c = quote then some ([], 1)
      else (quotedContent? quote cs).map fun (content, n) => (c :: content, n + 1) := by
  rw [quotedContent?]
  · exact fun here => absurd here plain
  · exact fun _ _ here => absurd here plain

/-- The two forms in which a backslash may start a content. -/
theorem ne_backslash {c : Char} (last : c = '\\' → cs = [] → False)
    (escaped : ∀ d ds, c = '\\' → cs = d :: ds → False) : c ≠ '\\' := by
  intro backslash
  cases cs with
  | nil => exact last backslash rfl
  | cons d ds => exact escaped d ds backslash rfl

/-- A string that is closed ends there, whatever follows. -/
theorem quotedContent?_append {found : List Char × Nat}
    (h : quotedContent? quote cs = some found) (rest : List Char) :
    quotedContent? quote (cs ++ rest) = some found ∧ found.2 ≤ cs.length := by
  fun_induction quotedContent? quote cs generalizing found with
  | case1 => cases h
  | case2 => cases h
  | case3 c cs ih =>
    obtain ⟨inside, found', rfl⟩ := Option.map_eq_some_iff.1 h
    obtain ⟨closed, within⟩ := ih found'
    refine ⟨?_, Nat.add_le_add_right within 2⟩
    rw [List.cons_append, List.cons_append, quotedContent?, closed]
    rfl
  | case4 cs last escaped =>
    have plain := ne_backslash last escaped
    cases h
    refine ⟨?_, Nat.succ_pos _⟩
    rw [List.cons_append, quotedContent?_cons plain, if_pos rfl]
  | case5 c cs last escaped other ih =>
    have plain := ne_backslash last escaped
    obtain ⟨inside, found', rfl⟩ := Option.map_eq_some_iff.1 h
    obtain ⟨closed, within⟩ := ih found'
    refine ⟨?_, Nat.add_le_add_right within 1⟩
    rw [List.cons_append, quotedContent?_cons plain, if_neg other, closed]
    rfl

/-- Blanks alone do not close a string. -/
theorem quotedContent?_eq_none_of_blank (full : Text.isBlank quote = false)
    (blank : ∀ c ∈ cs, Text.isBlank c) : quotedContent? quote cs = none := by
  induction cs with
  | nil => rfl
  | cons c cs ih =>
    obtain ⟨first, others⟩ := List.forall_mem_cons.1 blank
    have plain : c ≠ '\\' := Text.ne_of_class first (by decide)
    rw [quotedContent?_cons plain, if_neg (Text.ne_of_class first full), ih others]
    rfl

/-- Blanks do not close a string; behind a backslash at the end they leave it open too. -/
theorem quotedContent?_append_blank (h : quotedContent? quote cs = none)
    (full : Text.isBlank quote = false) (blank : ∀ c ∈ rest, Text.isBlank c) :
    quotedContent? quote (cs ++ rest) = none := by
  fun_induction quotedContent? quote cs with
  | case1 => exact quotedContent?_eq_none_of_blank full blank
  | case2 =>
    cases rest with
    | nil => rfl
    | cons c rest =>
      have others := quotedContent?_eq_none_of_blank full (List.forall_mem_cons.1 blank).2
      rw [List.singleton_append, quotedContent?, others]
      rfl
  | case3 c cs ih =>
    rw [List.cons_append, List.cons_append, quotedContent?, ih (Option.map_eq_none_iff.1 h)]
    rfl
  | case4 => cases h
  | case5 c cs last escaped other ih =>
    have plain := ne_backslash last escaped
    rw [List.cons_append, quotedContent?_cons plain, if_neg other,
      ih (Option.map_eq_none_iff.1 h)]
    rfl

/-- A reference that is closed ends there, whatever follows. -/
theorem reference?_append {l : Lexeme} (h : Lexeme.reference? cs = some l) (rest : List Char) :
    Lexeme.reference? (cs ++ rest) = some l := by
  unfold Lexeme.reference? at h ⊢
  dsimp only at h ⊢
  split at h
  · rename_i closed
    rw [List.takeWhile_append, if_neg (Nat.ne_of_lt closed), List.length_append]
    cases h
    exact if_pos (Nat.lt_add_right _ closed)
  · cases h

/-- Blanks do not close a reference. -/
theorem reference?_append_blank (h : Lexeme.reference? cs = none)
    (blank : ∀ c ∈ rest, Text.isBlank c) : Lexeme.reference? (cs ++ rest) = none := by
  unfold Lexeme.reference? at h ⊢
  dsimp only at h ⊢
  split at h
  · cases h
  · rename_i unclosed
    have most := (List.takeWhile_sublist (fun c => decide (c ≠ '\x7d')) (l := cs)).length_le
    have whole := (List.takeWhile_sublist _).eq_of_length (Nat.le_antisymm most (by omega))
    have all : (cs ++ rest).takeWhile (fun c => decide (c ≠ '\x7d')) = cs ++ rest := by
      rw [List.takeWhile_append_of_pos (List.takeWhile_eq_self_iff.1 whole)]
      refine congrArg (cs ++ ·) (List.takeWhile_eq_self_iff.2 fun c mem => decide_eq_true ?_)
      exact Text.ne_of_class (blank c mem) (by decide)
    rw [all]
    exact if_neg (Nat.lt_irrefl _)

/-! ### Any token -/

variable {last : Option Kind} {c : Char}

/-- A quote is not blank. -/
theorem isBlank_of_quote (h : c = '\'' ∨ c = '"') : Text.isBlank c = false := by
  rcases h with rfl | rfl <;> decide

/-- A brace starts a reference, or one that is not closed. -/
theorem lexeme_brace (last : Option Kind) (cs : List Char) :
    lexeme last '\x7b' cs = (Lexeme.reference? cs).elim (.error .unclosedVariable) .ok :=
  if_pos rfl

/-- A quote starts a string, or one that is not closed. -/
theorem lexeme_quote (h : c = '\'' ∨ c = '"') (last : Option Kind) (cs : List Char) :
    lexeme last c cs = (Lexeme.string? c cs).elim (.error .unclosedString) .ok := by
  have brace : c ≠ '\x7b' := by rcases h with rfl | rfl <;> decide
  rw [lexeme, if_neg brace, if_pos (by simpa using h)]

/-- **A token ends in front of a separator.** -/
theorem lexeme_append (h : Separated rest) {l : Lexeme} (hl : lexeme last c cs = .ok l) :
    lexeme last c (cs ++ rest) = .ok l := by
  refine (h.lexeme_append_of (fun brace => ?_) fun quote => ?_).trans hl
  · subst brace
    rw [lexeme_brace] at hl
    cases found : Lexeme.reference? cs with
    | none => rw [found] at hl; cases hl
    | some r => exact reference?_append found rest
  · rw [lexeme_quote quote] at hl
    cases found : quotedContent? c cs with
    | none => rw [Lexeme.string?, found] at hl; cases hl
    | some r => rw [Lexeme.string?, Lexeme.string?, (quotedContent?_append found rest).1, found]

/-- **Blanks behind a text do not show in its first token,** nor in what is wrong with it. -/
theorem lexeme_append_blank (blank : ∀ c ∈ rest, Text.isBlank c) (last : Option Kind) (c : Char)
    (cs : List Char) : lexeme last c (cs ++ rest) = lexeme last c cs := by
  refine (detached_of_forall blank).separated.lexeme_append_of (fun _ => ?_) fun quote => ?_
  · cases found : Lexeme.reference? cs with
    | none => exact reference?_append_blank found blank
    | some r => exact reference?_append found rest
  · unfold Lexeme.string?
    cases found : quotedContent? c cs with
    | none => rw [quotedContent?_append_blank found (isBlank_of_quote quote) blank]
    | some r => rw [(quotedContent?_append found rest).1]

/-- A token takes no more characters than there are. -/
theorem more_le_length {l : Lexeme} (h : lexeme last c cs = .ok l) : l.more ≤ cs.length := by
  cases lexes_of_lexeme h with
  | reference => simp
  | string _ read => exact (quotedContent?_append read []).2
  | number | word => exact (List.takeWhile_sublist _).length_le
  | punctuation | operator => exact Nat.zero_le _
  | @comparison _ _ sign found =>
    rw [comparisonSign?] at found
    have front := List.find?_some found
    have within := (List.isPrefixOf_iff_prefix.1 front).length_le
    rw [String.length_toList, List.length_cons] at within
    exact Nat.sub_le_of_le_add within

/-! ### Blanks in front -/

/-- Blanks have no tokens but the end. -/
theorem scan_blank {trail : List Char} (blank : ∀ c ∈ trail, Text.isBlank c) (last : Option Kind)
    (position : Nat) : scan last position trail = .ok [atEnd (position + trail.length)] := by
  induction trail generalizing position with
  | nil => rw [scan]; rfl
  | cons c trail ih =>
    obtain ⟨first, others⟩ := List.forall_mem_cons.1 blank
    rw [scan, if_pos first, ih others, List.length_cons, Nat.add_assoc, Nat.add_comm 1]

/-- Blanks in front of a text only move its tokens. -/
theorem scan_blank_append {lead : List Char} (blank : ∀ c ∈ lead, Text.isBlank c)
    (last : Option Kind) (position : Nat) (cs : List Char) :
    scan last position (lead ++ cs) = scan last (position + lead.length) cs := by
  induction lead generalizing position with
  | nil => rfl
  | cons c lead ih =>
    obtain ⟨first, others⟩ := List.forall_mem_cons.1 blank
    rw [List.cons_append, scan, if_pos first, ih others, List.length_cons, Nat.add_assoc,
      Nat.add_comm 1]

end Token
end SurveyLogic
