/-
# Where tokens stand

The lexer looks ahead: a number and a word go on as far as they can, a comparison takes its longest
sign, a minus sign looks for a digit and a word for the parenthesis of a call. None of this shows
behind a cut: a text that is cut behind a token keeps the token (`lexeme_of_append`), unless the cut
takes the parenthesis away from a function.

`reach` is the lexer that gives account of a text with a fault in it too: the tokens made so far and
where it stopped. It stops at the end or in front of a character that starts no token, and never in
front of a parenthesis. **So the text up to where it stops has just the tokens made so far**
(`exists_cuts`). The tokens stand in increasing order, each at a character that is not blank
(`reach_tokens`).

| text | reach | up to there |
| --- | --- | --- |
| `f(1` | `f`, `(`, `1`, stop at 3 | the same tokens |
| `a < #` | `a`, `<`, stop at 4 with a fault | the same tokens |
-/

import SurveyLogic.Proofs.Token.Separation

namespace SurveyLogic
namespace Token

/-! ### Cutting behind a token -/

/-- A front of a class that ends before a cut is the one that the text before it has. -/
theorem takeWhile_of_append {p : Char → Bool} {cs rest : List Char}
    (within : ((cs ++ rest).takeWhile p).length ≤ cs.length) :
    (cs ++ rest).takeWhile p = cs.takeWhile p := by
  rw [List.takeWhile_append] at within ⊢
  split
  · rename_i whole
    rw [if_pos whole, List.length_append] at within
    have none : rest.takeWhile p = [] := List.length_eq_zero_iff.1 (by omega)
    rw [none, List.append_nil]
    exact ((List.takeWhile_prefix p).eq_of_length whole).symm
  · rfl

/-- A search for the first that passes does not change if fewer pass, but still the one found. -/
theorem find?_eq_of_imp {p q : String → Bool} {signs : List String}
    (imp : ∀ sign, p sign → q sign) (found : ∀ sign, signs.find? q = some sign → p sign) :
    signs.find? p = signs.find? q := by
  induction signs with
  | nil => rfl
  | cons sign signs ih =>
    rw [List.find?_cons, List.find?_cons]
    cases here : q sign with
    | true =>
      rw [List.find?_cons, here] at found
      rw [found sign rfl]
    | false =>
      rw [List.find?_cons, here] at found
      have fails : p sign = false := Bool.eq_false_iff.2 fun passes =>
        Bool.false_ne_true (here.symm.trans (imp sign passes))
      rw [fails]
      exact ih found

variable {last : Option Kind} {c : Char} {cs rest : List Char} {l : Lexeme}

/-- A comparison that ends before a cut is the one that the text before it has. -/
theorem comparisonSign?_of_append
    (within : ∀ sign, comparisonSign? (cs ++ rest) = some sign → sign.length ≤ cs.length) :
    comparisonSign? cs = comparisonSign? (cs ++ rest) := by
  refine find?_eq_of_imp (fun sign front => ?_) fun sign found => ?_
  · rw [List.isPrefixOf_iff_prefix] at front ⊢
    exact front.trans (List.prefix_append cs rest)
  · have fits := within sign found
    have front := List.find?_some found
    rw [List.isPrefixOf_iff_prefix] at front ⊢
    rw [← String.length_toList] at fits
    exact List.prefix_of_prefix_length_le front (List.prefix_append cs rest) fits

/-- A string takes at least its closing quote. -/
theorem quotedContent?_pos {quote : Char} {found : List Char × Nat}
    (h : quotedContent? quote cs = some found) : 0 < found.2 := by
  unfold quotedContent? at h
  split at h
  · cases h
  · cases h
  · obtain ⟨inside, -, rfl⟩ := Option.map_eq_some_iff.1 h
    exact Nat.succ_pos _
  · split at h
    · cases h
      exact Nat.succ_pos _
    · obtain ⟨inside, -, rfl⟩ := Option.map_eq_some_iff.1 h
      exact Nat.succ_pos _

/-- A string that closes before a cut is closed in the text before it. -/
theorem quotedContent?_of_append {quote : Char} {found : List Char × Nat}
    (h : quotedContent? quote (cs ++ rest) = some found) (within : found.2 ≤ cs.length) :
    quotedContent? quote cs = some found := by
  fun_induction quotedContent? quote cs generalizing found with
  | case1 => exact absurd (quotedContent?_pos h) (Nat.not_lt.2 within)
  | case2 =>
    cases rest with
    | nil => cases h
    | cons d rest =>
      rw [List.singleton_append, quotedContent?] at h
      obtain ⟨inside, -, rfl⟩ := Option.map_eq_some_iff.1 h
      exact absurd within (by simp)
  | case3 c cs ih =>
    rw [List.cons_append, List.cons_append, quotedContent?] at h
    obtain ⟨inside, read, rfl⟩ := Option.map_eq_some_iff.1 h
    rw [ih read (Nat.le_of_add_le_add_right within)]
    rfl
  | case4 cs last escaped =>
    rw [List.cons_append, quotedContent?_cons (ne_backslash last escaped), if_pos rfl] at h
    exact h
  | case5 c cs last escaped other ih =>
    rw [List.cons_append, quotedContent?_cons (ne_backslash last escaped), if_neg other] at h
    obtain ⟨inside, read, rfl⟩ := Option.map_eq_some_iff.1 h
    rw [ih read (Nat.le_of_add_le_add_right within)]
    rfl

/-- A reference that closes before a cut is closed in the text before it. -/
theorem reference?_of_append (h : Lexeme.reference? (cs ++ rest) = some l)
    (within : l.more ≤ cs.length) : Lexeme.reference? cs = some l := by
  unfold Lexeme.reference? at h ⊢
  dsimp only at h ⊢
  split at h
  · cases h
    have closed := Nat.lt_of_succ_le within
    have same := takeWhile_of_append (Nat.le_of_lt closed)
    rw [same] at closed
    rw [same]
    exact if_pos closed
  · cases h

/-- So is a string with its quotes. -/
theorem string?_of_append {quote : Char} (h : Lexeme.string? quote (cs ++ rest) = some l)
    (within : l.more ≤ cs.length) : Lexeme.string? quote cs = some l := by
  obtain ⟨found, read, rfl⟩ := Option.map_eq_some_iff.1 h
  rw [Lexeme.string?, quotedContent?_of_append read within]
  rfl

/-- Where no number starts in a text, none starts in a front of it. -/
theorem startsNumber_eq_false_of_append (h : startsNumber last c (cs ++ rest) = false) :
    startsNumber last c cs = false := by
  cases cs with
  | cons d cs => exact h
  | nil =>
    rw [startsNumber, Bool.or_eq_false_iff] at h
    simp [startsNumber, h.1]

/-- A number that goes beyond its sign starts with its first digit. -/
theorem startsNumber_eq_of_append (within : (numberTail (cs ++ rest)).length ≤ cs.length) :
    startsNumber last c (cs ++ rest) = startsNumber last c cs := by
  cases cs with
  | cons d cs => rfl
  | nil =>
    cases rest with
    | nil => rfl
    | cons d rest =>
      have none := List.length_eq_zero_iff.1 (Nat.le_zero.1 within)
      have other : d.isDigit = false := by
        by_contra digit
        simp [numberTail, digit] at none
      simp [startsNumber, other]

/-- Only a function needs the character behind it. -/
theorem ofWord_of_append {word : String} {n : Nat} (within : n ≤ cs.length)
    (call : (ofWord word ((cs ++ rest).drop n).head?).1 = .function → n < cs.length) :
    ofWord word (cs.drop n).head? = ofWord word ((cs ++ rest).drop n).head? := by
  rw [List.drop_append_of_le_length within] at call ⊢
  cases behind : cs.drop n with
  | cons d ds => rfl
  | nil =>
    rw [behind, List.nil_append] at call
    have short : cs.length ≤ n := List.drop_eq_nil_iff.1 behind
    unfold ofWord at call ⊢
    cases meaning : reserved? (Text.lower word) with
    | some content => rfl
    | none =>
      rw [meaning, Option.getD_none] at call
      have other : rest.head? ≠ some '(' := fun here => by
        rw [if_pos here] at call
        exact Nat.not_lt.2 short (call rfl)
      rw [List.nil_append, if_neg other]
      rfl

/-- What is found, or else a fault, is a token if it is found. -/
theorem elim_eq_ok {fault : LexFault} {found : Option Lexeme} :
    found.elim (.error fault) .ok = (.ok l : Except LexFault Lexeme) ↔ found = some l := by
  cases found <;> simp

/-- **A cut behind a token leaves the token,** if it is no function in front of the cut. What the
lexer tries before it finds the token fails for the front as it does for the whole text. -/
theorem lexeme_of_append (h : lexeme last c (cs ++ rest) = .ok l) (within : l.more ≤ cs.length)
    (call : l.kind = .function → l.more < cs.length) : lexeme last c cs = .ok l := by
  unfold lexeme at h ⊢
  -- The cases follow the order in which the lexer tries the kinds of tokens.
  split at h
  · rename_i brace
    rw [if_pos brace]
    exact elim_eq_ok.2 (reference?_of_append (elim_eq_ok.1 h) within)
  rename_i brace
  rw [if_neg brace]
  split at h
  · rename_i quote
    rw [if_pos quote]
    exact elim_eq_ok.2 (string?_of_append (elim_eq_ok.1 h) within)
  rename_i quote
  rw [if_neg quote]
  split at h
  · rename_i starts
    dsimp only at h ⊢
    split at h
    · rename_i x read
      cases h
      have same : numberTail (cs ++ rest) = numberTail cs := takeWhile_of_append within
      rw [if_pos ((startsNumber_eq_of_append within).symm.trans starts), ← same, read]
    · cases h
  rename_i starts
  have fails := startsNumber_eq_false_of_append (Bool.eq_false_iff.2 starts)
  rw [if_neg (Bool.eq_false_iff.1 fails)]
  split at h
  · exact h
  split at h
  · rename_i sign found
    cases h
    have fits : sign.length ≤ (c :: cs).length := Nat.le_add_of_sub_le within
    have same : comparisonSign? (c :: cs) = comparisonSign? (c :: (cs ++ rest)) :=
      comparisonSign?_of_append fun other here => Option.some.inj (found.symm.trans here) ▸ fits
    rw [same, found]
  rename_i found
  have same : comparisonSign? (c :: cs) = comparisonSign? (c :: (cs ++ rest)) :=
    comparisonSign?_of_append fun sign here => (found sign here).elim
  rw [same, Option.eq_none_iff_forall_ne_some.2 found]
  split at h
  · rename_i operator
    rw [if_pos operator]
    exact h
  rename_i operator
  rw [if_neg operator]
  split at h
  · rename_i starts
    rw [if_pos starts]
    dsimp only at h ⊢
    cases h
    rw [← takeWhile_of_append within, ofWord_of_append within call]
  · cases h

/-- A word is a function only in front of a parenthesis. -/
theorem next_of_function {word : String} {next : Option Char}
    (h : (ofWord word next).1 = .function) : next = some '(' := by
  unfold ofWord at h
  cases meaning : reserved? (Text.lower word) with
  | none =>
    by_contra other
    rw [meaning, Option.getD_none, if_neg other] at h
    cases h
  | some content =>
    rw [meaning, Option.getD_some] at h
    unfold reserved? at meaning
    split at meaning <;> cases meaning <;> cases h

/-- A function stands in front of a parenthesis. -/
theorem head?_of_function (h : lexeme last c cs = .ok l) (function : l.kind = .function) :
    (cs.drop l.more).head? = some '(' := by
  cases lexes_of_lexeme h with
  | word _ read => exact next_of_function (read ▸ function)
  | punctuation sign =>
    unfold punctuation? at sign
    split at sign <;> cases sign <;> cases function
  | _ => cases function

/-! ### How far the lexer comes -/

/-- The tokens of a text up to where the lexer stops, and what is wrong there if it is not the
end. -/
structure Reach where
  tokens : List Token
  stop : Nat
  fault : Option LexFault

/-- How far the lexer comes in the text `cs` that starts at `position`, `last` being the kind of the
token before it. -/
def reach (last : Option Kind) (position : Nat) (cs : List Char) : Reach :=
  match cs with
  | [] => ⟨[], position, none⟩
  | c :: cs =>
    if Text.isBlank c then reach last (position + 1) cs
    else
      match lexeme last c cs with
      | .error fault => ⟨[], position, some fault⟩
      | .ok l =>
        let further := reach (some l.kind) (position + 1 + l.more) (cs.drop l.more)
        { further with tokens := ⟨l.kind, l.payload, position⟩ :: further.tokens }
termination_by cs.length
decreasing_by
  · simp
  · simp only [List.length_drop, List.length_cons]
    omega

/-- The tokens with the end behind them, or the error where the lexer stopped. -/
def Reach.result (r : Reach) : Except LexError (List Token) :=
  match r.fault with
  | none => .ok (r.tokens ++ [atEnd r.stop])
  | some fault => .error ⟨fault, r.stop⟩

/-- A scan gives what the lexer reaches, as tokens or as an error. -/
theorem scan_eq_result (last : Option Kind) (position : Nat) (cs : List Char) :
    scan last position cs = (reach last position cs).result := by
  fun_induction reach last position cs with
  | case1 last position => rw [scan]; rfl
  | case2 last position c cs blank ih => rw [scan, if_pos blank, ih]
  | case3 last position c cs full fault failed => rw [scan, if_neg full, failed]; rfl
  | case4 last position c cs full l made further ih =>
    rw [scan, if_neg full, made]
    dsimp only
    rw [ih]
    unfold Reach.result
    cases further.fault <;> rfl

/-- A text is cut where the lexer stops: the front has just the tokens made so far, and there is a
rest if something is wrong in front of it. No function is cut off from its parenthesis. -/
structure Reach.Cuts (r : Reach) (last : Option Kind) (position : Nat) (front rest : List Char) :
    Prop where
  stop : r.stop = position + front.length
  scanned : scan last position front = .ok (r.tokens ++ [atEnd r.stop])
  ends : r.fault = none ↔ rest = []
  paren : rest.head? ≠ some '('

/-- **What the lexer makes of a text up to where it stops, it makes of that part alone.** The
induction follows the lexer; behind each token what is left is cut. -/
theorem exists_cuts (last : Option Kind) (position : Nat) (cs : List Char) :
    ∃ front rest, cs = front ++ rest ∧ (reach last position cs).Cuts last position front rest := by
  fun_induction reach last position cs with
  | case1 last position =>
    refine ⟨[], [], rfl, rfl, ?_, iff_of_true rfl rfl, (Option.some_ne_none '(').symm⟩
    rw [scan]
    rfl
  | case2 last position c cs blank ih =>
    obtain ⟨front, rest, rfl, cut⟩ := ih
    refine ⟨c :: front, rest, rfl, ?_, ?_, cut.ends, cut.paren⟩
    · rw [cut.stop, List.length_cons]
      omega
    · rw [scan, if_pos blank, cut.scanned]
  | case3 last position c cs full fault failed =>
    have ends := iff_of_false (Option.some_ne_none fault) (List.cons_ne_nil c cs)
    refine ⟨[], c :: cs, rfl, rfl, ?_, ends, fun paren => ?_⟩
    · rw [scan]
      rfl
    · have sign : punctuation? '(' = some .leftParen := rfl
      rw [Option.some.inj paren, lexeme_punctuation sign] at failed
      cases failed
  | case4 last position c cs full l made further ih =>
    obtain ⟨front, rest, split, cut⟩ := ih
    have within := more_le_length made
    have whole : cs = cs.take l.more ++ front ++ rest := by
      rw [List.append_assoc, ← split, List.take_append_drop]
    have taken : (cs.take l.more).length = l.more := List.length_take_of_le within
    -- The lexer looks one character beyond a function. The cut leaves that character in place.
    have call (function : l.kind = .function) : l.more < (cs.take l.more ++ front).length := by
      have paren := head?_of_function made function
      rw [split] at paren
      cases front with
      | nil => exact absurd paren cut.paren
      | cons d ds =>
        rw [List.length_append, taken, List.length_cons]
        omega
    have alone : lexeme last c (cs.take l.more ++ front) = .ok l := by
      refine lexeme_of_append (whole ▸ made) ?_ call
      rw [List.length_append, taken]
      exact Nat.le_add_right _ _
    refine ⟨c :: (cs.take l.more ++ front), rest, congrArg (c :: ·) whole, ?_, ?_, cut.ends,
      cut.paren⟩
    · rw [List.length_cons, List.length_append, taken]
      exact cut.stop.trans (by omega)
    · rw [scan, if_neg full, alone]
      dsimp only
      rw [List.drop_left' taken, cut.scanned]
      rfl

/-! ### Where tokens stand -/

/-- A token other than the end stands at a character of the text `cs`, which starts at `position`,
and the character is not blank. -/
def Stands (position : Nat) (cs : List Char) (t : Token) : Prop :=
  t.kind ≠ .eof ∧ ∃ before c after, cs = before ++ c :: after ∧ Text.isBlank c = false ∧
    t.position = position + before.length

/-- A token of a text stands in the text with more in front of it. -/
theorem Stands.prepend {position : Nat} (front : List Char) {t : Token}
    (h : Stands (position + front.length) cs t) : Stands position (front ++ cs) t := by
  obtain ⟨proper, before, c, after, rfl, full, place⟩ := h
  refine ⟨proper, front ++ before, c, after, (List.append_assoc ..).symm, full, ?_⟩
  rw [place, List.length_append, Nat.add_assoc]

/-- No token of the text is the end. -/
theorem kind_ne_eof_of_lexeme (h : lexeme last c cs = .ok l) : l.kind ≠ .eof := by
  intro ends
  have suits := suits_of_lexeme h
  rw [ends] at suits
  exact suits

/-- **The tokens stand in the order of the text,** each at a character that is not blank. -/
theorem reach_tokens (last : Option Kind) (position : Nat) (cs : List Char) :
    (reach last position cs).tokens.Pairwise (·.position < ·.position) ∧
      ∀ t ∈ (reach last position cs).tokens, Stands position cs t := by
  fun_induction reach last position cs with
  | case1 | case3 => exact ⟨.nil, nofun⟩
  | case2 last position c cs blank ih =>
    exact ⟨ih.1, fun t mem => Stands.prepend [c] (ih.2 t mem)⟩
  | case4 last position c cs full l made further ih =>
    obtain ⟨ordered, placed⟩ := ih
    have within := more_le_length made
    have behind (t : Token) (mem : t ∈ further.tokens) :
        Stands (position + (c :: cs.take l.more).length) (cs.drop l.more) t := by
      have := placed t mem
      rwa [List.length_cons, List.length_take_of_le within, Nat.add_comm l.more, ← Nat.add_assoc]
    refine ⟨.cons (fun t mem => ?_) ordered, fun t mem => ?_⟩
    · obtain ⟨-, before, -, -, -, -, place⟩ := behind t mem
      rw [place, List.length_cons]
      exact Nat.lt_add_right _ (Nat.lt_add_of_pos_right (Nat.succ_pos _))
    · rcases List.mem_cons.1 mem with rfl | mem
      · exact ⟨kind_ne_eof_of_lexeme made, [], c, cs, rfl, Bool.eq_false_iff.2 full, rfl⟩
      · have placed := (behind t mem).prepend (c :: cs.take l.more)
        rwa [List.cons_append, List.take_append_drop] at placed

/-- A token stands in front of the end of the text. -/
theorem Stands.lt {position : Nat} {t : Token} (h : Stands position cs t) :
    t.position < position + cs.length := by
  obtain ⟨-, before, c, after, rfl, -, place⟩ := h
  rw [place, List.length_append, List.length_cons]
  omega

/-! ### Whole texts -/

variable {position : Nat}

/-- **The tokens of a text increase in position,** and the last of them is its end. -/
theorem stands_of_scanned {ts : List Token} (scanned : scan last position cs = .ok ts) :
    ∃ us, ts = us ++ [atEnd (position + cs.length)] ∧ ts.Pairwise (·.position < ·.position) ∧
      ∀ t ∈ us, Stands position cs t := by
  obtain ⟨ordered, placed⟩ := reach_tokens last position cs
  obtain ⟨front, rest, whole, cut⟩ := exists_cuts last position cs
  rw [scan_eq_result, Reach.result] at scanned
  split at scanned
  · rename_i complete
    cases scanned
    have stop : (reach last position cs).stop = position + cs.length := by
      rw [cut.stop, whole, cut.ends.1 complete, List.append_nil]
    rw [stop]
    refine ⟨_, rfl, List.pairwise_append.2 ⟨ordered, List.pairwise_singleton _ _, ?_⟩, placed⟩
    intro t mem last here
    rw [List.mem_singleton.1 here]
    exact (placed t mem).lt
  · cases scanned

/-- **The text in front of an error has the tokens in front of it,** and its end where the error
is. -/
theorem scanned_of_error {e : LexError} (failed : scan last position cs = .error e) :
    ∃ front rest, cs = front ++ rest ∧ rest ≠ [] ∧ e.position = position + front.length ∧
      scan last position front = .ok ((reach last position cs).tokens ++ [atEnd e.position]) := by
  obtain ⟨front, rest, whole, cut⟩ := exists_cuts last position cs
  rw [scan_eq_result, Reach.result] at failed
  split at failed
  · cases failed
  · rename_i fault stopped
    cases failed
    refine ⟨front, rest, whole, fun complete => ?_, cut.stop, cut.scanned⟩
    rw [cut.ends.2 complete] at stopped
    cases stopped

end Token
end SurveyLogic
