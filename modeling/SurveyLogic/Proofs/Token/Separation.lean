/-
# Texts next to each other

Where a token stands and which token comes before a text matter little: the tokens of a text are the
same up to their positions wherever it starts (`sketchScanned_scan_append`), and the token before it
only decides whether a minus sign right behind it is an operator (`scan_congr`). A text in front of
a separator keeps its tokens (`scan_append`). So a comma or a right parenthesis cuts a text in two:
the tokens before the sign are those of the text before it alone, and those behind it are those of
the text behind it alone (`sketchScanned_scan_cut`).

| text | tokens |
| --- | --- |
| `a` | those of `a` |
| `a, b, c)` | those of `a`, a comma, those of `b`, a comma, those of `c`, a right parenthesis |
-/

import SurveyLogic.Proofs.Token.Lexed
import SurveyLogic.Proofs.Token.Written
import SurveyLogic.Text.Search

namespace SurveyLogic
namespace Token

variable {g : String → String}

/-- The sketch of a scan starts with the sketch of its first token. -/
theorem sketchScanned_cons (t : Token) (scanned : Except LexError (List Token)) :
    sketchScanned g (do
        let rest ← scanned
        .ok (t :: rest)) =
      (sketchScanned g scanned).map (t.sketch g :: ·) := by
  cases scanned with
  | error e => rfl
  | ok rest => rfl

/-- **Blanks behind a text, and where it starts, do not show in the sketches of its tokens.** The
induction follows the scan; what a token leaves of the text, it leaves in front of the blanks. -/
theorem sketchScanned_scan_append {trail : List Char} (blank : ∀ c ∈ trail, Text.isBlank c)
    (last : Option Kind) (p q : Nat) (cs : List Char) :
    sketchScanned g (scan last p (cs ++ trail)) = sketchScanned g (scan last q cs) := by
  fun_induction scan last q cs generalizing p with
  | case1 last q =>
    rw [List.nil_append, scan_blank blank]
    rfl
  | case2 last q c cs first ih =>
    rw [List.cons_append, scan, if_pos first, ih]
  | case3 last q c cs full fault failed =>
    rw [List.cons_append, scan, if_neg full, lexeme_append_blank blank, failed]
    rfl
  | case4 last q c cs full l made ih =>
    rw [List.cons_append, scan, if_neg full, lexeme_append_blank blank, made]
    dsimp only
    rw [List.drop_append_of_le_length (more_le_length made)]
    rw [sketchScanned_cons, sketchScanned_cons, ih]
    rfl

/-! ### What comes before a text -/

variable {last last' : Option Kind}

/-- The token before shows only in whether an operand ends there. -/
theorem lexeme_congr (same : last.any (·.endsOperand) = last'.any (·.endsOperand)) (c : Char)
    (cs : List Char) : lexeme last c cs = lexeme last' c cs := by
  unfold lexeme startsNumber
  rw [same]

/-- The token before a text shows only in whether an operand ends there. -/
theorem scan_congr (same : last.any (·.endsOperand) = last'.any (·.endsOperand)) (position : Nat)
    (cs : List Char) : scan last position cs = scan last' position cs := by
  induction cs generalizing position with
  | nil => rw [scan, scan]
  | cons c cs ih =>
    rw [scan, scan]
    split
    · exact ih _
    · rw [lexeme_congr same]

/-- A scan goes on behind the token it reads, as if the text started there. -/
theorem sketchScanned_scan_cons {c : Char} {cs rest : List Char} {kind : Kind} {payload : Payload}
    (full : Text.isBlank c = false)
    (read : lexeme last c (cs ++ rest) = .ok ⟨kind, payload, cs.length⟩) (p : Nat) :
    sketchScanned g (scan last p (c :: cs ++ rest)) =
      (sketchScanned g (scan (some kind) 0 rest)).map
        (⟨kind, payload.sketch g kind, 0⟩ :: ·) := by
  have moved := sketchScanned_scan_append (g := g) (List.forall_mem_nil _) (some kind)
    (p + 1 + cs.length) 0 rest
  rw [List.append_nil] at moved
  rw [List.cons_append, scan, if_neg (Bool.eq_false_iff.1 full), read]
  dsimp only
  rw [sketchScanned_cons, List.drop_left, moved]
  rfl

/-! ### Separators -/

/-- A sign without a payload, as a sketch. -/
def ofKind (kind : Kind) : Token :=
  ⟨kind, .none, 0⟩

/-- A sign without a payload is one token, and the scan goes on behind it. -/
theorem sketchScanned_scan_sign {d : Char} {kind : Kind} (sign : punctuation? d = some kind)
    (p : Nat) (rest : List Char) :
    sketchScanned g (scan last p (d :: rest)) =
      (sketchScanned g (scan (some kind) 0 rest)).map (ofKind kind :: ·) := by
  have read : lexeme last d ([] ++ rest) = .ok ⟨kind, .none, ([] : List Char).length⟩ :=
    lexeme_punctuation sign last rest
  exact sketchScanned_scan_cons (isBlank_of_punctuation sign) read p

/-- A scan gives at least the end. -/
theorem scan_ne_nil {position : Nat} {cs : List Char} {ts : List Token}
    (scanned : scan last position cs = .ok ts) : ts ≠ [] := by
  obtain ⟨us, stop, rfl, -⟩ := scan_lexed scanned
  exact List.append_ne_nil_of_right_ne_nil us (List.cons_ne_nil _ _)

/-- The kind of the last of some tokens, or of the one before them. -/
def lastKind (last : Option Kind) (us : List Token) : Option Kind :=
  us.foldl (fun _ u => some u.kind) last

/-- The last kind is that of the token at the end. -/
theorem lastKind_append_singleton (last : Option Kind) (us : List Token) (u : Token) :
    lastKind last (us ++ [u]) = some u.kind :=
  List.foldl_append

/-- **Behind a text that ends with its tokens the scan goes on** as if a new text started there,
after the last of them. The induction follows the scan of the text in front. -/
theorem scan_append {rest : List Char} (separated : Separated rest) {position stop : Nat}
    {cs : List Char} {us : List Token}
    (scanned : scan last position cs = .ok (us ++ [atEnd stop])) :
    stop = position + cs.length ∧
      scan last position (cs ++ rest) = (scan (lastKind last us) stop rest).map (us ++ ·) := by
  fun_induction scan last position cs generalizing us with
  | case1 last position =>
    have alone : [atEnd position] = us ++ [atEnd stop] := Except.ok.inj scanned
    -- Nothing is left but the end, and in its place the scan goes on with `rest`.
    obtain rfl : us = [] := by
      have length := congrArg List.length alone
      rw [List.length_append] at length
      exact List.length_eq_zero_iff.1 (by simpa using length)
    obtain rfl : position = stop := congrArg (·.position) (List.cons.inj alone).1
    refine ⟨rfl, ?_⟩
    change scan last position rest = (scan last position rest).map ([] ++ ·)
    cases scan last position rest <;> rfl
  | case2 last position c cs first ih =>
    obtain ⟨ends, goes⟩ := ih scanned
    rw [List.length_cons, List.cons_append, scan, if_pos first]
    exact ⟨by omega, goes⟩
  | case3 last position c cs full fault failed => cases scanned
  | case4 last position c cs full l made ih =>
    obtain ⟨ts, behind, whole⟩ := exists_of_scanned_cons scanned
    cases us with
    | nil => exact absurd (List.cons.inj whole).2 (scan_ne_nil behind)
    | cons u us =>
      obtain ⟨rfl, rfl⟩ := List.cons.inj whole
      obtain ⟨ends, goes⟩ := ih behind
      have within := more_le_length made
      rw [List.length_drop] at ends
      rw [List.length_cons, List.cons_append, scan, if_neg full, lexeme_append separated made]
      dsimp only
      rw [List.drop_append_of_le_length within, goes]
      refine ⟨by omega, ?_⟩
      have from_here : lastKind last (⟨l.kind, l.payload, position⟩ :: us) =
          lastKind (some l.kind) us := rfl
      rw [from_here]
      cases scan (lastKind (some l.kind) us) stop rest <;> rfl

/-- **A separator cuts a text in two.** -/
theorem sketchScanned_scan_cut {d : Char} {kind : Kind} (ends : separates d)
    (sign : punctuation? d = some kind) {q stop : Nat} {cs : List Char} {us : List Token}
    (scanned : scan last q cs = .ok (us ++ [atEnd stop])) (p : Nat) (rest : List Char) :
    sketchScanned g (scan last p (cs ++ d :: rest)) =
      (sketchScanned g (scan (some kind) 0 rest)).map (us.map (sketch g) ++ ofKind kind :: ·) := by
  have separated : Separated (d :: rest) := fun c mem => Option.some.inj mem ▸ ends
  have moved :=
    sketchScanned_scan_append (g := g) (List.forall_mem_nil _) last p q (cs ++ d :: rest)
  have sketched (scanned : Except LexError (List Token)) :
      sketchScanned g (scanned.map (us ++ ·)) =
        (sketchScanned g scanned).map (us.map (sketch g) ++ ·) := by
    cases scanned with
    | ok ts => exact congrArg Except.ok List.map_append
    | error e => rfl
  rw [List.append_nil] at moved
  rw [moved, (scan_append separated scanned).2, sketched, sketchScanned_scan_sign sign]
  cases sketchScanned g (scan (some kind) 0 rest) <;> rfl

/-! ### Calls -/

/-- The tokens of a source in front of its end. -/
def Spans (source : String) (us : List Token) : Prop :=
  ∃ stop, tokenize source = .ok (us ++ [atEnd stop])

/-- The tokens of arguments in front of the parenthesis that closes their call. -/
theorem sketchScanned_scan_arguments {sources : List String} {uss : List (List Token)}
    (spans : List.Forall₂ Spans sources uss) (starts : last.any (·.endsOperand) = false) (p : Nat) :
    sketchScanned g (scan last p ((Text.join "," sources).toList ++ [')'])) =
      .ok ([ofKind .comma].intercalate (uss.map (List.map (sketch g))) ++
        [ofKind .rightParen, atEnd 0]) := by
  have comma : punctuation? ',' = some .comma := rfl
  have paren : punctuation? ')' = some .rightParen := rfl
  have closed : sketchScanned g (scan (some .rightParen) 0 []) = .ok [atEnd 0] := by
    rw [scan]
    rfl
  induction spans generalizing last p with
  | nil =>
    rw [Text.join, String.intercalate_nil, String.toList_empty, List.nil_append,
      sketchScanned_scan_sign paren, closed]
    rfl
  | @cons source us sources uss span spans ih =>
    obtain ⟨stop, scanned⟩ := span
    have alone : scan last 0 source.toList = .ok (us ++ [atEnd stop]) :=
      (scan_congr starts 0 _).trans scanned
    cases spans with
    | nil =>
      rw [Text.join, String.intercalate_singleton, sketchScanned_scan_cut rfl paren alone, closed,
        List.map_singleton, List.intercalate_singleton]
      rfl
    | @cons source' us' sources uss =>
      have behind : (some Kind.comma).any (·.endsOperand) = false := rfl
      have others := ih behind 0
      have text : (Text.join "," (source :: source' :: sources)).toList ++ [')'] =
          source.toList ++ ',' :: ((Text.join "," (source' :: sources)).toList ++ [')']) := by
        rw [Text.join, String.intercalate_cons_cons, ← Text.join, String.toList_append,
          String.toList_append, List.append_assoc, List.append_assoc]
        rfl
      rw [text, sketchScanned_scan_cut rfl comma alone, others, List.map_cons, List.map_cons,
        List.map_cons, List.intercalate_cons_cons, List.append_assoc, List.append_assoc]
      rfl

/-- **The tokens of a call** are its name, and those of its arguments in parentheses with commas
between them. -/
theorem sketchScanned_tokenize_call {word : String} (shape : IsWord word.toList)
    (free : reserved? (Text.lower word) = none) {sources : List String} {uss : List (List Token)}
    (spans : List.Forall₂ Spans sources uss) :
    sketchScanned g (tokenize (word ++ "(" ++ Text.join "," sources ++ ")")) =
      .ok (⟨.function, .text word, 0⟩ :: ofKind .leftParen ::
        ([ofKind .comma].intercalate (uss.map (List.map (sketch g))) ++
          [ofKind .rightParen, atEnd 0])) := by
  have text : (word ++ "(" ++ Text.join "," sources ++ ")").toList =
      word.toList ++ '(' :: ((Text.join "," sources).toList ++ [')']) := by
    rw [String.toList_append, String.toList_append, String.toList_append, List.append_assoc,
      List.append_assoc]
    rfl
  have paren : punctuation? '(' = some .leftParen := rfl
  have named : Spells none .function (.text (String.ofList word.toList)) word.toList :=
    .function shape (by rwa [String.ofList_toList])
  obtain ⟨c, cs, whole, full, read⟩ :=
    named.exists_lexeme_call ((Text.join "," sources).toList ++ [')'])
  rw [tokenize, text, whole, sketchScanned_scan_cons full read, sketchScanned_scan_sign paren,
    sketchScanned_scan_arguments spans rfl, String.ofList_toList]
  rfl

end Token
end SurveyLogic
