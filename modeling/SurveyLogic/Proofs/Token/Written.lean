/-
# Reading what was written

Tokens are written one after the other with blanks between them, a function directly in front of its
parenthesis, and any blanks at the ends. The lexer reads back exactly these tokens
(`tokenize_written`), whatever texts the strings among them have.

| token | written as |
| --- | --- |
| reference | its name in braces, perhaps with blanks around it, or a word that is not reserved |
| function | a word that is not reserved |
| string | its content in quotes of either kind, with backslashes (`escape`) |
| number | digits with at most one point, perhaps behind a minus sign where no operand ends |
| reserved word | the word in any case |
| punctuation, comparison, operator | its sign |

A written token read on its own is the one meant (`Spells.exists_lexeme`). The induction over the
tokens needs no more: in front of a blank the lexer reads on as if nothing followed
(`lexeme_append`), and a word in front of a parenthesis is the one case of its own.
-/

import SurveyLogic.Proofs.Number.Digits
import SurveyLogic.Proofs.Syntax.Sketch
import SurveyLogic.Proofs.Token.Boundary

namespace SurveyLogic
namespace Token

/-- A letter or an underscore, then letters, numerals and underscores. -/
def IsWord : List Char → Prop
  | [] => False
  | c :: cs => startsWord c ∧ ∀ d ∈ cs, continuesWord d

/-- A text with a backslash before each backslash and each quote of the kind around it. -/
def escape (quote : Char) (content : List Char) : List Char :=
  content.flatMap fun c => if c = '\\' ∨ c = quote then ['\\', c] else [c]

/-- A number as it is written: digits, and perhaps a point and digits behind it. -/
structure Numeral where
  negative : Bool
  whole : List Char
  fraction : Option (List Char)

namespace Numeral

/-- The text of a number. -/
def text (n : Numeral) : List Char :=
  (if n.negative then ['-'] else []) ++ (n.whole ++ n.fraction.elim [] ('.' :: ·))

/-- The double nearest to a number. -/
def value (n : Numeral) : Float :=
  let fraction := n.fraction.getD []
  let x := Number.ofDecimal (Number.digitsValue (n.whole ++ fraction)) (-fraction.length)
  if n.negative then -x else x

/-- At least one digit in front of the point, and nothing but digits. -/
structure Proper (n : Numeral) : Prop where
  nonempty : n.whole ≠ []
  whole : ∀ c ∈ n.whole, c.isDigit
  fraction : ∀ ds ∈ n.fraction, ∀ c ∈ ds, c.isDigit

end Numeral

/-- The ways to write one token, `last` being the kind of the token before it. -/
inductive Spells (last : Option Kind) : Kind → Payload → List Char → Prop where
  | braced {inside : List Char} {name : String} (closed : '\x7d' ∉ inside)
      (trimmed : Text.trim (String.ofList inside) = name) :
      Spells last .reference (.text name) ('\x7b' :: (inside ++ ['\x7d']))
  | bare {word : List Char} (shape : IsWord word)
      (free : reserved? (Text.lower (String.ofList word)) = none) :
      Spells last .reference (.text (String.ofList word)) word
  | function {word : List Char} (shape : IsWord word)
      (free : reserved? (Text.lower (String.ofList word)) = none) :
      Spells last .function (.text (String.ofList word)) word
  | quoted {quote : Char} (mark : quote = '\'' ∨ quote = '"') (content : String) :
      Spells last .string (.text content) (quote :: (escape quote content.toList ++ [quote]))
  | number {n : Numeral} (proper : n.Proper)
      (signed : n.negative → last.any (·.endsOperand) = false) :
      Spells last .number (.number n.value) n.text
  | reserved {word : List Char} {kind : Kind} {payload : Payload} (shape : IsWord word)
      (meaning : reserved? (Text.lower (String.ofList word)) = some (kind, payload)) :
      Spells last kind payload word
  | punctuation {c : Char} {kind : Kind} (sign : punctuation? c = some kind) :
      Spells last kind .none [c]
  | comparison {sign : String} (mem : sign ∈ comparisonSigns) :
      Spells last .comparison (.text sign) sign.toList
  | operator {sign : Char} (mem : sign ∈ operatorSigns) :
      Spells last .operator (.text sign.toString) [sign]

/-- The ways to write a sequence of tokens behind one of kind `last`: a gap behind each but a
function, which stands directly in front of its parenthesis. Only the last gap may be empty. -/
inductive Writes : (last : Option Kind) → List Content → List Char → Prop where
  | nil (last : Option Kind) : Writes last [] []
  | cons {last : Option Kind} {kind : Kind} {payload : Payload} {contents : List Content}
      {text gap rest : List Char} (spelled : Spells last kind payload text)
      (plain : kind ≠ .function) (blank : ∀ c ∈ gap, Text.isBlank c)
      (apart : contents ≠ [] → gap ≠ []) (behind : Writes (some kind) contents rest) :
      Writes last ((kind, payload) :: contents) (text ++ (gap ++ rest))
  | call {last : Option Kind} {payload : Payload} {contents : List Content}
      {text rest : List Char} (spelled : Spells last .function payload text)
      (behind : Writes (some .function) ((.leftParen, .none) :: contents) ('(' :: rest)) :
      Writes last ((.function, payload) :: (.leftParen, .none) :: contents) (text ++ '(' :: rest)

variable {last : Option Kind} {c : Char} {cs rest : List Char}

/-! ### Words -/

/-- What starts a word is no digit. -/
theorem isDigit_of_startsWord (h : startsWord c) : c.isDigit = false := by
  have none : (List.range 10).all fun n => !startsWord (Char.ofNat (48 + n)) := by
    decide +kernel
  by_contra digit
  obtain ⟨low, high⟩ : 48 ≤ c.toNat ∧ c.toNat ≤ 57 := by
    simpa [Char.isDigit, UInt32.le_iff_toNat_le] using digit
  have mem : c.toNat - 48 ∈ List.range 10 := List.mem_range.2 (by omega)
  have here := List.all_eq_true.1 none _ mem
  rw [Nat.add_sub_cancel' low, Char.ofNat_toNat, h] at here
  exact nomatch here

/-- What starts a word is not blank. -/
theorem isBlank_of_startsWord (h : startsWord c) : Text.isBlank c = false := by
  by_contra blank
  have ends := continuesWord_of_isBlank (Bool.not_eq_false _ ▸ blank)
  unfold startsWord at h
  unfold continuesWord Text.isAlphanumeric at ends
  simp_all

/-- What starts a word starts no comparison. -/
theorem comparisonSign?_of_startsWord (h : startsWord c) (cs : List Char) :
    comparisonSign? (c :: cs) = none := by
  have none : comparisonSigns.all fun sign => sign.toList.head?.any (!startsWord ·) := by
    decide +kernel
  refine List.find?_eq_none.2 fun sign mem front => ?_
  have first := List.all_eq_true.1 none sign mem
  cases chars : sign.toList with
  | nil => rw [chars] at first; cases first
  | cons d ds =>
    rw [chars] at first front
    have same : d = c := by
      rw [List.isPrefixOf, Bool.and_eq_true, beq_iff_eq] at front
      exact front.1
    simp [same, h] at first

/-- What starts a word is no bracket and no comma. -/
theorem punctuation?_of_startsWord (h : startsWord c) : punctuation? c = none := by
  unfold punctuation?
  split <;> first | rfl | exact absurd h (by decide)

/-- A word is read as far as it goes. -/
theorem lexeme_of_startsWord (h : startsWord c) (last : Option Kind) (cs : List Char) :
    lexeme last c cs =
      .ok ⟨(ofWord (String.ofList (c :: cs.takeWhile continuesWord))
          (cs.drop (cs.takeWhile continuesWord).length).head?).1,
        (ofWord (String.ofList (c :: cs.takeWhile continuesWord))
          (cs.drop (cs.takeWhile continuesWord).length).head?).2,
        (cs.takeWhile continuesWord).length⟩ := by
  have brace : c ≠ '\x7b' := Text.ne_of_class h (by decide)
  have single : c ≠ '\'' := Text.ne_of_class h (by decide)
  have double : c ≠ '"' := Text.ne_of_class h (by decide)
  have minus : c ≠ '-' := Text.ne_of_class h (by decide)
  have sign : operatorSigns.contains c = false := by
    have none : operatorSigns.all (!startsWord ·) := by decide +kernel
    rw [Bool.eq_false_iff]
    intro mem
    have here := List.all_eq_true.1 none c (List.contains_iff_mem.1 mem)
    rw [h] at here
    exact nomatch here
  have number : startsNumber last c cs = false := by
    simp [startsNumber, isDigit_of_startsWord h, minus]
  unfold lexeme
  rw [if_neg brace, if_neg (by simp [single, double]), if_neg (by simp [number]),
    punctuation?_of_startsWord h, comparisonSign?_of_startsWord h,
    if_neg (Bool.eq_false_iff.1 sign), if_pos h]

/-- A word is read to its end if none of the characters behind it prolongs it. -/
theorem lexeme_word (starts : startsWord c) (goes : ∀ d ∈ cs, continuesWord d)
    (stops : rest.takeWhile continuesWord = []) (last : Option Kind) :
    lexeme last c (cs ++ rest) =
      .ok ⟨(ofWord (String.ofList (c :: cs)) rest.head?).1,
        (ofWord (String.ofList (c :: cs)) rest.head?).2, cs.length⟩ := by
  have tail : (cs ++ rest).takeWhile continuesWord = cs := by
    rw [List.takeWhile_append_of_pos goes, stops, List.append_nil]
  rw [lexeme_of_startsWord starts, tail, List.drop_left]

/-! ### Strings -/

/-- An escaped text in front of its quote is read back. -/
theorem quotedContent?_escape {quote : Char} (plain : quote ≠ '\\') (content rest : List Char) :
    quotedContent? quote (escape quote content ++ quote :: rest) =
      some (content, (escape quote content).length + 1) := by
  induction content with
  | nil => exact (quotedContent?_cons plain rest).trans (if_pos rfl)
  | cons c content ih =>
    rw [escape, List.flatMap_cons, ← escape]
    split
    · rw [List.append_assoc, List.cons_append, List.cons_append, List.nil_append, quotedContent?,
        ih]
      rfl
    · rename_i other
      obtain ⟨backslash, mark⟩ := not_or.1 other
      rw [List.append_assoc, List.singleton_append, quotedContent?_cons backslash, if_neg mark, ih]
      rfl

/-! ### Numbers -/

/-- A numeral is read as its value. -/
theorem read?_numeral {n : Numeral} (h : n.Proper) : Number.read? n.text = some n.value := by
  obtain ⟨negative, whole, fraction⟩ := n
  obtain ⟨nonempty, digits, behind⟩ := h
  dsimp only at nonempty digits behind
  obtain ⟨c, cs, rfl⟩ := List.exists_cons_of_ne_nil nonempty
  have digit := digits c List.mem_cons_self
  have minus : c ≠ '-' := Text.ne_of_class digit (by decide)
  have plus : c ≠ '+' := Text.ne_of_class digit (by decide)
  have sign : Number.takeSign (Numeral.text ⟨negative, c :: cs, fraction⟩) =
      (negative, (c :: cs) ++ fraction.elim [] ('.' :: ·)) := by
    cases negative with
    | true => rfl
    | false => simp [Numeral.text, Number.takeSign, minus, plus]
  have stops : (fraction.elim [] ('.' :: ·)).takeWhile (·.isDigit) = [] := by
    cases fraction <;> rfl
  have front := Number.span_append digits stops
  have back : Number.takeFraction (fraction.elim [] ('.' :: ·)) = (fraction.getD [], []) := by
    cases fraction with
    | none => rfl
    | some ds =>
      have all := Number.span_append (behind ds rfl) (List.takeWhile_nil (p := Char.isDigit))
      rwa [List.append_nil] at all
  unfold Number.read?
  rw [sign]
  dsimp only
  rw [front]
  dsimp only
  rw [back]
  simp [Number.readExponent?, Numeral.value]

/-- A number is read as far as it goes, here to the end. -/
theorem lexeme_of_startsNumber {x : Float} (starts : startsNumber last c cs)
    (goes : ∀ d ∈ cs, (d.isDigit || d = '.') = true) (value : Number.read? (c :: cs) = some x) :
    lexeme last c cs = .ok ⟨.number, .number x, cs.length⟩ := by
  have first : c.isDigit ∨ c = '-' := by
    rcases Bool.or_eq_true_iff.1 starts with digit | minus
    · exact .inl digit
    · simp only [Bool.and_eq_true, decide_eq_true_eq] at minus
      exact .inr minus.1.1
  have ne {d : Char} (other : (d.isDigit || d = '-') = false) : c ≠ d := by
    rintro rfl
    simp_all
  have all : numberTail cs = cs := List.takeWhile_eq_self_iff.2 goes
  have quote : ¬(c = '\'' || c = '"') = true := by
    simp [ne (d := '\'') (by decide), ne (d := '"') (by decide)]
  unfold lexeme
  rw [if_neg (ne (by decide)), if_neg quote, if_pos starts, all]
  dsimp only
  rw [value]

/-- A number is read to its end. -/
theorem lexeme_numeral {n : Numeral} (proper : n.Proper)
    (signed : n.negative → last.any (·.endsOperand) = false) :
    ∃ c cs, n.text = c :: cs ∧ Text.isBlank c = false ∧
      lexeme last c cs = .ok ⟨.number, .number n.value, cs.length⟩ := by
  have value := read?_numeral proper
  obtain ⟨negative, whole, fraction⟩ := n
  obtain ⟨nonempty, digits, behind⟩ := proper
  dsimp only at nonempty digits behind signed
  obtain ⟨d, ds, rfl⟩ := List.exists_cons_of_ne_nil nonempty
  have digit := digits d List.mem_cons_self
  have goes : ∀ c ∈ d :: ds ++ fraction.elim [] ('.' :: ·), (c.isDigit || c = '.') = true := by
    intro c mem
    rcases List.mem_append.1 mem with front | back
    · rw [digits c front]
      rfl
    · cases fraction with
      | none => cases back
      | some fs =>
        rcases List.mem_cons.1 back with rfl | back
        · rfl
        · rw [behind fs rfl c back]
          rfl
  cases negative with
  | true =>
    refine ⟨'-', _, rfl, by decide, lexeme_of_startsNumber ?_ goes value⟩
    simp [startsNumber, digit, signed rfl]
  | false =>
    refine ⟨d, _, rfl, ?_, lexeme_of_startsNumber ?_ (List.forall_mem_cons.1 goes).2 value⟩
    · rw [Bool.eq_false_iff]
      intro blank
      rw [isDigit_of_separates (separates_of_isBlank blank)] at digit
      exact Bool.false_ne_true digit
    · simp [startsNumber, digit]

/-! ### One token -/

/-- A bracket or a comma is not blank. -/
theorem isBlank_of_punctuation {kind : Kind} (h : punctuation? c = some kind) :
    Text.isBlank c = false := by
  unfold punctuation? at h
  split at h <;> first | decide | cases h

/-- A bracket or a comma is a token by itself. -/
theorem lexeme_punctuation {kind : Kind} (h : punctuation? c = some kind) (last : Option Kind)
    (cs : List Char) : lexeme last c cs = .ok ⟨kind, .none, 0⟩ := by
  unfold punctuation? at h
  split at h <;> cases h <;> rfl

/-- The sign of a comparison is a token, all of it. -/
theorem lexeme_comparison {sign : String} (mem : sign ∈ comparisonSigns) (last : Option Kind) :
    ∃ c cs, sign.toList = c :: cs ∧ Text.isBlank c = false ∧
      lexeme last c cs = .ok ⟨.comparison, .text sign, cs.length⟩ := by
  simp only [comparisonSigns, List.mem_cons, List.not_mem_nil, or_false] at mem
  rcases mem with rfl | rfl | rfl | rfl | rfl | rfl | rfl | rfl <;>
    exact ⟨_, _, rfl, by decide, rfl⟩

/-- The sign of an operator that stands alone is a token. -/
theorem lexeme_operator (mem : c ∈ operatorSigns) (last : Option Kind) :
    Text.isBlank c = false ∧ lexeme last c [] = .ok ⟨.operator, .text c.toString, 0⟩ := by
  simp only [operatorSigns, List.mem_cons, List.not_mem_nil, or_false] at mem
  rcases mem with rfl | rfl | rfl | rfl | rfl | rfl <;> exact ⟨by decide, rfl⟩

/-- A word alone is read as what it means, and is a reference if it is not reserved. -/
theorem exists_lexeme_word {word : List Char} {kind : Kind} {payload : Payload}
    (shape : IsWord word) (meaning : ofWord (String.ofList word) none = (kind, payload))
    (last : Option Kind) :
    ∃ c cs, word = c :: cs ∧ Text.isBlank c = false ∧
      lexeme last c cs = .ok ⟨kind, payload, cs.length⟩ := by
  cases word with
  | nil => exact shape.elim
  | cons c cs =>
    obtain ⟨starts, goes⟩ := shape
    refine ⟨c, cs, rfl, isBlank_of_startsWord starts, ?_⟩
    have stops : ([] : List Char).takeWhile continuesWord = [] := List.takeWhile_nil
    have read := lexeme_word starts goes stops last
    rwa [List.append_nil, List.head?_nil, meaning] at read

/-- **A token that is written alone is read as what was meant,** unless it is a function. -/
theorem Spells.exists_lexeme {kind : Kind} {payload : Payload} {text : List Char}
    (h : Spells last kind payload text) (plain : kind ≠ .function) :
    ∃ c cs, text = c :: cs ∧ Text.isBlank c = false ∧
      lexeme last c cs = .ok ⟨kind, payload, cs.length⟩ := by
  cases h with
  | @braced inside name closed trimmed =>
    refine ⟨'\x7b', _, rfl, by decide, ?_⟩
    have all : ∀ c ∈ inside, decide (c ≠ '\x7d') = true := fun c mem =>
      decide_eq_true (ne_of_mem_of_not_mem mem closed)
    have name' : (inside ++ ['\x7d']).takeWhile (fun c => decide (c ≠ '\x7d')) = inside := by
      rw [List.takeWhile_append_of_pos all]
      exact List.append_nil inside
    have within : inside.length < inside.length + ['\x7d'].length := Nat.lt_succ_self _
    rw [lexeme_brace, Lexeme.reference?, name', List.length_append, trimmed, if_pos within]
    rfl
  | bare shape free =>
    refine exists_lexeme_word shape ?_ last
    rw [ofWord, free]
    rfl
  | function => exact absurd rfl plain
  | @quoted quote mark content =>
    have backslash : quote ≠ '\\' := by rcases mark with rfl | rfl <;> decide
    refine ⟨quote, _, rfl, isBlank_of_quote mark, ?_⟩
    rw [lexeme_quote mark, Lexeme.string?, quotedContent?_escape backslash, List.length_append]
    dsimp only [Option.map_some, Option.elim]
    rw [String.ofList_toList]
    rfl
  | number proper signed => exact lexeme_numeral proper signed
  | reserved shape meaning =>
    refine exists_lexeme_word shape ?_ last
    rw [ofWord, meaning]
    rfl
  | punctuation sign =>
    exact ⟨_, [], rfl, isBlank_of_punctuation sign, lexeme_punctuation sign last []⟩
  | comparison mem => exact lexeme_comparison mem last
  | operator mem =>
    obtain ⟨full, read⟩ := lexeme_operator mem last
    exact ⟨_, [], rfl, full, read⟩

/-- A function is read as one in front of its parenthesis. -/
theorem Spells.exists_lexeme_call {payload : Payload} {text : List Char}
    (h : Spells last .function payload text) (rest : List Char) :
    ∃ c cs, text = c :: cs ∧ Text.isBlank c = false ∧
      lexeme last c (cs ++ '(' :: rest) = .ok ⟨.function, payload, cs.length⟩ := by
  cases h with
  | function shape free =>
    cases text with
    | nil => exact shape.elim
    | cons c cs =>
      obtain ⟨starts, goes⟩ := shape
      refine ⟨c, cs, rfl, isBlank_of_startsWord starts, ?_⟩
      have stops : ('(' :: rest).takeWhile continuesWord = [] := rfl
      rw [lexeme_word starts goes stops, ofWord, free]
      rfl
  | reserved shape meaning =>
    unfold reserved? at meaning
    split at meaning <;> cases meaning
  | punctuation sign =>
    unfold punctuation? at sign
    split at sign <;> cases sign

/-! ### All tokens -/

/-- A scan goes on behind the token it reads. -/
theorem scan_cons {l : Kind} {payload : Payload} (full : Text.isBlank c = false)
    (read : lexeme last c (cs ++ rest) = .ok ⟨l, payload, cs.length⟩) (position : Nat)
    {ts : List Token} (scanned : scan (some l) (position + 1 + cs.length) rest = .ok ts) :
    scan last position (c :: cs ++ rest) = .ok (⟨l, payload, position⟩ :: ts) := by
  rw [List.cons_append, scan, if_neg (Bool.eq_false_iff.1 full), read]
  dsimp only
  rw [List.drop_left, scanned]
  rfl

/-- What is written is scanned as written, wherever it starts. -/
theorem scan_writes {contents : List Content} {text : List Char} (h : Writes last contents text)
    (position : Nat) :
    ∃ ts, scan last position text = .ok ts ∧
      ts.map content = contents ++ [(.eof, .none)] := by
  induction h generalizing position with
  | nil last => exact ⟨[atEnd position], by rw [scan], rfl⟩
  | @cons last kind payload contents text gap rest spelled plain blank apart behind ih =>
    obtain ⟨c, cs, rfl, full, read⟩ := spelled.exists_lexeme plain
    obtain ⟨ts, scanned, same⟩ := ih (position + 1 + cs.length + gap.length)
    have detached : Detached (gap ++ rest) := by
      cases gap with
      | cons d gap =>
        intro c mem
        cases mem
        exact blank d List.mem_cons_self
      | nil =>
        cases behind with
        | nil => exact detached_of_forall (List.forall_mem_nil _)
        | cons => exact absurd rfl (apart (List.cons_ne_nil _ _))
        | call => exact absurd rfl (apart (List.cons_ne_nil _ _))
    rw [← scan_blank_append blank] at scanned
    exact ⟨_, scan_cons full (lexeme_append detached.separated read) position scanned,
      congrArg ((kind, payload) :: ·) same⟩
  | @call last payload contents text rest spelled behind ih =>
    obtain ⟨c, cs, rfl, full, read⟩ := spelled.exists_lexeme_call rest
    obtain ⟨ts, scanned, same⟩ := ih (position + 1 + cs.length)
    exact ⟨_, scan_cons full read position scanned, congrArg ((Kind.function, payload) :: ·) same⟩

/-- Sketches follow from what tokens are apart from their positions. -/
theorem map_sketch_eq (g : String → String) (ts : List Token) :
    ts.map (sketch g) =
      (ts.map content).map fun made => ⟨made.1, made.2.sketch g made.1, 0⟩ := by
  rw [List.map_map]
  rfl

/-- **What was written is read back:** any tokens in any of their spellings, with any gaps, are what
the lexer finds in their text. So the text between two quotes has no part in the rest of the source:
with another text there, escaped, the source parses to the same tree or fails in the same way, up to
the two texts, which a `g` that takes both to one does not tell apart. -/
theorem tokenize_written {contents : List Content} {lead text : List Char}
    (leading : ∀ c ∈ lead, Text.isBlank c) (written : Writes none contents text) :
    (∃ ts, tokenize (String.ofList (lead ++ text)) = .ok ts ∧
      ts.map content = contents ++ [(.eof, .none)]) ∧
    ∀ (before after : List Content) (s t : String) (lead' text' : List Char),
      contents = before ++ (.string, .text s) :: after →
      (∀ c ∈ lead', Text.isBlank c) → Writes none (before ++ (.string, .text t) :: after) text' →
        ∀ (g : String → String) (limits : Limits), g s = g t →
          Expr.sketchParsed g (Expr.parse limits (String.ofList (lead ++ text))) =
            Expr.sketchParsed g (Expr.parse limits (String.ofList (lead' ++ text'))) := by
  have read {contents : List Content} {lead text : List Char}
      (leading : ∀ c ∈ lead, Text.isBlank c) (written : Writes none contents text) :
      ∃ ts, tokenize (String.ofList (lead ++ text)) = .ok ts ∧
        ts.map content = contents ++ [(.eof, .none)] := by
    rw [tokenize, String.toList_ofList, scan_blank_append leading]
    exact scan_writes written _
  refine ⟨read leading written, ?_⟩
  intro before after s t lead' text' whole leading' written' g limits same
  obtain ⟨ts, scanned, made⟩ := read leading written
  obtain ⟨ts', scanned', made'⟩ := read leading' written'
  refine Expr.parse_congr ?_ limits
  rw [scanned, scanned', sketchScanned, sketchScanned, map_sketch_eq, map_sketch_eq, made, made',
    whole]
  simp [Payload.sketch, same]

/-- The hypotheses of `tokenize_written` are satisfiable: a string with its quote, a brace and a
backslash in it, a word in mixed case, and a call with a negative number. -/
theorem tokenize_written_mixed :
    let contents : List Content :=
      [(.reference, .text "q"), (.comparison, .text "="), (.string, .text "'\x7d\\"),
        (.logical, .text "and"), (.function, .text "f"), (.leftParen, .none),
        (.number, .number (Numeral.value ⟨true, ['2'], some ['5']⟩)), (.rightParen, .none)]
    let text := "\x7b q\x7d\t= '\\'\x7d\\\\' AnD f( -2.5 )".toList
    (∀ c ∈ [' '], Text.isBlank c) ∧ Writes none contents text ∧
      ∃ ts, tokenize (String.ofList ([' '] ++ text)) = .ok ts ∧
        ts.map content = contents ++ [(.eof, .none)] := by
  intro contents text
  have blank : ∀ c ∈ [' '], Text.isBlank c := List.forall_mem_singleton.2 rfl
  have tab : ∀ c ∈ ['\t'], Text.isBlank c := List.forall_mem_singleton.2 rfl
  have digit {d : Char} (h : d.isDigit) : ∀ c ∈ [d], c.isDigit := List.forall_mem_singleton.2 h
  have proper : Numeral.Proper ⟨true, ['2'], some ['5']⟩ :=
    ⟨List.cons_ne_nil _ _, digit rfl, fun _ mem => Option.some.inj mem ▸ digit rfl⟩
  have parts : text = ('\x7b' :: ([' ', 'q'] ++ ['\x7d'])) ++ (['\t'] ++ ("=".toList ++ ([' '] ++
      (('\'' :: (escape '\'' "'\x7d\\".toList ++ ['\''])) ++ ([' '] ++ (['A', 'n', 'D'] ++ ([' '] ++
        (['f'] ++ '(' :: ([' '] ++ (Numeral.text ⟨true, ['2'], some ['5']⟩ ++ ([' '] ++
          ([')'] ++ ([] ++ []))))))))))))) := by
    decide +kernel
  have reference : Spells none .reference (.text "q") ('\x7b' :: ([' ', 'q'] ++ ['\x7d'])) :=
    .braced (by decide) (by decide +kernel)
  have lower : Text.lower (String.ofList ['A', 'n', 'D']) = "and" := by decide +kernel
  have logical : Spells (some .string) .logical (.text "and") ['A', 'n', 'D'] :=
    .reserved ⟨by decide, List.all_eq_true.1 (by decide)⟩ (by rw [lower]; rfl)
  have function : Spells (some .logical) .function (.text "f") ['f'] :=
    .function ⟨by decide, List.forall_mem_nil _⟩ (by decide +kernel)
  have written : Writes none contents text := by
    rw [parts]
    refine .cons reference nofun tab (fun _ => List.cons_ne_nil _ _) ?_
    refine .cons (.comparison (by decide)) nofun blank (fun _ => List.cons_ne_nil _ _) ?_
    refine .cons (.quoted (.inl rfl) _) nofun blank (fun _ => List.cons_ne_nil _ _) ?_
    refine .cons logical nofun blank (fun _ => List.cons_ne_nil _ _) ?_
    refine .call function ?_
    change Writes _ _ (['('] ++ ([' '] ++ _))
    refine .cons (.punctuation rfl) nofun blank (fun _ => List.cons_ne_nil _ _) ?_
    refine .cons (.number proper fun _ => rfl) nofun blank (fun _ => List.cons_ne_nil _ _) ?_
    exact .cons (.punctuation rfl) nofun (List.forall_mem_nil _) (absurd rfl) (.nil _)
  exact ⟨blank, written, (tokenize_written blank written).1⟩

end Token
end SurveyLogic
