/-
# The compact text of a document determines it

No text of a document is the start of the text of another one, unless both are numbers; and what
stands behind a number inside a document is no character of numbers. So the documents in a text are
found one after the other from the front (`determined_chars`):

| document | where it ends |
| --- | --- |
| text | at the first quote that is not escaped |
| number | in front of the first character that no number has |
| list, object | with its bracket, the parts being found before |
| `null`, truth value | after the word |

The first character tells which of these there is. All of this is about documents whose numbers are
finite; the text of any other number is `null`.
-/

import SurveyLogic.Json.Printer
import SurveyLogic.Json.Reader
import SurveyLogic.Proofs.Number.Text

namespace SurveyLogic
namespace Json

/-! ### Texts in quotes -/

/-- A character that needs no escape is read for itself. -/
theorem string?_plain {c : Char} (quote : c ≠ '"') (backslash : c ≠ '\\') (high : 0x20 ≤ c.toNat)
    (cs : List Char) :
    Reader.string? 0 (c :: cs) =
      (Reader.string? 0 cs).map fun found => (c :: found.1, found.2) := by
  rw [Reader.string?]
  · rw [if_neg (Nat.not_lt.2 high)]
    cases Reader.string? 0 cs <;> rfl
  · exact quote
  · exact fun _ same => absurd same backslash
  · exact fun _ _ same => absurd same backslash

/-- A character that is escaped by a letter is read back. -/
theorem string?_letter {letter c : Char} (other : letter ≠ 'u')
    (meaning : Reader.escaped? letter = some c) (cs : List Char) :
    Reader.string? 0 ('\\' :: letter :: cs) =
      (Reader.string? 0 cs).map fun found => (c :: found.1, found.2) := by
  rw [Reader.string?]
  · rw [meaning]
    cases Reader.string? 0 cs <;> rfl
  · exact other

/-- A control character that is escaped by its number is read back. -/
theorem string?_control {c : Char} (low : c.toNat < 0x20) (cs : List Char) :
    Reader.string? 0 (['\\', 'u', '0', '0', Nat.digitChar (c.toNat / 16),
        Nat.digitChar (c.toNat % 16)] ++ cs) =
      (Reader.string? 0 cs).map fun found => (c :: found.1, found.2) := by
  have values : (List.range 0x20).all fun n => Reader.hexFour?
      ['0', '0', Nat.digitChar (n / 16), Nat.digitChar (n % 16)] == some n := by
    decide +kernel
  have value := beq_iff_eq.1 (List.all_eq_true.1 values c.toNat (List.mem_range.2 low))
  have single : (decide (0xd800 ≤ c.toNat) && decide (c.toNat < 0xdc00)) = false := by
    simp
    omega
  have back : Reader.charOfUnits? c.toNat none = some c := by
    rw [Reader.charOfUnits?, if_pos (Or.inl (by omega)), Char.ofNat_toNat]
  generalize Nat.digitChar (c.toNat / 16) = a at value ⊢
  generalize Nat.digitChar (c.toNat % 16) = b at value ⊢
  have skipped : Reader.string? 4 ('0' :: '0' :: a :: b :: cs) = Reader.string? 0 cs := by
    rw [Reader.string?, Reader.string?, Reader.string?, Reader.string?]
  change Reader.string? 0 ('\\' :: 'u' :: '0' :: '0' :: a :: b :: cs) = _
  rw [Reader.string?]
  change (do
    let high ← Reader.hexFour? ['0', '0', a, b]
    _) = _
  rw [value]
  simp only [Option.bind_eq_bind, Option.bind_some, single, Bool.false_eq_true, Bool.false_and,
    if_false, Option.any_none, back, skipped]
  cases Reader.string? 0 cs <;> rfl

/-- The reader takes the written form of a character for this character. -/
theorem string?_escape (c : Char) (cs : List Char) :
    Reader.string? 0 (escape c ++ cs) =
      (Reader.string? 0 cs).map fun found => (c :: found.1, found.2) := by
  unfold escape
  split
  iterate 7 exact string?_letter (by decide) rfl cs
  · split
    · rename_i low
      exact string?_control low cs
    · rename_i quote backslash _ _ _ _ _ high
      exact string?_plain quote backslash (Nat.le_of_not_lt high) cs

/-- **The reader reads back a text in quotes,** whatever stands behind it. -/
theorem string?_quote (s : String) (rest : List Char) :
    ∃ content, quote s ++ rest = '"' :: content ∧
      Reader.string? 0 content = some (s.toList, rest) := by
  refine ⟨s.toList.flatMap escape ++ '"' :: rest, ?_, ?_⟩
  · rw [quote, List.cons_append, List.cons_append, List.append_assoc]
    rfl
  · induction s.toList with
    | nil => rfl
    | cons c cs ih => rw [List.flatMap_cons, List.append_assoc, string?_escape, ih, Option.map_some]

/-- A text in quotes determines the text, whatever stands behind it. -/
theorem quote_append_inj {s t : String} {r r' : List Char} (h : quote s ++ r = quote t ++ r') :
    s = t ∧ r = r' := by
  obtain ⟨content, text, read⟩ := string?_quote s r
  obtain ⟨content', text', read'⟩ := string?_quote t r'
  rw [h, text'] at text
  rw [← (List.cons.inj text).2, read'] at read
  obtain ⟨same, rest⟩ := Prod.mk.inj (Option.some.inj read)
  exact ⟨String.toList_inj.1 same.symm, rest.symm⟩

/-! ### Numbers -/

/-- A text behind a number: none of its characters could go on with the number. -/
def Stops (rest : List Char) : Prop :=
  rest.takeWhile Number.isNumberChar = []

/-- A character that no number has stops a number. -/
theorem stops_cons {c : Char} (h : Number.isNumberChar c = false) (rest : List Char) :
    Stops (c :: rest) :=
  List.takeWhile_cons_of_neg (Bool.not_eq_true _ ▸ h)

/-- A number and what stands behind it are told apart by the first other character. -/
theorem append_inj_of_stops {ds ds' r r' : List Char} (all : ∀ c ∈ ds, Number.isNumberChar c)
    (all' : ∀ c ∈ ds', Number.isNumberChar c) (stops : Stops r) (stops' : Stops r')
    (h : ds ++ r = ds' ++ r') : ds = ds' ∧ r = r' := by
  have same := congrArg (List.takeWhile Number.isNumberChar) h
  rw [List.takeWhile_append_of_pos all, List.takeWhile_append_of_pos all', stops, stops',
    List.append_nil, List.append_nil] at same
  subst same
  exact ⟨rfl, List.append_cancel_left h⟩

/-- A sign or none, a digit, and characters of numbers. -/
def IsNumberText (text : List Char) : Prop :=
  ∃ negative cs, text = (Number.signed negative cs).toList ∧
    (∃ c rest, cs = c :: rest ∧ c.isDigit) ∧ ∀ c ∈ cs, Number.isNumberChar c

/-- The text of a number has characters of numbers only. -/
theorem IsNumberText.chars {text : List Char} (h : IsNumberText text) :
    ∀ c ∈ text, Number.isNumberChar c := by
  obtain ⟨negative, cs, rfl, -, all⟩ := h
  rw [Number.signed, String.toList_ofList]
  split
  · exact List.forall_mem_cons.2 ⟨rfl, all⟩
  · exact all

/-- An integer is written by its sign and the digits of its magnitude. -/
theorem toString_eq_signed (n : Int) :
    toString n = Number.signed (decide (n < 0)) (Number.natDigits n.natAbs) := by
  cases n with
  | ofNat n =>
    have nonneg : decide (Int.ofNat n < 0) = false := decide_eq_false (by simp)
    rw [nonneg]
    exact Nat.repr_eq_ofList_toDigits
  | negSucc n =>
    have negative : decide (Int.negSucc n < 0) = true := decide_eq_true (Int.negSucc_lt_zero n)
    rw [negative]
    change "-" ++ (n + 1).repr = _
    rw [Nat.repr_eq_ofList_toDigits]
    exact (@String.ofList_append ['-'] _).symm

/-- The digits of a natural number start with one. -/
theorem natDigits_first (n : Nat) : ∃ c rest, Number.natDigits n = c :: rest ∧ c.isDigit := by
  obtain ⟨c, cs, digits, first, -⟩ := Number.natDigits_eq_cons n
  exact ⟨c, cs, digits, first⟩

/-- An integer is written as a number. -/
theorem isNumberText_int (n : Int) : IsNumberText (chars (int n)) := by
  refine ⟨_, _, congrArg String.toList (toString_eq_signed n), ?_, fun c mem => ?_⟩
  · exact natDigits_first _
  · exact Number.isNumberChar_of_isDigit (Number.isDigit_of_mem_natDigits mem)

/-- A finite double is written by its sign and its shortest digits. -/
theorem chars_float {x : Float} {b : Number.Binary} (h : Number.toBinary? x = some b) :
    chars (float x) =
      (Number.signed b.negative
        (Number.shortest .toEven b.mantissa b.exponent).jsonText).toList := by
  rw [chars, numberText, Number.jsonText?_eq, h]
  rfl

/-- A finite double is written as a number. -/
theorem isNumberText_float {x : Float} {b : Number.Binary} (h : Number.toBinary? x = some b) :
    IsNumberText (chars (float x)) := by
  have unsigned := Number.isUnsigned_jsonText (Number.shortest .toEven b.mantissa b.exponent)
  exact ⟨_, _, chars_float h, unsigned.first, unsigned.chars⟩

/-- The text of an integer determines it. -/
theorem int_inj {n n' : Int} (h : chars (int n) = chars (int n')) : n = n' := by
  have texts : toString n = toString n' := String.toList_inj.1 h
  rw [toString_eq_signed, toString_eq_signed] at texts
  obtain ⟨sign, digits⟩ := Number.signed_inj (natDigits_first _) (natDigits_first _) texts
  have size := congrArg Number.digitsValue digits
  rw [Number.digitsValue_natDigits, Number.digitsValue_natDigits] at size
  rw [decide_eq_decide] at sign
  omega

/-- An integer is written without a point and an exponent, a double never is. -/
theorem int_ne_float {n : Int} {x : Float} {b : Number.Binary} (hx : Number.toBinary? x = some b) :
    chars (int n) ≠ chars (float x) := by
  intro h
  have unsigned := Number.isUnsigned_jsonText (Number.shortest .toEven b.mantissa b.exponent)
  rw [chars_float hx, chars, String.toList_inj, toString_eq_signed] at h
  obtain ⟨-, digits⟩ := Number.signed_inj (natDigits_first _) unsigned.first h
  rcases unsigned.marked with mem | mem
  · exact absurd (Number.isDigit_of_mem_natDigits (digits ▸ mem)) (by decide)
  · exact absurd (Number.isDigit_of_mem_natDigits (digits ▸ mem)) (by decide)

/-- The text of a finite double determines it. -/
theorem float_inj {x y : Float} {b b' : Number.Binary} (hx : Number.toBinary? x = some b)
    (hy : Number.toBinary? y = some b') (h : chars (float x) = chars (float y)) : x = y := by
  rw [chars_float hx, chars_float hy, String.toList_inj] at h
  refine Number.jsonText?_inj hx hy ?_
  rw [Number.jsonText?_eq, Number.jsonText?_eq, hx, hy, Option.map_some, Option.map_some, h]

/-! ### Parts of a document -/

/-- The text of `a` in front of a text is no text of anything else in front of one. -/
def Determined {α : Type} (good : α → Prop) (write : α → List Char) (a : α) : Prop :=
  ∀ b r s, good b → Stops r → Stops s → write a ++ r = write b ++ s → a = b ∧ r = s

/-- Behind the first of some parts nothing more follows, or a comma and the others. -/
theorem commaSeparated_cons_append (part : List Char) (parts : List (List Char))
    (rest : List Char) :
    commaSeparated (part :: parts) ++ rest =
      part ++ if parts = [] then rest else ',' :: (commaSeparated parts ++ rest) := by
  cases parts with
  | nil => rfl
  | cons next parts =>
    rw [if_neg (List.cons_ne_nil next parts), commaSeparated, List.append_assoc]
    · rfl
    · exact List.cons_ne_nil next parts

section

variable {α : Type} {good : α → Prop} {write : α → List Char} {close : Char}

/-- What stands behind a part: the bracket, or a comma and the other parts. -/
theorem stops_behind (bracket : Number.isNumberChar close = false) (parts : List (List Char))
    (rest : List Char) :
    Stops
      (if parts = [] then close :: rest else ',' :: (commaSeparated parts ++ close :: rest)) := by
  split
  · exact stops_cons bracket rest
  · exact stops_cons rfl _

/-- Parts that do not start with the closing bracket do not start like no parts. -/
theorem commaSeparated_ne_close {b : α} (starts : ∃ c cs, write b = c :: cs ∧ c ≠ close)
    (parts : List (List Char)) (r s : List Char) :
    commaSeparated (write b :: parts) ++ r ≠ close :: s := by
  obtain ⟨c, cs, text, other⟩ := starts
  rw [commaSeparated_cons_append, text]
  exact fun same => other (List.cons.inj same).1

/-- Parts in brackets are found one after the other. The induction is on the parts; a comma goes on,
the bracket ends. -/
theorem parts_determined (bracket : Number.isNumberChar close = false) (comma : close ≠ ',')
    (starts : ∀ b, good b → ∃ c cs, write b = c :: cs ∧ c ≠ close) {as : List α}
    (each : ∀ a ∈ as, good a ∧ Determined good write a) {bs : List α} (others : ∀ b ∈ bs, good b)
    {r s : List Char}
    (h : commaSeparated (as.map write) ++ close :: r =
      commaSeparated (bs.map write) ++ close :: s) :
    as = bs ∧ r = s := by
  induction as generalizing bs with
  | nil =>
    cases bs with
    | nil => exact ⟨rfl, (List.cons.inj h).2⟩
    | cons b bs =>
      exact absurd h.symm (commaSeparated_ne_close (starts b (others b List.mem_cons_self)) _ _ _)
  | cons a as ih =>
    obtain ⟨⟨goodA, first⟩, each⟩ := List.forall_mem_cons.1 each
    cases bs with
    | nil => exact absurd h (commaSeparated_ne_close (starts a goodA) _ _ _)
    | cons b bs =>
      obtain ⟨goodB, goodBs⟩ := List.forall_mem_cons.1 others
      rw [List.map_cons, List.map_cons, commaSeparated_cons_append, commaSeparated_cons_append] at h
      obtain ⟨rfl, behind⟩ :=
        first b _ _ goodB (stops_behind bracket _ r) (stops_behind bracket _ s) h
      -- Behind the first part stands the bracket or a comma, in both texts the same.
      cases as with
      | nil =>
        cases bs with
        | nil => exact ⟨rfl, (List.cons.inj behind).2⟩
        | cons b' bs => exact absurd (List.cons.inj behind).1 comma
      | cons a' as =>
        cases bs with
        | nil => exact absurd (List.cons.inj behind).1.symm comma
        | cons b' bs =>
          obtain ⟨rest, same⟩ := ih each goodBs (List.cons.inj behind).2
          exact ⟨congrArg (a :: ·) rest, same⟩

end

/-! ### Whole documents -/

mutual

/-- Whether all numbers of a document are finite. -/
def isFinite : Json → Bool
  | float x => (Number.toBinary? x).isSome
  | array items => allFinite items
  | object members => membersFinite members
  | _ => true

/-- Whether all numbers of some documents are finite. -/
def allFinite : List Json → Bool
  | [] => true
  | item :: items => isFinite item && allFinite items

/-- Whether all numbers under some members are finite. -/
def membersFinite : List (String × Json) → Bool
  | [] => true
  | (_, value) :: members => isFinite value && membersFinite members

end

/-- What the first character of a text stands for: one character for all that start a number, and
one for both that start a truth value. -/
def leading (c : Char) : Char :=
  if c.isDigit || c = '-' then '0' else if c = 'f' then 't' else c

/-- What the first character of a document stands for. -/
def tag : Json → Char
  | null => 'n'
  | bool _ => 't'
  | int _ => '0'
  | float _ => '0'
  | string _ => '"'
  | array _ => '['
  | object _ => '\x7b'

/-- The first character of a number stands for numbers. -/
theorem IsNumberText.leading {text : List Char} (h : IsNumberText text) :
    ∃ c cs, text = c :: cs ∧ leading c = '0' := by
  obtain ⟨negative, cs, rfl, ⟨c, rest, rfl, digit⟩, -⟩ := h
  rw [Number.signed, String.toList_ofList]
  cases negative with
  | true => exact ⟨'-', _, rfl, rfl⟩
  | false => exact ⟨c, rest, rfl, if_pos (by rw [digit]; rfl)⟩

/-- The text of a finite document starts with a character that stands for its kind. -/
theorem chars_leading {j : Json} (h : j.isFinite) :
    ∃ c cs, chars j = c :: cs ∧ leading c = j.tag := by
  cases j with
  | null => exact ⟨'n', _, rfl, rfl⟩
  | bool b => cases b <;> exact ⟨_, _, rfl, rfl⟩
  | int n => exact (isNumberText_int n).leading
  | float x =>
    obtain ⟨b, hb⟩ := Option.isSome_iff_exists.1 h
    exact (isNumberText_float hb).leading
  | string s => exact ⟨'"', _, rfl, rfl⟩
  | array items => exact ⟨'[', _, rfl, rfl⟩
  | object members => exact ⟨'\x7b', _, rfl, rfl⟩

/-- The first character tells the kinds of documents apart. -/
theorem tag_eq {j j' : Json} (h : j.isFinite) (h' : j'.isFinite) {r s : List Char}
    (same : chars j ++ r = chars j' ++ s) : j.tag = j'.tag := by
  obtain ⟨c, cs, text, lead⟩ := chars_leading h
  obtain ⟨c', cs', text', lead'⟩ := chars_leading h'
  rw [text, text'] at same
  rw [← lead, ← lead', (List.cons.inj same).1]

theorem itemChars_eq_map (items : List Json) : itemChars items = items.map chars := by
  induction items with
  | nil => rfl
  | cons item items ih => rw [itemChars, ih, List.map_cons]

/-- The text of a member. -/
def memberText (member : String × Json) : List Char :=
  quote member.1 ++ ':' :: chars member.2

theorem memberChars_eq_map (members : List (String × Json)) :
    memberChars members = members.map memberText := by
  induction members with
  | nil => rfl
  | cons member members ih =>
    obtain ⟨name, value⟩ := member
    rw [memberChars, ih, List.map_cons]
    rfl

/-- Each item of a finite array is finite. -/
theorem forall_isFinite {items : List Json} (h : allFinite items) :
    ∀ item ∈ items, item.isFinite := by
  induction items with
  | nil => exact List.forall_mem_nil _
  | cons item items ih =>
    obtain ⟨first, others⟩ := Bool.and_eq_true_iff.1 h
    exact List.forall_mem_cons.2 ⟨first, ih others⟩

/-- Each member of a finite object is finite. -/
theorem forall_member_isFinite {members : List (String × Json)} (h : membersFinite members) :
    ∀ member ∈ members, member.2.isFinite := by
  induction members with
  | nil => exact List.forall_mem_nil _
  | cons member members ih =>
    obtain ⟨first, others⟩ := Bool.and_eq_true_iff.1 h
    exact List.forall_mem_cons.2 ⟨first, ih others⟩

/-- No kind of document starts with a closing bracket. -/
theorem tag_ne_bracket (j : Json) : j.tag ≠ ']' := by
  cases j <;> simp [tag]

/-- The text of a finite document does not start with a closing bracket. -/
theorem chars_ne_bracket {j : Json} (h : j.isFinite) :
    ∃ c cs, chars j = c :: cs ∧ c ≠ ']' := by
  obtain ⟨c, cs, text, lead⟩ := chars_leading h
  refine ⟨c, cs, text, ?_⟩
  rintro rfl
  exact tag_ne_bracket j lead.symm

/-- A finite document of the kind of numbers is written as a number. -/
theorem isNumberText_of_tag {j : Json} (number : j.tag = '0') (h : j.isFinite) :
    IsNumberText (chars j) := by
  cases j with
  | int n => exact isNumberText_int n
  | float x =>
    obtain ⟨b, hb⟩ := Option.isSome_iff_exists.1 h
    exact isNumberText_float hb
  | _ => simp [tag] at number

/-- The text of a finite number determines it, whether integer or double. -/
theorem number_inj {j j' : Json} (number : j.tag = '0') (number' : j'.tag = '0') (h : j.isFinite)
    (h' : j'.isFinite) (same : chars j = chars j') : j = j' := by
  cases j with
  | int n =>
    cases j' with
    | int n' => rw [int_inj same]
    | float y =>
      obtain ⟨b, hb⟩ := Option.isSome_iff_exists.1 h'
      exact absurd same (int_ne_float hb)
    | _ => simp [tag] at number'
  | float x =>
    obtain ⟨b, hb⟩ := Option.isSome_iff_exists.1 h
    cases j' with
    | int n => exact absurd same.symm (int_ne_float hb)
    | float y =>
      obtain ⟨b', hb'⟩ := Option.isSome_iff_exists.1 h'
      rw [float_inj hb hb' same]
    | _ => simp [tag] at number'
  | _ => simp [tag] at number

/-- Finite documents, as a condition on what else a text could be. -/
abbrev Finite (j : Json) : Prop :=
  j.isFinite

/-- A finite number is found at the front of its text. -/
theorem determined_number {j : Json} (number : j.tag = '0') (h : j.isFinite) :
    Determined Finite chars j := by
  intro j' r s h' stops stops' same
  have number' : j'.tag = '0' := (tag_eq h h' same).symm.trans number
  obtain ⟨text, rest⟩ := append_inj_of_stops (isNumberText_of_tag number h).chars
    (isNumberText_of_tag number' h').chars stops stops' same
  exact ⟨number_inj number number' h h' text, rest⟩

/-- A member is found at the front of its text if its value is. -/
theorem determined_member {member : String × Json} (h : Determined Finite chars member.2) :
    Determined (fun other => Finite other.2) memberText member := by
  intro other r s finite stops stops' same
  rw [memberText, memberText, List.append_assoc, List.append_assoc] at same
  obtain ⟨names, behind⟩ := quote_append_inj same
  obtain ⟨values, rest⟩ := h other.2 r s finite stops stops' (List.cons.inj behind).2
  exact ⟨Prod.ext names values, rest⟩

/-- A truth value is found at the front of its text. -/
theorem determined_bool (b : Bool) : Determined Finite chars (bool b) := by
  intro j' r s h' _ _ same
  have tags := tag_eq (j := bool b) rfl h' same
  cases j' with
  | bool b' =>
    cases b <;> cases b'
    · exact ⟨rfl, List.append_cancel_left same⟩
    · exact absurd (List.cons.inj same).1 (by decide)
    · exact absurd (List.cons.inj same).1 (by decide)
    · exact ⟨rfl, List.append_cancel_left same⟩
  | _ => simp [tag] at tags

/-- A text is found at the front of what writes it. -/
theorem determined_string (t : String) : Determined Finite chars (string t) := by
  intro j' r s h' _ _ same
  have tags := tag_eq (j := string t) rfl h' same
  cases j' with
  | string t' =>
    obtain ⟨rfl, rest⟩ := quote_append_inj same
    exact ⟨rfl, rest⟩
  | _ => simp [tag] at tags

/-- An array is found at the front of its text if each item is. -/
theorem determined_array {items : List Json} (h : allFinite items)
    (each : ∀ item ∈ items, Finite item ∧ Determined Finite chars item) :
    Determined Finite chars (array items) := by
  intro j' r s h' _ _ same
  have tags := tag_eq (j := array items) h h' same
  cases j' with
  | array items' =>
    rw [chars, chars, itemChars_eq_map, itemChars_eq_map, List.append_assoc,
      List.append_assoc] at same
    have starts (item : Json) (finite : Finite item) := chars_ne_bracket finite
    obtain ⟨rfl, rest⟩ := parts_determined rfl (by decide) starts each (forall_isFinite h')
      (List.cons.inj same).2
    exact ⟨rfl, rest⟩
  | _ => simp [tag] at tags

/-- An object is found at the front of its text if each member is. -/
theorem determined_object {members : List (String × Json)} (h : membersFinite members)
    (each : ∀ member ∈ members, Finite member.2 ∧
      Determined (fun other => Finite other.2) memberText member) :
    Determined Finite chars (object members) := by
  intro j' r s h' _ _ same
  have tags := tag_eq (j := object members) h h' same
  cases j' with
  | object members' =>
    rw [chars, chars, memberChars_eq_map, memberChars_eq_map, List.append_assoc,
      List.append_assoc] at same
    have starts (member : String × Json) (_ : Finite member.2) :
        ∃ c cs, memberText member = c :: cs ∧ c ≠ '\x7d' :=
      ⟨'"', _, rfl, by decide⟩
    obtain ⟨rfl, rest⟩ := parts_determined rfl (by decide) starts each
      (forall_member_isFinite h') (List.cons.inj same).2
    exact ⟨rfl, rest⟩
  | _ => simp [tag] at tags

mutual

/-- **A document is found at the front of its text,** whatever stands behind it. -/
theorem determined_chars : ∀ j : Json, j.isFinite → Determined Finite chars j
  | .null, _ => by
    intro j' r s h' _ _ same
    have tags := tag_eq (j := null) rfl h' same
    cases j' with
    | null => exact ⟨rfl, List.append_cancel_left same⟩
    | _ => simp [tag] at tags
  | .bool b, _ => determined_bool b
  | .int _, h => determined_number rfl h
  | .float _, h => determined_number rfl h
  | .string t, _ => determined_string t
  | .array items, h => determined_array h (determined_items items h)
  | .object members, h => determined_object h (determined_members members h)

/-- Each item of a finite array is found at the front of its text. -/
theorem determined_items : ∀ items : List Json, allFinite items →
    ∀ item ∈ items, Finite item ∧ Determined Finite chars item
  | [], _ => List.forall_mem_nil _
  | item :: items, h =>
    have ⟨first, others⟩ := Bool.and_eq_true_iff.1 h
    List.forall_mem_cons.2 ⟨⟨first, determined_chars item first⟩, determined_items items others⟩

/-- Each member of a finite object is found at the front of its text. -/
theorem determined_members : ∀ members : List (String × Json), membersFinite members →
    ∀ member ∈ members, Finite member.2 ∧
      Determined (fun other => Finite other.2) memberText member
  | [], _ => List.forall_mem_nil _
  | (_, value) :: members, h =>
    have ⟨first, others⟩ := Bool.and_eq_true_iff.1 h
    List.forall_mem_cons.2 ⟨⟨first, determined_member (determined_chars value first)⟩,
      determined_members members others⟩

end

/-- **The compact text of a finite document determines it.** -/
theorem compact_inj {j j' : Json} (h : j.isFinite) (h' : j'.isFinite)
    (same : j.compact = j'.compact) : j = j' := by
  have texts : chars j ++ [] = chars j' ++ [] :=
    congrArg (· ++ []) (String.ofList_inj.1 same)
  exact (determined_chars j h j' [] [] h' List.takeWhile_nil List.takeWhile_nil texts).1

end Json
end SurveyLogic
