/-
# Which answers are addresses

An address is a text without blanks and with a single `@`, which has something in front of it and
behind it a point that is neither the first nor the last character there (`IsAddress`). It is also
what the pattern `addressPattern` matches, whichever point the search takes for the one the pattern
asks for. Behind both stands that an address is made of plain characters, which are no blanks and no
`@`, and two marks between them:

| part | text |
| --- | --- |
| address | a plain character, others, `@`, a domain |
| domain | a plain character, others, a point, a zone |
| zone | a plain character and others |

A text is read in this form by the rule, from state to state (`EmailState.wants_cons`), and by a run
of the pattern (`completes_parted`). So the rule finds nothing in a blank answer or an address, and
one failure in any other answer (`email_accepts_addresses`).
-/

import SurveyLogic.Proofs.Pattern.Run
import SurveyLogic.Validation.Rule

namespace SurveyLogic

namespace Pattern

deriving instance DecidableEq for Instruction
deriving instance DecidableEq for Program

end Pattern

namespace Validation

/-- What an address is. -/
def IsAddress (s : String) : Prop :=
  (∀ c ∈ s.toList, Text.isBlank c = false) ∧ s.toList.count '@' = 1 ∧
    ∃ user domain, s.toList = user ++ '@' :: domain ∧ user ≠ [] ∧
      ∃ i, 0 < i ∧ i + 1 < domain.length ∧ domain[i]? = some '.'

/-! ### Parts -/

/-- A character of an address other than its `@`. -/
def isPlain (c : Char) : Bool :=
  !Text.isBlank c && c != '@'

/-- A point is plain. -/
theorem isPlain_point : isPlain '.' = true := by
  decide

/-- An `@` is not plain. -/
theorem isPlain_mark : isPlain '@' = false := by
  decide

/-- A plain character is not blank. -/
theorem isBlank_of_isPlain {c : Char} (h : isPlain c) : Text.isBlank c = false := by
  rw [isPlain, Bool.and_eq_true, Bool.not_eq_true'] at h
  exact h.1

/-- A plain character in front of such a text. -/
def Headed (P : List Char → Prop) (cs : List Char) : Prop :=
  ∃ c rest, cs = c :: rest ∧ isPlain c ∧ P rest

/-- Plain characters and a mark in front of such a text. -/
def Parted (mark : Char) (P : List Char → Prop) (cs : List Char) : Prop :=
  ∃ front rest, cs = front ++ mark :: rest ∧ (∀ c ∈ front, isPlain c) ∧ P rest

/-- Nothing but plain characters. -/
def AllPlain (cs : List Char) : Prop :=
  ∀ c ∈ cs, isPlain c

/-- What follows the point of a domain. -/
def IsZone : List Char → Prop :=
  Headed AllPlain

/-- What follows the `@` of an address. -/
def IsDomain : List Char → Prop :=
  Headed (Parted '.' IsZone)

variable {P : List Char → Prop} {mark c : Char} {cs : List Char}

/-- An empty text has no first character. -/
theorem not_headed_nil : ¬ Headed P [] := by
  rintro ⟨c, rest, cons, -⟩
  cases cons

/-- A first character counts if it is plain and the rest is as wanted. -/
theorem headed_cons : Headed P (c :: cs) ↔ isPlain c ∧ P cs := by
  constructor
  · rintro ⟨d, rest, cons, plain, holds⟩
    obtain ⟨rfl, rfl⟩ := List.cons.inj cons
    exact ⟨plain, holds⟩
  · rintro ⟨plain, holds⟩
    exact ⟨c, cs, rfl, plain, holds⟩

/-- An empty text has no mark. -/
theorem not_parted_nil : ¬ Parted mark P [] := by
  rintro ⟨front, rest, cut, -⟩
  cases front <;> cases cut

/-- The first character is the mark, or it is plain and the mark comes later. -/
theorem parted_cons : Parted mark P (c :: cs) ↔ c = mark ∧ P cs ∨ isPlain c ∧ Parted mark P cs := by
  constructor
  · rintro ⟨front, rest, cut, plain, holds⟩
    cases front with
    | nil =>
      obtain ⟨rfl, rfl⟩ := List.cons.inj cut
      exact .inl ⟨rfl, holds⟩
    | cons d front =>
      obtain ⟨rfl, rfl⟩ := List.cons.inj cut
      obtain ⟨first, others⟩ := List.forall_mem_cons.1 plain
      exact .inr ⟨first, front, rest, rfl, others, holds⟩
  · rintro (⟨rfl, holds⟩ | ⟨first, front, rest, rfl, others, holds⟩)
    · exact ⟨[], cs, rfl, fun _ mem => absurd mem List.not_mem_nil, holds⟩
    · exact ⟨c :: front, rest, rfl, List.forall_mem_cons.2 ⟨first, others⟩, holds⟩

/-- At least one plain character is a text of plain characters that is not empty. -/
theorem headed_allPlain_iff : Headed AllPlain cs ↔ cs ≠ [] ∧ ∀ c ∈ cs, isPlain c := by
  cases cs with
  | nil => simp [not_headed_nil]
  | cons c cs => simp [headed_cons, AllPlain]

/-- At least one plain character in front of the mark, told by the split at the mark. -/
theorem headed_parted_iff :
    Headed (Parted mark P) cs ↔ ∃ front rest, cs = front ++ mark :: rest ∧ front ≠ [] ∧
      (∀ c ∈ front, isPlain c) ∧ P rest := by
  constructor
  · rintro ⟨c, cs, rfl, first, front, rest, rfl, others, holds⟩
    exact ⟨c :: front, rest, rfl, List.cons_ne_nil _ _, List.forall_mem_cons.2 ⟨first, others⟩,
      holds⟩
  · rintro ⟨front, rest, rfl, some, plain, holds⟩
    cases front with
    | nil => exact absurd rfl some
    | cons c front =>
      obtain ⟨first, others⟩ := List.forall_mem_cons.1 plain
      exact ⟨c, front ++ mark :: rest, rfl, first, front, rest, rfl, others, holds⟩

/-! ### The form of an address -/

/-- A text of plain characters is a domain if some point in it has characters on both sides. -/
theorem isDomain_iff (plain : ∀ c ∈ cs, isPlain c) :
    IsDomain cs ↔ ∃ i, 0 < i ∧ i + 1 < cs.length ∧ cs[i]? = some '.' := by
  rw [IsDomain, headed_parted_iff]
  constructor
  · rintro ⟨site, zone, rfl, some, -, proper⟩
    have length : zone.length ≠ 0 := fun none =>
      (headed_allPlain_iff.1 proper).1 (List.length_eq_zero_iff.1 none)
    refine ⟨site.length, List.length_pos_iff.2 some, ?_, ?_⟩
    · rw [List.length_append, List.length_cons]
      omega
    · rw [List.getElem?_append_right (Nat.le_refl _), Nat.sub_self, List.getElem?_cons_zero]
  · rintro ⟨i, first, last, point⟩
    obtain ⟨inside, point⟩ := List.getElem?_eq_some_iff.1 point
    have cut : cs = cs.take i ++ '.' :: cs.drop (i + 1) := by
      rw [← point, List.getElem_cons_drop, List.take_append_drop]
    refine ⟨cs.take i, cs.drop (i + 1), cut, fun none => ?_,
      fun c mem => plain c (List.mem_of_mem_take mem), headed_allPlain_iff.2 ⟨fun none => ?_,
        fun c mem => plain c (List.mem_of_mem_drop mem)⟩⟩
    · have length := congrArg List.length none
      rw [List.length_take_of_le (Nat.le_of_lt inside), List.length_nil] at length
      omega
    · have length := congrArg List.length none
      rw [List.length_drop, List.length_nil] at length
      omega

/-- A domain has plain characters only. -/
theorem IsDomain.plain (h : IsDomain cs) : ∀ c ∈ cs, isPlain c := by
  obtain ⟨site, zone, rfl, -, plain, proper⟩ := headed_parted_iff.1 h
  exact List.forall_mem_append.2 ⟨plain, List.forall_mem_cons.2 ⟨isPlain_point,
    (headed_allPlain_iff.1 proper).2⟩⟩

/-- A text of plain characters has no `@`. -/
theorem count_mark_of_plain (plain : ∀ c ∈ cs, isPlain c) : cs.count '@' = 0 :=
  List.count_eq_zero.2 fun mem => Bool.false_ne_true (isPlain_mark.symm.trans (plain '@' mem))

/-- **An address is made of plain characters with an `@` and a point between them.** -/
theorem isAddress_iff (s : String) : IsAddress s ↔ Headed (Parted '@' IsDomain) s.toList := by
  rw [headed_parted_iff]
  constructor
  · rintro ⟨full, single, user, domain, cut, some, point⟩
    rw [cut] at full single
    rw [List.count_append, List.count_cons_self] at single
    have plain {part : List Char} (none : part.count '@' = 0)
        (within : ∀ c ∈ part, c ∈ user ++ '@' :: domain) : ∀ c ∈ part, isPlain c := by
      intro c mem
      have other : c ≠ '@' := by
        rintro rfl
        exact List.count_eq_zero.1 none mem
      rw [isPlain, full c (within c mem)]
      simpa using other
    have front : ∀ c ∈ user, isPlain c := plain (by omega) fun _ => List.mem_append_left _
    have back : ∀ c ∈ domain, isPlain c :=
      plain (by omega) fun _ mem => List.mem_append_right _ (List.mem_cons_of_mem _ mem)
    exact ⟨user, domain, cut, some, front, (isDomain_iff back).2 point⟩
  · rintro ⟨user, domain, cut, some, front, proper⟩
    have back := proper.plain
    refine ⟨?_, ?_, user, domain, cut, some, (isDomain_iff back).1 proper⟩
    · rw [cut]
      have mark : Text.isBlank '@' = false := by decide
      exact List.forall_mem_append.2 ⟨fun c mem => isBlank_of_isPlain (front c mem),
        List.forall_mem_cons.2 ⟨mark, fun c mem => isBlank_of_isPlain (back c mem)⟩⟩
    · rw [cut, List.count_append, List.count_cons_self, count_mark_of_plain front,
        count_mark_of_plain back]

/-! ### Character by character -/

namespace EmailState

/-- The texts that lead from a state to an address. -/
def Wants : EmailState → List Char → Prop
  | start => Headed (Parted '@' IsDomain)
  | user => Parted '@' IsDomain
  | «at» => IsDomain
  | domain => Parted '.' IsZone
  | point => IsZone
  | whole => AllPlain
  | stuck => fun _ => False

/-- An empty rest is wanted by the last state only. -/
theorem wants_nil (state : EmailState) : state.Wants [] ↔ state = .whole := by
  cases state <;>
    simp [Wants, IsDomain, IsZone, AllPlain, not_headed_nil, not_parted_nil]

/-- A plain character moves the states on, and a point does so behind the first of a domain. -/
theorem next_of_isPlain (plain : isPlain c) (state : EmailState) :
    state.next c = match state with
      | start => user
      | user => user
      | «at» => domain
      | domain => if c = '.' then point else domain
      | point => whole
      | whole => whole
      | stuck => stuck := by
  rw [isPlain, Bool.and_eq_true, Bool.not_eq_true', bne_iff_ne] at plain
  exact (if_neg (Bool.eq_false_iff.1 plain.1)).trans (if_neg plain.2)

/-- Of all other characters only an `@` behind a user leads on. -/
theorem next_of_not_isPlain (other : isPlain c = false) (state : EmailState) :
    state.next c = if c = '@' ∧ state = .user then «at» else stuck := by
  by_cases mark : c = '@'
  · subst mark
    cases state <;> rfl
  · have blank : Text.isBlank c := by simpa [isPlain, mark] using other
    rw [if_neg fun both => mark both.1]
    exact if_pos blank

/-- A point is plain, so a domain may have further ones. -/
theorem isZone_of_parted (h : Parted '.' IsZone cs) : IsZone cs := by
  obtain ⟨front, rest, rfl, plain, zone⟩ := h
  refine headed_allPlain_iff.2 ⟨List.append_ne_nil_of_right_ne_nil _ (List.cons_ne_nil _ _), ?_⟩
  exact List.forall_mem_append.2 ⟨plain,
    List.forall_mem_cons.2 ⟨isPlain_point, (headed_allPlain_iff.1 zone).2⟩⟩

/-- **What a state wants, the next one wants of what is left.** -/
theorem wants_cons (state : EmailState) (c : Char) (cs : List Char) :
    state.Wants (c :: cs) ↔ (state.next c).Wants cs := by
  by_cases plain : isPlain c
  · have mark : c ≠ '@' := by
      rintro rfl
      exact Bool.false_ne_true (isPlain_mark.symm.trans plain)
    rw [next_of_isPlain plain]
    cases state with
    | start | «at» | point => simp [Wants, IsDomain, IsZone, headed_cons, plain]
    | user => simp [Wants, parted_cons, plain, mark]
    | domain =>
      by_cases point : c = '.'
      · simpa [Wants, parted_cons, isPlain_point, point] using isZone_of_parted
      · simp [Wants, parted_cons, plain, point]
    | whole => simp [Wants, AllPlain, plain]
    | stuck => rfl
  · rw [next_of_not_isPlain (Bool.eq_false_iff.2 plain)]
    have point : c ≠ '.' := by
      rintro rfl
      exact plain isPlain_point
    cases state with
    | user =>
      by_cases mark : c = '@'
      · simp [Wants, parted_cons, mark, isPlain_mark]
      · simp [Wants, parted_cons, mark, plain]
    | _ => simp [Wants, IsDomain, IsZone, AllPlain, headed_cons, parted_cons, plain, point]

/-- The states come to the last one exactly on the texts that the first of them wants. -/
theorem foldl_next_eq_whole (state : EmailState) (cs : List Char) :
    cs.foldl next state = .whole ↔ state.Wants cs := by
  induction cs generalizing state with
  | nil => exact (wants_nil state).symm
  | cons c cs ih => rw [List.foldl_cons, ih, wants_cons]

end EmailState

/-- **The rule reads addresses.** -/
theorem isEmail_iff (s : String) : isEmail s ↔ IsAddress s := by
  rw [isEmail, beq_iff_eq, EmailState.foldl_next_eq_whole, isAddress_iff]
  rfl

/-! ### By pattern -/

/-- The pattern of addresses. -/
def addressPattern : String :=
  "^[^\\s@]+@[^\\s@]+\\.[^\\s@]+$"

/-- The plain characters. -/
def plainSet : Pattern.CharSet := [
  (0x0, 0x8), (0xe, 0x1f), (0x21, 0x3f), (0x41, 0x84), (0x86, 0x9f), (0xa1, 0x167f),
  (0x1681, 0x1fff), (0x200b, 0x2027), (0x202a, 0x202e), (0x2030, 0x205e), (0x2060, 0x2fff),
  (0x3001, 0x10ffff)]

/-- The program of `addressPattern`. -/
def addressProgram : Pattern.Program where
  code := #[.look .textStart, .set plainSet, .fork 1 3, .set (Pattern.CharSet.single '@'),
    .set plainSet, .fork 4 6, .set (Pattern.CharSet.single '.'), .set plainSet, .fork 7 9,
    .look .textEnd, .accept]
  groups := 0
  names := []

/-- The pattern of addresses compiles to their program. -/
theorem ofText_addressPattern : Pattern.Program.ofText addressPattern = .ok addressProgram := by
  have read : (Pattern.Program.ofText addressPattern).toOption = some addressProgram := by
    decide +kernel
  cases h : Pattern.Program.ofText addressPattern with
  | error e => rw [h] at read; cases read
  | ok p => rw [h] at read; exact congrArg Except.ok (Option.some.inj read)

/-- The set of the program holds the plain characters. -/
theorem has_plainSet (c : Char) : plainSet.has c = isPlain c := by
  have most : c.toNat < 0x110000 := by
    rcases c.valid with low | high
    · exact Nat.lt_trans low (by decide)
    · exact high.2
  have mark : c = '@' ↔ c.toNat = 0x40 := Char.toNat_inj.symm
  rw [Bool.eq_iff_iff]
  simp only [Pattern.CharSet.has, plainSet, Text.Ranges.covers, isPlain, Text.isBlank, mark,
    Bool.and_eq_true, Bool.or_eq_true, Bool.not_eq_true', Bool.or_eq_false_iff,
    Bool.and_eq_false_iff, decide_eq_true_eq, decide_eq_false_iff_not, beq_eq_false_iff_ne,
    bne_iff_ne, ne_eq]
  omega

/-- Where a set of plain characters loops in front of a mark, a run takes plain characters and the
mark. -/
theorem completes_parted (code : Array Pattern.Instruction) (pc : Nat)
    (here : code[pc]? = some (.set plainSet)) (back : code[pc + 1]? = some (.fork pc (pc + 2)))
    (sign : code[pc + 2]? = some (.set (Pattern.CharSet.single mark)))
    (behind : ∀ front rest, Pattern.Completes code (pc + 3) front rest ↔ P rest)
    (front rest : List Char) :
    Pattern.Completes code pc front rest ↔ Headed (Parted mark P) rest := by
  rw [Pattern.completes_some here back, headed_parted_iff]
  constructor
  · rintro ⟨cs, others, rfl, some, plain, run⟩
    obtain ⟨c, rest, rfl, same, goes⟩ := (Pattern.completes_set sign).1 run
    obtain rfl := Pattern.CharSet.has_single.1 same
    exact ⟨cs, rest, rfl, some, fun c mem => has_plainSet c ▸ plain c mem, (behind _ _).1 goes⟩
  · rintro ⟨cs, rest, rfl, some, plain, holds⟩
    refine ⟨cs, mark :: rest, rfl, some, fun c mem => (has_plainSet c).trans (plain c mem), ?_⟩
    exact (Pattern.completes_set sign).2
      ⟨mark, rest, rfl, Pattern.CharSet.has_single.2 rfl, (behind _ _).2 holds⟩

/-- The zone of an address is all that is left. -/
theorem completes_zone (front rest : List Char) :
    Pattern.Completes addressProgram.code 7 front rest ↔ IsZone rest := by
  rw [Pattern.completes_some rfl rfl, IsZone, headed_allPlain_iff]
  constructor
  · rintro ⟨cs, others, rfl, some, plain, run⟩
    obtain ⟨rfl, -⟩ := (Pattern.completes_textEnd rfl).1 run
    rw [List.append_nil]
    exact ⟨some, fun c mem => has_plainSet c ▸ plain c mem⟩
  · rintro ⟨some, plain⟩
    refine ⟨rest, [], (List.append_nil _).symm, some,
      fun c mem => (has_plainSet c).trans (plain c mem), ?_⟩
    exact (Pattern.completes_textEnd rfl).2 ⟨rfl, Pattern.completes_accept rfl⟩

/-- **The pattern matches addresses.** -/
theorem isMatch_addressProgram (s : String) : addressProgram.isMatch s ↔ IsAddress s := by
  have address := completes_parted addressProgram.code 1 rfl rfl rfl
    (completes_parted _ 4 rfl rfl rfl completes_zone)
  rw [Pattern.Program.isMatch_iff_completes, isAddress_iff]
  constructor
  · rintro ⟨front, rest, cut, run⟩
    obtain ⟨rfl, goes⟩ := (Pattern.completes_textStart rfl).1 run
    rw [cut]
    exact (address _ _).1 goes
  · intro holds
    exact ⟨[], s.toList, rfl, (Pattern.completes_textStart rfl).2 ⟨rfl, (address _ _).2 holds⟩⟩

/-! ### The rule -/

variable {σ : Type}

/-- **The rule finds nothing in a blank answer and in an address, and one failure in anything
else,** in the words of the validator if it has some. It looks at the text of an answer, changes
nothing, and decides as the search for `addressPattern` does. -/
theorem email_accepts_addresses (message : Option String) (v : Value) (all : Bindings Value)
    (engine : Engine σ) :
    let found : List String × Engine σ := messages ⟨message, .email⟩ v all engine
    let failure := message.getD "Please enter a valid email address"
    (found = ([], engine) ↔ v.isBlank ∨ IsAddress v.toText) ∧
      (found = ([failure], engine) ↔ ¬ (v.isBlank ∨ IsAddress v.toText)) ∧
      ∃ p, Pattern.Program.ofText addressPattern = .ok p ∧ ∀ s, p.isMatch s = isEmail s := by
  intro found failure
  have same (s : String) : addressProgram.isMatch s = isEmail s := by
    rw [Bool.eq_iff_iff, isMatch_addressProgram, isEmail_iff]
  have accepted : (v.isBlank || isEmail v.toText) = true ↔ v.isBlank ∨ IsAddress v.toText := by
    rw [Bool.or_eq_true, isEmail_iff]
  have made : found = (if v.isBlank || isEmail v.toText then [] else [failure], engine) := by
    change (List.map _ (failures v .email), engine) = _
    rw [failures]
    split <;> rfl
  have apart : (([], engine) : List String × Engine σ) ≠ ([failure], engine) := fun h =>
    List.cons_ne_nil _ _ (congrArg Prod.fst h).symm
  rw [← accepted]
  refine ⟨?_, ?_, addressProgram, ofText_addressPattern, same⟩
  · rw [made]
    split
    · rename_i passes
      exact iff_of_true rfl passes
    · rename_i fails
      exact iff_of_false apart.symm fails
  · rw [made]
    split
    · rename_i passes
      exact iff_of_false apart (not_not.2 passes)
    · rename_i fails
      exact iff_of_true rfl fails

end Validation
end SurveyLogic
