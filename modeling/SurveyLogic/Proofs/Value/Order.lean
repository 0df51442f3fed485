/-
# Equality and order of values

Both operators coerce their operands, equality pair by pair of kinds, order by first turning lists
into texts. They come to the same:

| operands | equal if | compared |
| --- | --- | --- |
| both a text or a list | the texts are | as texts |
| of other kinds, no `null`, no object | both have a number, and these are equal | as numbers |
| a `null` or an object among them | of one kind and the same | not at all |

Only two lists are equal by their items instead of by their texts, and lists with the same items
have the same text. So for operands that are not both lists, equality is the `eq` of the order
(`equality_is_order`), and both are indifferent to which operand stands first
(`comparison_symmetric`). No operand is read as NaN, so there is always an order once both operands
are found to be texts or numbers.
-/

import SurveyLogic.Operation
import SurveyLogic.Proofs.Number.Comparison
import SurveyLogic.Proofs.Number.Reading

namespace SurveyLogic
namespace Value

open Number

/-! ### Sameness -/

mutual

/-- Being the same is symmetric. -/
theorem same_comm : ∀ v w : Value, same v w = same w v
  | null, w => by cases w <;> rfl
  | bool a, w => by
    cases w with
    | bool b => exact Bool.beq_comm
    | _ => rfl
  | number x, w => by
    cases w with
    | number y => exact Number.beq_comm x y
    | _ => rfl
  | string s, w => by
    cases w with
    | string t => exact BEq.comm
    | _ => rfl
  | array items, w => by
    cases w with
    | array others => exact sameAll_comm items others
    | _ => rfl
  | object fields, w => by
    cases w with
    | object others => exact sameFields_comm fields others
    | _ => rfl

/-- Lists are the same in either order of the two. -/
theorem sameAll_comm : ∀ vs ws : List Value, sameAll vs ws = sameAll ws vs
  | [], [] => rfl
  | [], _ :: _ => rfl
  | _ :: _, [] => rfl
  | v :: vs, w :: ws => by rw [sameAll, sameAll, same_comm v w, sameAll_comm vs ws]

/-- Fields are the same in either order of the two. -/
theorem sameFields_comm : ∀ vs ws : List (String × Value), sameFields vs ws = sameFields ws vs
  | [], [] => rfl
  | [], _ :: _ => rfl
  | _ :: _, [] => rfl
  | (f, v) :: vs, (g, w) :: ws => by
    have names : (f == g) = (g == f) := BEq.comm
    rw [sameFields, sameFields, names, same_comm v w, sameFields_comm vs ws]

end

mutual

/-- Values that are the same have the same text. -/
theorem toText_of_same : ∀ v w : Value, same v w → v.toText = w.toText
  | null, w, h => by
    cases w with
    | null => rfl
    | _ => cases h
  | bool a, w, h => by
    cases w with
    | bool b => rw [beq_iff_eq.1 h]
    | _ => cases h
  | number x, w, h => by
    cases w with
    | number y => exact Number.answerText_congr h
    | _ => cases h
  | string s, w, h => by
    cases w with
    | string t => exact beq_iff_eq.1 h
    | _ => cases h
  | array items, w, h => by
    cases w with
    | array others => rw [toText, toText, toTexts_of_sameAll items others h]
    | _ => cases h
  | object fields, w, h => by
    cases w with
    | object others => rfl
    | _ => cases h

/-- Lists that are the same have items of the same texts. -/
theorem toTexts_of_sameAll : ∀ vs ws : List Value, sameAll vs ws → toTexts vs = toTexts ws
  | [], [], _ => rfl
  | [], _ :: _, h => by cases h
  | _ :: _, [], h => by cases h
  | v :: vs, w :: ws, h => by
    obtain ⟨first, others⟩ := Bool.and_eq_true_iff.1 h
    rw [toTexts, toTexts, toText_of_same v w first, toTexts_of_sameAll vs ws others]

end

/-! ### No value is read as NaN -/

/-- No text is read as NaN. -/
theorem isNaN_of_textNumber? {s : String} {x : Float} (h : textNumber? s = some x) :
    x.isNaN = false := by
  unfold textNumber? at h
  dsimp only at h
  split at h
  · rw [← Option.some.inj h]
    decide +kernel
  split at h
  · cases h
  · exact Number.isNaN_of_read? h

/-- **No value is read as NaN,** and no list either, however many lists of one item it is in. -/
theorem isNaN_of_toNumber? (v : Value) {x : Float} (h : v.toNumber? = some x) :
    x.isNaN = false := by
  fun_induction toNumber? v with
  | case1 | case6 =>
    rw [← Option.some.inj h]
    decide +kernel
  | case2 b =>
    rw [← Option.some.inj h]
    cases b <;> decide +kernel
  | case3 | case8 | case9 => cases h
  | case4 y number =>
    rw [← Option.some.inj h]
    exact Bool.eq_false_iff.2 number
  | case5 s => exact isNaN_of_textNumber? h
  | case7 item ih => exact ih h

/-- No number that a value carries of its own is NaN. -/
theorem isNaN_of_carriedNumber? {v : Value} {x : Float} (h : v.carriedNumber? = some x) :
    x.isNaN = false := by
  cases v with
  | null | array items | object fields => cases h
  | bool b => exact isNaN_of_toNumber? (.bool b) h
  | number y => exact isNaN_of_toNumber? (.number y) h
  | string s =>
    rw [carriedNumber?] at h
    split at h
    · cases h
    · exact isNaN_of_textNumber? h

/-! ### The order of texts and of numbers -/

/-- Texts compare the other way round with the operands changed round. -/
theorem compareTexts_swap (s t : String) : (compareTexts s t).swap = compareTexts t s := by
  unfold compareTexts
  rcases Std.lt_trichotomy s t with lt | rfl | gt
  · rw [if_pos lt, if_neg (String.lt_asymm lt), if_neg (String.ne_of_lt lt).symm]
    rfl
  · rw [if_neg (String.lt_irrefl s), if_pos rfl]
    rfl
  · rw [if_pos gt, if_neg (String.lt_asymm gt), if_neg (String.ne_of_lt gt).symm]
    rfl

/-- Only the same texts compare equal. -/
theorem compareTexts_eq_iff {s t : String} : compareTexts s t = .eq ↔ s = t := by
  unfold compareTexts
  constructor
  · intro h
    by_contra ne
    rw [if_neg ne] at h
    split at h <;> cases h
  · rintro rfl
    rw [if_neg (String.lt_irrefl s), if_pos rfl]

variable {x y : Float}

/-- Doubles compare as their parts do. -/
theorem compareNumbers?_eq_compare (x y : Float) :
    compareNumbers? x y = (parts x).compare (parts y) := by
  have flip : y < x ↔ (parts x).compare (parts y) = some .gt := by
    rw [lt_iff_compare, ← compare_swap, Option.map_eq_some_iff]
    simp
  unfold compareNumbers?
  simp only [lt_iff_compare, beq_iff_compare, flip]
  rcases (parts x).compare (parts y) with _ | _ | _ | _ <;> rfl

/-- Doubles compare the other way round with the operands changed round. -/
theorem compareNumbers?_swap (x y : Float) :
    (compareNumbers? x y).map Ordering.swap = compareNumbers? y x := by
  rw [compareNumbers?_eq_compare, compareNumbers?_eq_compare, compare_swap]

/-- Doubles compare equal if they are equal, with both zeros alike. -/
theorem compareNumbers?_eq_iff : compareNumbers? x y = some .eq ↔ x == y := by
  rw [compareNumbers?_eq_compare, beq_iff_compare]

/-- Only a NaN keeps two doubles from being compared. -/
theorem compareNumbers?_eq_none_iff : compareNumbers? x y = none ↔ x.isNaN ∨ y.isNaN := by
  rw [compareNumbers?_eq_compare, isNaN_eq_parts, isNaN_eq_parts, compare_eq_none_iff]

/-- The order of two numbers, if both are there. -/
def compareFound? (x? y? : Option Float) : Option Ordering :=
  x?.bind fun x => y?.bind fun y => compareNumbers? x y

/-- The same holds where a number may be missing. -/
theorem compareFound?_swap (x? y? : Option Float) :
    (compareFound? x? y?).map Ordering.swap = compareFound? y? x? := by
  cases x? <;> cases y?
  case some.some x y => exact compareNumbers?_swap x y
  all_goals rfl

/-- Without NaN among them, two numbers have an order if both are there. -/
theorem compareFound?_eq_none_iff {x? y? : Option Float}
    (hx : ∀ x, x? = some x → x.isNaN = false) (hy : ∀ y, y? = some y → y.isNaN = false) :
    compareFound? x? y? = none ↔ x? = none ∨ y? = none := by
  cases x? with
  | none => exact iff_of_true rfl (.inl rfl)
  | some x =>
    cases y? with
    | none => exact iff_of_true rfl (.inr rfl)
    | some y =>
      have ordered : compareNumbers? x y ≠ none := by
        rw [Ne, compareNumbers?_eq_none_iff, hx x rfl, hy y rfl]
        simp
      refine iff_of_false ordered ?_
      rintro (none | none)
      · cases none
      · cases none

/-! ### Operands of a comparison -/

/-- Neither `null` nor an object. -/
def isOrdered : Value → Bool
  | null => false
  | object _ => false
  | _ => true

/-- A text or a list. -/
def isTextual : Value → Bool
  | string _ => true
  | array _ => true
  | _ => false

/-- The number that an operand is compared as, if it has one. -/
def orderNumber? (v : Value) : Option Float :=
  v.comparand?.bind toNumber?

variable {v w : Value}

/-- Texts and lists are compared as texts. -/
theorem compare?_of_textual (hv : v.isTextual) (hw : w.isTextual) :
    v.compare? w = some (compareTexts v.toText w.toText) := by
  cases v <;> cases hv <;> cases w <;> cases hw <;> rfl

/-- All else is compared as numbers. -/
theorem compare?_of_not_textual (h : ¬(v.isTextual ∧ w.isTextual)) :
    v.compare? w = compareFound? v.orderNumber? w.orderNumber? := by
  unfold compare? compareFound? orderNumber?
  cases w with
  | null | object fields => cases v <;> exact (Option.bind_fun_none _).symm
  | bool b | number y => cases v <;> rfl
  | string t | array others =>
    cases v with
    | string s | array items => exact absurd ⟨rfl, rfl⟩ h
    | null | bool a | number x | object fields => rfl

/-- With the operands changed round, the order is reversed. -/
theorem compare?_swap (v w : Value) : (v.compare? w).map Ordering.swap = w.compare? v := by
  by_cases texts : v.isTextual ∧ w.isTextual
  · rw [compare?_of_textual texts.1 texts.2, compare?_of_textual texts.2 texts.1]
    exact congrArg some (compareTexts_swap _ _)
  · rw [compare?_of_not_textual texts, compare?_of_not_textual (texts ∘ And.symm),
      compareFound?_swap]

/-- An operand is not compared as NaN. -/
theorem isNaN_of_orderNumber? (h : v.orderNumber? = some x) : x.isNaN = false := by
  obtain ⟨w, -, found⟩ := Option.bind_eq_some_iff.1 h
  exact isNaN_of_toNumber? w found

/-- What is `null` or an object is compared as no number. -/
theorem orderNumber?_of_not_isOrdered (h : ¬v.isOrdered) : v.orderNumber? = none := by
  cases v <;> first | rfl | exact absurd rfl h

/-- Two operands have no order if one of them takes no part in it, or if they are not compared as
texts and one is no number. -/
theorem compare?_eq_none_iff :
    v.compare? w = none ↔ ¬v.isOrdered ∨ ¬w.isOrdered ∨
      ¬(v.isTextual ∧ w.isTextual) ∧ (v.orderNumber? = none ∨ w.orderNumber? = none) := by
  have ordered {u : Value} (h : u.isTextual) : u.isOrdered := by
    cases u <;> first | rfl | cases h
  by_cases texts : v.isTextual ∧ w.isTextual
  · rw [compare?_of_textual texts.1 texts.2]
    refine iff_of_false (Option.some_ne_none _) ?_
    rintro (none | none | ⟨apart, -⟩)
    · exact none (ordered texts.1)
    · exact none (ordered texts.2)
    · exact apart texts
  · have missing : v.compare? w = none ↔ v.orderNumber? = none ∨ w.orderNumber? = none := by
      rw [compare?_of_not_textual texts]
      exact compareFound?_eq_none_iff (fun _ => isNaN_of_orderNumber?)
        (fun _ => isNaN_of_orderNumber?)
    rw [missing]
    constructor
    · exact fun h => .inr (.inr ⟨texts, h⟩)
    · rintro (none | none | ⟨-, none⟩)
      · exact .inl (orderNumber?_of_not_isOrdered none)
      · exact .inr (orderNumber?_of_not_isOrdered none)
      · exact none

/-! ### Operands of equality -/

/-- A truth value as its number, any other value as it is. -/
def counted : Value → Value
  | bool b => number (bool b).toNumber
  | v => v

/-- Truth values are equal to what their numbers are equal to. -/
theorem looselyEqual_eq_counted (v w : Value) :
    v.looselyEqual w = equalPlain v.counted w.counted := by
  cases v with
  | bool a =>
    cases w with
    | bool b => cases a <;> cases b <;> decide +kernel
    | null | number x | string s | array items | object fields => rfl
  | null | number x | string s | array items | object fields => cases w <;> rfl

/-- A truth value is compared as its number. -/
theorem orderNumber?_counted (v : Value) : v.counted.orderNumber? = v.orderNumber? := by
  cases v with
  | bool b => cases b <;> decide +kernel
  | null | number x | string s | array items | object fields => rfl

/-- Equality of values other than lists is symmetric. -/
theorem equalPlain_comm (v w : Value) : equalPlain v w = equalPlain w v := by
  cases v <;> cases w
  case number.number x y => exact Number.beq_comm x y
  case string.string s t => exact BEq.comm
  case array.array vs ws => exact sameAll_comm vs ws
  case object.object fields others => exact sameFields_comm fields others
  case array.string items s => exact BEq.comm
  case string.array s items => exact BEq.comm
  all_goals rfl

/-- Equality is symmetric. -/
theorem looselyEqual_comm (v w : Value) : v.looselyEqual w = w.looselyEqual v := by
  rw [looselyEqual_eq_counted, equalPlain_comm, ← looselyEqual_eq_counted]

/-- A number is compared as itself, a NaN with no result. -/
theorem compareFound?_number (x : Float) (y? : Option Float) :
    compareFound? (number x).orderNumber? y? = y?.bind fun y => compareNumbers? x y := by
  change compareFound? (if x.isNaN then none else some x) y? = _
  split
  · rename_i nan
    have none (y : Float) : compareNumbers? x y = none := compareNumbers?_eq_none_iff.2 (.inl nan)
    simp only [none]
    exact (Option.bind_fun_none y?).symm
  · rfl

/-- Two numbers compare as themselves. -/
theorem compareFound?_numbers (x y : Float) :
    compareFound? (number x).orderNumber? (number y).orderNumber? = compareNumbers? x y := by
  rw [compareFound?_number]
  change (if y.isNaN then none else some y).bind _ = _
  split
  · rename_i nan
    exact (compareNumbers?_eq_none_iff.2 (.inr nan)).symm
  · rfl

/-- A text equals a number if the number that it writes compares equal. -/
theorem textEquals_iff (s : String) (x : Float) :
    textEquals s x ↔ compareFound? (number x).orderNumber? (textNumber? s) = some .eq := by
  rw [compareFound?_number, textEquals]
  cases textNumber? s with
  | none => simp
  | some y => rw [Option.any_some, Option.bind_some, compareNumbers?_eq_iff, Number.beq_comm]

/-- A number or truth value equals what its number compares equal to. -/
theorem looselyEqual_iff_of_number (hv : v.isOrdered) (hw : w.isOrdered) (apart : ¬v.isTextual) :
    v.looselyEqual w ↔ v.compare? w = some .eq := by
  have number : ∃ x, v.counted = number x := by
    cases v with
    | bool b => exact ⟨_, rfl⟩
    | number x => exact ⟨x, rfl⟩
    | null | object fields => cases hv
    | string s | array items => exact absurd rfl apart
  obtain ⟨x, form⟩ := number
  have numbers (y : Float) : equalPlain (.number x) (.number y) ↔
      compareFound? (Value.number x).orderNumber? (Value.number y).orderNumber? = some .eq := by
    rw [compareFound?_numbers, compareNumbers?_eq_iff]
    rfl
  rw [compare?_of_not_textual (apart ∘ And.left), looselyEqual_eq_counted,
    ← orderNumber?_counted v, form]
  cases w with
  | bool b =>
    rw [← orderNumber?_counted (bool b)]
    exact numbers (bool b).toNumber
  | number y => exact numbers y
  | string s => exact textEquals_iff s x
  | array items => exact textEquals_iff (array items).toText x
  | null | object fields => cases hw

/-- Operands that are not both texts or lists are equal if they compare so. -/
theorem looselyEqual_iff_of_not_textual (hv : v.isOrdered) (hw : w.isOrdered)
    (h : ¬(v.isTextual ∧ w.isTextual)) : v.looselyEqual w ↔ v.compare? w = some .eq := by
  by_cases left : v.isTextual
  · have right : ¬w.isTextual := fun right => h ⟨left, right⟩
    rw [looselyEqual_comm, looselyEqual_iff_of_number hw hv right, ← compare?_swap,
      Option.map_eq_some_iff]
    simp
  · exact looselyEqual_iff_of_number hv hw left

/-- Texts and lists, not both lists, are equal if their texts are. -/
theorem looselyEqual_of_textual (hv : v.isTextual) (hw : w.isTextual)
    (lists : ¬(v.toList?.isSome ∧ w.toList?.isSome)) :
    v.looselyEqual w = (v.toText == w.toText) := by
  cases v <;> cases hv <;> cases w <;> cases hw <;> first | rfl | exact absurd ⟨rfl, rfl⟩ lists

/-- Lists with the same items have the same text, and so compare equal. -/
theorem compare?_of_looselyEqual_lists {vs ws : List Value}
    (h : (array vs).looselyEqual (array ws)) : (array vs).compare? (array ws) = some .eq := by
  have same : (array vs).toText = (array ws).toText := toText_of_same (array vs) (array ws) h
  rw [compare?_of_textual rfl rfl, compareTexts_eq_iff.2 same]

/-- **Equality and order agree.** Of operands that are neither `null` nor objects, what is equal
compares equal. If they are not both lists, what compares equal is equal, and being neither greater
nor less is being equal. -/
theorem equality_is_order (v w : Value) (hv : v.isOrdered) (hw : w.isOrdered) :
    (v.looselyEqual w → v.compare? w = some .eq) ∧
      (¬(v.toList?.isSome ∧ w.toList?.isSome) →
        (v.compare? w = some .eq → v.looselyEqual w) ∧
        BinaryOp.and.apply (BinaryOp.le.apply v w) (BinaryOp.ge.apply v w) =
          BinaryOp.eq.apply v w) := by
  have agree (lists : ¬(v.toList?.isSome ∧ w.toList?.isSome)) :
      v.looselyEqual w ↔ v.compare? w = some .eq := by
    by_cases texts : v.isTextual ∧ w.isTextual
    · rw [looselyEqual_of_textual texts.1 texts.2 lists, compare?_of_textual texts.1 texts.2,
        Option.some_inj, compareTexts_eq_iff, beq_iff_eq]
    · exact looselyEqual_iff_of_not_textual hv hw texts
  constructor
  · intro equal
    by_cases lists : v.toList?.isSome ∧ w.toList?.isSome
    · cases v <;> cases lists.1
      cases w <;> cases lists.2
      exact compare?_of_looselyEqual_lists equal
    · exact (agree lists).1 equal
  · intro lists
    refine ⟨(agree lists).2, congrArg bool ?_⟩
    rw [Bool.eq_iff_iff, agree lists]
    simp only [BinaryOp.apply, truthy]
    rcases v.compare? w with _ | _ | _ | _ <;> decide

/-- The hypotheses of `equality_is_order` are satisfiable: an empty list in a list has the empty
text, which counts as zero, and so does `false`. -/
theorem equality_is_order_nested :
    (array [array []]).isOrdered ∧ (bool false).isOrdered ∧
      (array [array []]).looselyEqual (bool false) ∧
      (array [array []]).compare? (bool false) = some .eq ∧
      BinaryOp.and.apply (BinaryOp.le.apply (array [array []]) (bool false))
        (BinaryOp.ge.apply (array [array []]) (bool false)) =
          BinaryOp.eq.apply (array [array []]) (bool false) := by
  have agree := equality_is_order (array [array []]) (bool false) rfl rfl
  have equal : (array [array []]).looselyEqual (bool false) := by decide +kernel
  have apart : ¬((array [array []]).toList?.isSome ∧ (bool false).toList?.isSome) :=
    fun lists => Bool.false_ne_true lists.2
  exact ⟨rfl, rfl, equal, agree.1 equal, (agree.2 apart).2⟩

/-! Lists of different items may have the same text, so these are excepted. -/

example : (array [string "1"]).compare? (array [number 1.0]) = some .eq ∧
    (array [string "1"]).looselyEqual (array [number 1.0]) = false := by
  decide +kernel

/-- Whether an operator holds between two values. -/
def holds (op : BinaryOp) (v w : Value) : Bool :=
  (op.apply v w).truthy

/-- **Comparisons do not depend on which operand stands first.** Equality is symmetric, and the
order of two operands is the reverse of that of the operands changed round. They have no order
exactly if one is `null` or an object, or if they are not both a text or a list and one has no
number; then no operator of order holds, and otherwise exactly one of less, greater, and neither.
No value is read as NaN. -/
theorem comparison_symmetric (v w : Value) :
    v.looselyEqual w = w.looselyEqual v ∧
      v.compare? w = (w.compare? v).map Ordering.swap ∧
      BinaryOp.lt.apply v w = BinaryOp.gt.apply w v ∧
      BinaryOp.le.apply v w = BinaryOp.ge.apply w v ∧
      (v.compare? w = none ↔ ¬v.isOrdered ∨ ¬w.isOrdered ∨
        ¬(v.isTextual ∧ w.isTextual) ∧ (v.orderNumber? = none ∨ w.orderNumber? = none)) ∧
      (v.compare? w = none →
        ∀ op ∈ [BinaryOp.lt, .le, .gt, .ge], op.apply v w = bool false) ∧
      (v.compare? w ≠ none →
        [holds .lt v w, holds .gt v w, holds .le v w && holds .ge v w].count true = 1) ∧
      ∀ x, v.toNumber? = some x → x.isNaN = false := by
  have swap : v.compare? w = (w.compare? v).map Ordering.swap := (compare?_swap w v).symm
  refine ⟨looselyEqual_comm v w, swap, ?_, ?_, compare?_eq_none_iff, ?_, ?_,
    fun x => isNaN_of_toNumber? v⟩
  · rw [BinaryOp.apply, BinaryOp.apply, swap]
    rcases w.compare? v with _ | _ | _ | _ <;> rfl
  · rw [BinaryOp.apply, BinaryOp.apply, swap]
    rcases w.compare? v with _ | _ | _ | _ <;> rfl
  · intro none
    simp [BinaryOp.apply, none]
  · unfold holds BinaryOp.apply
    rcases v.compare? w with _ | _ | _ | _
    · intro some
      exact absurd rfl some
    all_goals
      intro _
      rfl

end Value
end SurveyLogic
