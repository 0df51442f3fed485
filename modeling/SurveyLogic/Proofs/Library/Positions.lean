/-
# Positions in a text

Three functions count the characters of a text: `length` all of them, `indexof` those before the
first occurrence of another text, and `substring` those before either of its bounds. A position is
a number, and a bound counts as its whole part, or as the nearer end where that is outside the text.

| text | | |
| --- | --- | --- |
| `été` | `indexof(…, "té")` | 1 |
| | `substring(…, 1, 1 + length("té"))` | `té` |
| | `substring(…, 9, 1)` | `té` |
-/

import SurveyLogic.Proofs.Library.Computed
import SurveyLogic.Proofs.Text.Search

namespace SurveyLogic
namespace Library

open Number (toInt?)

variable {σ : Type} {x y z : Float} {a b c : Int}

/-! ### Bounds -/

/-- A whole number moved to the nearest position in something of a length. -/
def within (length : Nat) (n : Int) : Nat :=
  min n.toNat length

/-- A greater number is moved to no smaller position. -/
theorem within_mono (length : Nat) : Monotone (within length) := by
  intro a b le
  unfold within
  omega

/-- The position of a double is that of its whole part. -/
theorem position_of_toInt? (length : Nat) (h : toInt? x = some a) :
    position length x = within length a := by
  obtain ⟨m, value, rfl⟩ := Option.map_eq_some_iff.1 h
  rw [position, value, within]
  dsimp only
  split
  · have below : (-(m.wholePart : Int)).toNat = 0 := by omega
    rw [below, Nat.zero_min]
  · rw [Int.toNat_natCast]

/-! ### Characters between two positions -/

/-- The characters between two positions do not depend on which one comes first. -/
theorem between_comm (cs : List Char) (i j : Nat) : between cs i j = between cs j i := by
  rw [between, between, Nat.max_comm, Nat.min_comm]

/-- The characters between two positions are those from the lower one to the higher. -/
theorem between_eq_extract (cs : List Char) (i j : Nat) :
    between cs i j = cs.extract (min i j) (max i j) := by
  rw [between, List.drop_take, List.extract]

/-- In front of a later position, they are those behind the earlier one, as many as lie between. -/
theorem between_of_le (cs : List Char) {i j : Nat} (le : i ≤ j) :
    between cs i j = (cs.drop i).take (j - i) := by
  rw [between_eq_extract, List.extract, Nat.max_eq_right le, Nat.min_eq_left le]

/-- Behind the characters up to a position stand those from it on. -/
theorem between_append (cs : List Char) {i j k : Nat} (le : i ≤ j) (le' : j ≤ k) :
    between cs i j ++ between cs j k = between cs i k := by
  have parts : k - i = (j - i) + (k - j) := by omega
  rw [between_of_le cs le, between_of_le cs le', between_of_le cs (le.trans le'), parts,
    List.take_add, List.drop_drop, Nat.add_sub_cancel' le]

/-- A part stands at a position exactly if it is between this one and the one its length behind. -/
theorem between_eq_iff (part whole : List Char) (i : Nat) :
    between whole i (i + part.length) = part ↔ part <+: whole.drop i := by
  rw [between_of_le whole (Nat.le_add_right i _), Nat.add_sub_cancel_left, List.prefix_iff_eq_take]
  exact eq_comm

/-! ### Parts of a text -/

/-- A substring with an end lies between the positions of its two bounds. -/
theorem substring_of_ne_null (s : String) (x : Float) {v : Value} (given : v ≠ .null) :
    substring s x v = String.ofList
      (between s.toList (position s.length x) (position s.length v.toNumber)) := by
  cases v with
  | null => exact absurd rfl given
  | _ => rfl

/-- A substring with an end does not depend on which bound comes first. -/
theorem substring_comm (s : String) {v w : Value} (given : v ≠ .null) (given' : w ≠ .null) :
    substring s v.toNumber w = substring s w.toNumber v := by
  rw [substring_of_ne_null _ _ given, substring_of_ne_null _ _ given', between_comm]

/-- With finite bounds, a substring lies between their whole parts. -/
theorem substring_of_toInt? (s : String) (first : toInt? x = some a) (last : toInt? y = some b) :
    substring s (Value.number x).toNumber (.number y) =
      String.ofList (between s.toList (within s.length a) (within s.length b)) := by
  rw [substring_of_ne_null _ _ Value.noConfusion, toNumber_number (Number.isNaN_of_toInt? first),
    toNumber_number (Number.isNaN_of_toInt? last), position_of_toInt? _ first,
    position_of_toInt? _ last]

/-- A substring up to a bound and one from it on make one substring. -/
theorem substring_append (s : String) (first : toInt? x = some a) (second : toInt? y = some b)
    (third : toInt? z = some c) (le : a ≤ b) (le' : b ≤ c) :
    substring s (Value.number x).toNumber (.number y) ++
        substring s (Value.number y).toNumber (.number z) =
      substring s (Value.number x).toNumber (.number z) := by
  have inside := within_mono s.length
  rw [substring_of_toInt? s first second, substring_of_toInt? s second third,
    substring_of_toInt? s first third, ← String.ofList_append,
    between_append _ (inside le) (inside le')]

/-- The characters from a position on, as many as a text has, spell it exactly if it stands
there. -/
theorem substring_eq_iff {h n : String} {i : Nat} (small : h.length < 2 ^ 53)
    (inside : i + n.length ≤ h.length) :
    substring h (whole i).toNumber (BinaryOp.add.apply (whole i) (whole n.length)) = n ↔
      n.toList <+: h.toList.drop i := by
  have sum : BinaryOp.add.apply (whole i) (whole n.length) = whole (i + n.length : Nat) :=
    whole_add (by omega) (by omega) (by omega)
  have first := @Number.toInt?_ofInt i (by omega)
  have last := @Number.toInt?_ofInt (i + n.length : Nat) (by omega)
  have start : within h.length i = i := by
    rw [within]
    omega
  have stop : within h.length (i + n.length : Nat) = i + n.toList.length := by
    rw [within, String.length_toList]
    omega
  rw [sum, whole, whole, substring_of_toInt? h first last, start, stop, ← between_eq_iff,
    ← String.toList_inj, String.toList_ofList]

/-! ### Values -/

/-- A position as a value, `-1` for none. -/
def place : Option Nat → Value
  | some i => whole i
  | none => whole (-1)

/-- Only a text that is not found has the place `-1`. -/
theorem place_eq_iff {found : Option Nat} (small : ∀ i ∈ found, i < 2 ^ 53) :
    place found = whole (-1) ↔ found = none := by
  cases found with
  | none => exact iff_of_true rfl rfl
  | some i =>
    refine iff_of_false (fun same => ?_) (Option.some_ne_none i)
    have less : i < 2 ^ 53 := small i rfl
    have natural := whole_inj (by omega) (by decide) same
    omega

section

variable (clock : σ → Int)

/-- An entry of the text functions computes what its function makes. -/
theorem computes_of_mem_texts {name : String} {f : List Value → Value}
    (mem : (name, plain f) ∈ texts) : Computes clock name fun _ => f :=
  computes_of_mem_timeless clock
    (List.mem_append_left _ (List.mem_append_left _ (List.mem_append_right _ mem)))

/-- `length` computes the number of characters or items. -/
theorem computes_length : Computes clock "length" fun _ args => whole (length (arg args 0)) :=
  computes_of_mem_texts clock (List.mem_of_getElem? (show texts[3]? = _ from rfl))

/-- `substring` computes the characters between its bounds. -/
theorem computes_substring :
    Computes clock "substring" fun _ args =>
      .string (substring (text args 0) (number args 1) (arg args 2)) :=
  computes_of_mem_texts clock (List.mem_of_getElem? (show texts[4]? = _ from rfl))

/-- `indexof` computes the place of the first occurrence, `-1` for none. -/
theorem computes_indexof :
    Computes clock "indexof" fun _ args => place (indexOf? (arg args 0) (arg args 1)) :=
  computes_of_mem_texts clock (List.mem_of_getElem? (show texts[7]? = _ from rfl))

end

/-- **The three functions mean the same positions.** A text stands in another one at the place that
is found, and at none before it; the place is `-1` exactly if it stands nowhere. Between two bounds
the characters are the same in either order, and they are those between the positions that the
whole parts of the bounds are moved to, for a whole number this number itself. Behind those up to a
second bound stand those up to a third. -/
theorem positions_agree (clock : σ → Int) :
    ∃ indexof substring length : List Value → Value,
      Computes clock "indexof" (fun _ => indexof) ∧
      Computes clock "substring" (fun _ => substring) ∧
      Computes clock "length" (fun _ => length) ∧
      (∀ h n : String, h.length < 2 ^ 53 →
        let found := indexof [.string h, .string n]
        let next (i : Nat) := substring [.string h, whole i,
          BinaryOp.add.apply (whole i) (length [.string n])]
        (found = whole (-1) ↔ ¬n.toList <:+: h.toList) ∧
        (n.toList <:+: h.toList → ∃ i : Nat, i + n.length ≤ h.length ∧ found = whole i ∧
          next i = .string n ∧ ∀ j < i, next j ≠ .string n)) ∧
      (∀ h v w : Value, v ≠ .null → w ≠ .null → substring [h, v, w] = substring [h, w, v]) ∧
      (∀ a : Int, a.natAbs < 2 ^ 53 → toInt? (Number.ofInt a) = some a) ∧
      (∀ (h : Value) (x y : Float) (a b : Int), toInt? x = some a → toInt? y = some b →
        let cs := h.toText.toList
        substring [h, .number x, .number y] = .string (String.ofList
          (cs.extract (within cs.length (min a b)) (within cs.length (max a b))))) ∧
      ∀ (h : Value) (x y z : Float) (a b c : Int),
        toInt? x = some a → toInt? y = some b → toInt? z = some c → a ≤ b → b ≤ c →
        BinaryOp.add.apply (substring [h, .number x, .number y])
          (substring [h, .number y, .number z]) = substring [h, .number x, .number z] := by
  refine ⟨_, _, _, computes_indexof clock, computes_substring clock, computes_length clock,
    ?_, ?_, fun a => Number.toInt?_ofInt, ?_, ?_⟩
  · intro h n small
    have inside {i : Nat} (found : Text.find? n.toList h.toList = some i) :
        i + n.length ≤ h.length := Text.add_length_le_of_find? found
    have few : ∀ i ∈ Text.find? n.toList h.toList, i < 2 ^ 53 := by
      intro i found
      have fits := inside found
      omega
    constructor
    · rw [← Text.find?_eq_none_iff]
      exact place_eq_iff few
    · intro somewhere
      obtain ⟨i, found⟩ := Text.exists_find? somewhere
      obtain ⟨stands, least⟩ := Text.find?_eq_some_iff.1 found
      refine ⟨i, inside found, congrArg place found, ?_, ?_⟩
      · exact congrArg Value.string ((substring_eq_iff small (inside found)).2 stands)
      · intro j sooner same
        have inside' : j + n.length ≤ h.length := by
          have fits := inside found
          omega
        exact least j sooner ((substring_eq_iff small inside').1 (Value.string.inj same))
  · intro h v w given given'
    exact congrArg Value.string (substring_comm h.toText given given')
  · intro h x y a b first last cs
    have inside := within_mono cs.length
    refine congrArg Value.string ((substring_of_toInt? h.toText first last).trans ?_)
    rw [between_eq_extract, inside.map_min, inside.map_max]
    rfl
  · intro h x y z a b c first second third le le'
    exact congrArg Value.string (substring_append h.toText first second third le le')

/-- The hypotheses of `positions_agree` are satisfiable, with characters of two bytes before and
inside of what is sought and with a bound behind the end. -/
theorem positions_agree_accents :
    let h := "été"
    let n := "té"
    h.length < 2 ^ 53 ∧ n.toList <:+: h.toList ∧
      toInt? (Number.ofInt 1) = some 1 ∧ toInt? (Number.ofInt 9) = some 9 ∧
      ∃ indexof substring length : List Value → Value,
        Computes (id : Int → Int) "indexof" (fun _ => indexof) ∧
        Computes (id : Int → Int) "substring" (fun _ => substring) ∧
        Computes (id : Int → Int) "length" (fun _ => length) ∧
        (∃ i : Nat, indexof [.string h, .string n] = whole i ∧
          substring [.string h, whole i,
            BinaryOp.add.apply (whole i) (length [.string n])] = .string n) ∧
        substring [.string h, whole 9, whole 1] = .string n ∧
        BinaryOp.add.apply (substring [.string h, whole 1, whole 1])
          (substring [.string h, whole 1, whole 9]) = .string n := by
  intro h n
  have small : h.length < 2 ^ 53 := by decide +kernel
  have somewhere : n.toList <:+: h.toList := ⟨['é'], [], by decide +kernel⟩
  obtain ⟨indexof, substring, length, indexes, cuts, counts, stands, order, reads, inside,
      append⟩ :=
    positions_agree (id : Int → Int)
  have one : toInt? (Number.ofInt 1) = some 1 := reads 1 (by decide)
  have nine : toInt? (Number.ofInt 9) = some 9 := reads 9 (by decide)
  obtain ⟨i, -, found, spelled, -⟩ := (stands h n small).2 somewhere
  have reversed := order (.string h) (whole 9) (whole 1) Value.noConfusion Value.noConfusion
  have cut : substring [.string h, whole 1, whole 9] = .string n :=
    (inside (.string h) _ _ 1 9 one nine).trans (congrArg Value.string (by decide +kernel))
  exact ⟨small, somewhere, one, nine, indexof, substring, length, indexes, cuts, counts,
    ⟨i, found, spelled⟩, reversed.trans cut,
    (append (.string h) _ _ _ 1 1 9 one one nine (by decide) (by decide)).trans cut⟩

end Library
end SurveyLogic
