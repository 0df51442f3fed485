/-
# Occurrences and pieces

A search goes through a text from the left, so it ends at the least position where the part stands
(`find?_eq_some_iff`) and fails only if the part stands nowhere (`find?_eq_none_iff`).

Cutting a text is searching again and again behind what was found. Whatever the separator overlaps
with, the pieces with the separators between them are the text (`intercalate_splitOn`). If it is a
single character, a search stops at its first occurrence, so the pieces are those of `List.splitOn`.

| text, separator | pieces |
| --- | --- |
| `aXbXX`, `X` | `a`, `b`, nothing, nothing |
| `aaa`, `aa` | nothing, `a` |
-/

import SurveyLogic.Text.Search

namespace SurveyLogic
namespace Text

variable {part whole before after : List Char}

/-! ### The first occurrence -/

/-- In an empty text only the empty part is found. -/
theorem find?_nil (part : List Char) : find? part [] = if part = [] then some 0 else none := by
  cases part <;> rfl

/-- A part is found at the start if it stands there, and else one further than in the rest. -/
theorem find?_cons (part : List Char) (c : Char) (cs : List Char) :
    find? part (c :: cs) = if part <+: c :: cs then some 0 else (find? part cs).map (· + 1) := by
  unfold find?
  rw [breakOn]
  split
  · rename_i front
    rw [if_pos (List.isPrefixOf_iff_prefix.1 front)]
    rfl
  · rename_i front
    rw [if_neg (front ∘ List.isPrefixOf_iff_prefix.2), Option.map_map, Option.map_map]
    rfl

/-- **A part is found at the least position where it stands.** -/
theorem find?_eq_some_iff {i : Nat} :
    find? part whole = some i ↔ part <+: whole.drop i ∧ ∀ j < i, ¬part <+: whole.drop j := by
  induction whole generalizing i with
  | nil =>
    rw [find?_nil]
    simp only [List.drop_nil, List.prefix_nil]
    constructor
    · intro found
      split at found
      · rename_i empty
        cases found
        exact ⟨empty, fun j less => absurd less (Nat.not_lt_zero j)⟩
      · cases found
    · rintro ⟨empty, least⟩
      have first : i = 0 := Nat.eq_zero_of_not_pos fun more => least 0 more empty
      rw [if_pos empty, first]
  | cons c cs ih =>
    rw [find?_cons]
    split
    · rename_i front
      constructor
      · intro found
        cases found
        exact ⟨front, fun j less => absurd less (Nat.not_lt_zero j)⟩
      · rintro ⟨-, least⟩
        have first : i = 0 := Nat.eq_zero_of_not_pos fun more => least 0 more front
        rw [first]
    · rename_i front
      rw [Option.map_eq_some_iff]
      constructor
      · rintro ⟨i, found, rfl⟩
        obtain ⟨stands, least⟩ := ih.1 found
        refine ⟨stands, fun j less => ?_⟩
        cases j with
        | zero => exact front
        | succ j => exact least j (Nat.lt_of_succ_lt_succ less)
      · rintro ⟨stands, least⟩
        cases i with
        | zero => exact absurd stands front
        | succ i =>
          exact ⟨i, ih.2 ⟨stands, fun j less => least (j + 1) (Nat.succ_lt_succ less)⟩, rfl⟩

/-- A part is not found exactly if it stands nowhere. -/
theorem find?_eq_none_iff : find? part whole = none ↔ ¬part <:+: whole := by
  induction whole with
  | nil =>
    rw [find?_nil, List.infix_nil]
    split
    · rename_i empty
      exact iff_of_false (Option.some_ne_none 0) (not_not_intro empty)
    · rename_i more
      exact iff_of_true rfl more
  | cons c cs ih =>
    rw [find?_cons, List.infix_cons_iff, not_or]
    split
    · rename_i front
      exact iff_of_false (Option.some_ne_none 0) fun nowhere => nowhere.1 front
    · rename_i front
      rw [Option.map_eq_none_iff, ih]
      exact (and_iff_right front).symm

/-- A part that stands somewhere is found. -/
theorem exists_find? (somewhere : part <:+: whole) : ∃ i, find? part whole = some i := by
  refine Option.ne_none_iff_exists'.1 fun none => ?_
  exact find?_eq_none_iff.1 none somewhere

/-- What is found lies inside. -/
theorem add_length_le_of_find? {i : Nat} (found : find? part whole = some i) :
    i + part.length ≤ whole.length := by
  obtain ⟨⟨before, after⟩, broken, rfl⟩ := Option.map_eq_some_iff.1 found
  rw [eq_append_of_breakOn broken, List.length_append, List.length_append]
  exact Nat.le_add_right _ _

/-- In front of the first place of a character there is none. -/
theorem not_mem_of_breakOn {c : Char} (found : breakOn [c] whole = some (before, after)) :
    c ∉ before := by
  intro mem
  have first : find? [c] whole = some before.length := by
    rw [find?, found]
    rfl
  obtain ⟨front, rest, rfl⟩ := List.append_of_mem mem
  have sooner : front.length < (front ++ c :: rest).length := by simp
  refine (find?_eq_some_iff.1 first).2 front.length sooner ?_
  rw [eq_append_of_breakOn found, List.append_assoc, List.append_assoc, List.drop_left]
  exact ⟨rest ++ ([c] ++ after), rfl⟩

/-! ### Pieces -/

/-- A text has at least one piece. -/
theorem splitOn_ne_nil (sep : Char) (seps cs : List Char) : splitOn sep seps cs ≠ [] := by
  rw [splitOn]
  split
  · exact List.cons_ne_nil _ _
  · exact List.cons_ne_nil _ _

/-- **The pieces with the separators between them are the text.** -/
theorem intercalate_splitOn (sep : Char) (seps cs : List Char) :
    (sep :: seps).intercalate (splitOn sep seps cs) = cs := by
  fun_induction splitOn sep seps cs with
  | case1 cs none => exact List.intercalate_singleton
  | case2 cs before after found shorter ih =>
    rw [List.intercalate_cons_of_ne_nil (splitOn_ne_nil sep seps after), ih,
      eq_append_of_breakOn found]

/-- Between single characters a text has the pieces of the library function for lists. -/
theorem splitOn_nil (sep : Char) (cs : List Char) : splitOn sep [] cs = cs.splitOn sep := by
  fun_induction splitOn sep [] cs with
  | case1 cs none =>
    have nowhere : ¬[sep] <:+: cs := by
      rw [← find?_eq_none_iff, find?, none]
      rfl
    have absent : sep ∉ cs := by
      intro mem
      obtain ⟨front, rest, rfl⟩ := List.append_of_mem mem
      exact nowhere ⟨front, rest, by rw [List.append_assoc, List.singleton_append]⟩
    exact (List.splitOn_eq_singleton absent).symm
  | case2 cs before after found shorter ih =>
    rw [ih, eq_append_of_breakOn found, List.append_assoc]
    exact (List.splitOn_append_cons_self_of_not_mem (not_mem_of_breakOn found) after).symm

end Text
end SurveyLogic
