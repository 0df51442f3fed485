/-
# Cutting and joining

Joining the pieces of a text gives the text back, whatever the separator is: the pieces of a text
that is cut at each occurrence, its characters if the separator is empty, and no pieces at all if
the text is empty. The separator may be missing, which is a comma for both functions.

The other way round, texts are the pieces of what they are joined to if none of them holds the
separator and this is one character. With more characters it may also arise between a text and the
separator behind it: `aX` and `b` are joined by `XX` to `aXXXb`, which is cut into `a` and `Xb`. One
list is never given back, that of one empty text, for an empty text has no pieces.
-/

import SurveyLogic.Proofs.Library.Computed
import SurveyLogic.Proofs.Text.Search

namespace SurveyLogic
namespace Library

variable {σ : Type}

/-! ### Texts -/

/-- The characters of a joined text are those of the parts with the separator between them. -/
theorem toList_join (sep : String) (parts : List String) :
    (Text.join sep parts).toList = sep.toList.intercalate (parts.map String.toList) :=
  String.toList_intercalate

/-- Single characters with nothing between them are the text. -/
theorem intercalate_singletons (cs : List Char) :
    [].intercalate (cs.map fun c => [c]) = cs := by
  induction cs with
  | nil => rfl
  | cons c cs ih =>
    cases cs with
    | nil => rfl
    | cons d cs => exact congrArg (c :: ·) ih

theorem map_toList_ofList (parts : List (List Char)) :
    (parts.map String.ofList).map String.toList = parts := by
  rw [List.map_map]
  exact (List.map_congr_left fun cs _ => String.toList_ofList).trans (List.map_id _)

/-- The pieces of a text are joined to the text. -/
theorem join_split (s sep : String) : Text.join sep (split s sep) = s := by
  rw [← String.toList_inj, toList_join, split]
  split
  · rename_i empty
    rw [String.isEmpty_iff.1 empty]
    rfl
  split
  · rename_i none
    have characters : (s.toList.map Char.toString).map String.toList =
        s.toList.map fun c => [c] := by
      rw [List.map_map]
      exact List.map_congr_left fun c _ => String.toList_singleton c
    rw [none, characters, intercalate_singletons]
  · rename_i c cs some
    rw [some, map_toList_ofList, Text.intercalate_splitOn]

theorem map_ofList_toList (parts : List String) :
    (parts.map String.toList).map String.ofList = parts := by
  rw [List.map_map]
  exact (List.map_congr_left fun part _ => String.ofList_toList).trans (List.map_id _)

/-- A text that is joined with a character between its parts has these parts for pieces, if they do
not hold the character. -/
theorem split_join {c : Char} {parts : List String} (apart : ∀ part ∈ parts, c ∉ part.toList)
    (more : parts ≠ [""]) :
    split (Text.join (String.singleton c) parts) (String.singleton c) = parts := by
  by_cases none : parts = []
  · rw [none]
    rfl
  have pieces : (Text.join (String.singleton c) parts).toList.splitOn c =
      parts.map String.toList := by
    rw [toList_join, String.toList_singleton]
    exact List.splitOn_intercalate c (List.forall_mem_map.2 apart) (none ∘ List.map_eq_nil_iff.1)
  have full : ¬(Text.join (String.singleton c) parts).isEmpty := by
    intro empty
    rw [String.isEmpty_iff.1 empty] at pieces
    have single : [""] = parts := by
      rw [← map_ofList_toList parts, ← pieces]
      rfl
    exact more single.symm
  rw [split, if_neg full, String.toList_singleton]
  dsimp only
  rw [Text.splitOn_nil, pieces, map_ofList_toList]

/-! ### Values -/

theorem map_toText_string (parts : List String) :
    (parts.map Value.string).map Value.toText = parts := by
  rw [List.map_map]
  exact List.map_id parts

/-- `join` computes the joined text of its list. -/
theorem computes_join (clock : σ → Int) :
    Computes clock "join" fun _ args => .string (join (arg args 0) (separator (arg args 1))) :=
  computes_of_mem_timeless clock
    (List.mem_append_left _ (List.mem_append_right _ List.mem_cons_self))

/-- `split` computes the list of the pieces of its text. -/
theorem computes_split (clock : σ → Int) :
    Computes clock "split" fun _ args =>
      .array ((split (text args 0) (separator (arg args 1))).map .string) :=
  computes_of_mem_timeless clock
    (List.mem_append_left _ (List.mem_append_right _ (List.mem_cons_of_mem _ List.mem_cons_self)))

/-- **Joining undoes cutting.** The pieces of a text, with the separator they were cut at between
them, are the text, whatever the separator is. Texts that do not hold a character are the pieces of
the text that they make with this character between them, unless they are one empty text. -/
theorem join_inverts_split (clock : σ → Int) :
    ∃ join split : List Value → Value,
      Computes clock "join" (fun _ => join) ∧ Computes clock "split" (fun _ => split) ∧
      (∀ v sep : Value, join [split [v, sep], sep] = .string v.toText) ∧
      ∀ (c : Char) (parts : List String), (∀ part ∈ parts, c ∉ part.toList) → parts ≠ [""] →
        let sep : Value := .string (String.singleton c)
        split [join [.array (parts.map .string), sep], sep] = .array (parts.map .string) := by
  refine ⟨_, _, computes_join clock, computes_split clock, ?_, ?_⟩
  · intro v sep
    show Value.string (Text.join (separator sep)
      (((split v.toText (separator sep)).map Value.string).map Value.toText)) = _
    rw [map_toText_string, join_split]
  · intro c parts apart more
    show Value.array ((split (Text.join (String.singleton c)
      ((parts.map Value.string).map Value.toText)) (String.singleton c)).map Value.string) = _
    rw [map_toText_string, split_join apart more]

/-- The hypotheses of `join_inverts_split` are satisfiable: the first and the last piece are empty
and two separators stand side by side; and a separator overlaps with itself. -/
theorem join_inverts_split_dashes :
    let parts := ["", "a - b", "", "é", ""]
    (∀ part ∈ parts, '–' ∉ part.toList) ∧ parts ≠ [""] ∧
      ∃ join split : List Value → Value,
        Computes (id : Int → Int) "join" (fun _ => join) ∧
        Computes (id : Int → Int) "split" (fun _ => split) ∧
        join [split [.string "aaa", .string "aa"], .string "aa"] = .string "aaa" ∧
        split [join [.array (parts.map .string), .string "–"], .string "–"] =
          .array (parts.map .string) := by
  intro parts
  have apart : ∀ part ∈ parts, '–' ∉ part.toList := by decide +kernel
  have more : parts ≠ [""] := by decide
  obtain ⟨join, split, joins, splits, undone, redone⟩ := join_inverts_split (id : Int → Int)
  exact ⟨apart, more, join, split, joins, splits, undone (.string "aaa") (.string "aa"),
    redone '–' parts apart more⟩

example : split "aXbXX" "X" = ["a", "b", "", ""] ∧ split "aaa" "aa" = ["", "a"] := by
  decide +kernel

end Library
end SurveyLogic
