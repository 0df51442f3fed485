/-
# Searching and cutting text

The first occurrence of a text in another, cutting at every occurrence from the left, and joining
the pieces again. All positions count characters.
-/

namespace SurveyLogic
namespace Text

/-- What stands before and after the first occurrence of `part`. -/
def breakOn (part : List Char) : List Char → Option (List Char × List Char)
  | [] => if part.isEmpty then some ([], []) else none
  | c :: cs =>
    if part.isPrefixOf (c :: cs) then some ([], (c :: cs).drop part.length)
    else (breakOn part cs).map fun (before, after) => (c :: before, after)

/-- The position of the first occurrence of `part`. -/
def find? (part whole : List Char) : Option Nat :=
  (breakOn part whole).map (·.1.length)

/-- Whether `part` occurs in `whole`. -/
def occursIn (part whole : List Char) : Bool :=
  (breakOn part whole).isSome

/-- What is broken on a part is what stands before it, the part, and what stands behind. -/
theorem eq_append_of_breakOn {part cs before after : List Char}
    (h : breakOn part cs = some (before, after)) : cs = before ++ part ++ after := by
  induction cs generalizing before with
  | nil => simp_all [breakOn]
  | cons c cs ih =>
    unfold breakOn at h
    split at h
    · rename_i hp
      obtain ⟨rest, hrest⟩ := List.isPrefixOf_iff_prefix.1 hp
      simp only [Option.some.injEq, Prod.mk.injEq] at h
      obtain ⟨rfl, rfl⟩ := h
      simp [← hrest]
    · obtain ⟨⟨b, a⟩, hb, heq⟩ := Option.map_eq_some_iff.1 h
      simp only [Prod.mk.injEq] at heq
      obtain ⟨rfl, rfl⟩ := heq
      simp [ih hb]

/-- The pieces between the occurrences of the separator `sep :: seps`, found from the left without
overlap. -/
def splitOn (sep : Char) (seps cs : List Char) : List (List Char) :=
  match h : breakOn (sep :: seps) cs with
  | none => [cs]
  | some (before, after) =>
    have : after.length < cs.length := by
      rw [eq_append_of_breakOn h]
      simp only [List.length_append, List.length_cons]
      omega
    before :: splitOn sep seps after
termination_by cs.length

/-- The texts one after the other with a separator between neighbours. -/
def join (sep : String) (parts : List String) : String :=
  sep.intercalate parts

end Text
end SurveyLogic
