/-
# Blank characters

The characters with the Unicode property `White_Space`, and texts without them at the ends.

| code points | what |
| --- | --- |
| `09`–`0D`, `20`, `85`, `A0` | controls and the two plain spaces |
| `1680`, `2000`–`200A`, `202F`, `205F`, `3000` | spaces of a fixed width |
| `2028`, `2029` | line and paragraph separators |
-/

namespace SurveyLogic
namespace Text

/-- The property `White_Space`. -/
def isBlank (c : Char) : Bool :=
  let n := c.toNat
  n == 0x20 || (0x09 ≤ n && n ≤ 0x0d) || n == 0x85 || n == 0xa0 || n == 0x1680 ||
    (0x2000 ≤ n && n ≤ 0x200a) || n == 0x2028 || n == 0x2029 || n == 0x202f || n == 0x205f ||
    n == 0x3000

/-- Without the blank characters at the front. -/
def trimLeft (cs : List Char) : List Char :=
  cs.dropWhile isBlank

/-- Without the blank characters at the end. -/
def trimRight (cs : List Char) : List Char :=
  (cs.reverse.dropWhile isBlank).reverse

/-- Without the blank characters at both ends. -/
def trim (s : String) : String :=
  String.ofList (trimRight (trimLeft s.toList))

/-- Nothing but blank characters, or nothing at all. -/
def isBlankText (s : String) : Bool :=
  s.toList.all isBlank

/-- **A text is blank exactly if trimming leaves nothing of it.** -/
theorem trim_eq_empty_iff (s : String) : trim s = "" ↔ isBlankText s := by
  have key : ∀ cs : List Char, trimRight (trimLeft cs) = [] ↔ cs.all isBlank := by
    intro cs
    induction cs with
    | nil => simp [trimRight, trimLeft]
    | cons c cs ih =>
      by_cases hc : isBlank c
      · simpa [trimLeft, hc] using ih
      · simp [trimLeft, trimRight, hc, List.dropWhile_append]
        split <;> simp_all
  rw [isBlankText, ← key, trim, ← String.toList_inj, String.toList_ofList]
  simp

end Text
end SurveyLogic
