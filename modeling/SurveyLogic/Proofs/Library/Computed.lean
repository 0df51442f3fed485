/-
# What the functions of the library compute

A function of the library has no side effects, and few of them read the context. Of those that do
not, an engine finds under the name a function that makes a value of the arguments and perhaps the
time of the host. It never fails and leaves the host as it is.

The numbers that it counts are whole, and below `2^53` they are different values and are added
without rounding.
-/

import SurveyLogic.Proofs.Evaluation.Coincidence
import SurveyLogic.Proofs.Number.Whole

namespace SurveyLogic
namespace Library

variable {σ : Type}

/-- Under this name the library has a function that makes this value of the time of the host and of
the arguments, in any context, and leaves the host as it is. -/
def Computes (clock : σ → Int) (name : String) (f : Int → List Value → Value) : Prop :=
  ∃ g, (library clock).find? name = some g ∧
    ∀ args ctx host, g.call args ctx host = ⟨.ok (f (clock host) args), host, []⟩

/-- An entry of the timeless functions computes what its function makes of the arguments. -/
theorem computes_of_mem_timeless (clock : σ → Int) {name : String} {f : List Value → Value}
    (mem : (name, plain f) ∈ timeless) : Computes clock name fun _ => f :=
  ⟨_, find?_of_mem_timeless clock mem, fun _ _ _ => rfl⟩

/-- An entry of the date functions computes what its function makes of the time. -/
theorem computes_of_mem_dates (clock : σ → Int) {name : String} {f : Int → List Value → Value}
    (mem : (name, f) ∈ dates) : Computes clock name f :=
  ⟨_, find?_of_mem_entries (List.mem_append_right _ (List.mem_map.2 ⟨(name, f), mem, rfl⟩)),
    fun _ _ _ => rfl⟩

/-! ### Numbers as values -/

/-- A number other than NaN counts as itself. -/
theorem toNumber_number {x : Float} (number : x.isNaN = false) : (Value.number x).toNumber = x := by
  rw [Value.toNumber, Value.toNumber?, number]
  rfl

/-- A whole number counts as itself. -/
theorem toNumber_whole (n : Int) : (whole n).toNumber = Number.ofInt n :=
  toNumber_number (Number.isNaN_ofInt n)

/-- Whole numbers within 53 bits are told apart by their values. -/
theorem whole_inj {a b : Int} (small : a.natAbs < 2 ^ 53) (small' : b.natAbs < 2 ^ 53)
    (same : whole a = whole b) : a = b := by
  have doubles : Number.ofInt a = Number.ofInt b := Value.number.inj same
  rw [← Option.some_inj, ← Number.toInt?_ofInt small, doubles, Number.toInt?_ofInt small']

/-- Whole numbers within 53 bits are added exactly if their sum is within them too. -/
theorem whole_add {a b : Int} (small : a.natAbs < 2 ^ 53) (small' : b.natAbs < 2 ^ 53)
    (sum : (a + b).natAbs < 2 ^ 53) : BinaryOp.add.apply (whole a) (whole b) = whole (a + b) := by
  show Value.number ((whole a).toNumber + (whole b).toNumber) = _
  rw [toNumber_whole, toNumber_whole, Number.ofInt_add small small' sum]
  rfl

end Library
end SurveyLogic
