/-
# Values as documents

A value is read back from its document if its numbers are finite and its objects are maps, that is,
list their fields in increasing order of the names. A number that is not finite has the document
`null`, and entries in another order are put in order by the reader.
-/

import SurveyLogic.Value.Basic

namespace SurveyLogic

namespace Bindings

variable {α : Type u}

/-- An entry behind all others is put there. -/
theorem put_of_forall_lt {m : Bindings α} {name : String} (value : α)
    (last : ∀ key ∈ names m, key < name) : put m name value = m ++ [(name, value)] := by
  induction m with
  | nil => rfl
  | cons entry rest ih =>
    obtain ⟨key, old⟩ := entry
    obtain ⟨first, others⟩ := List.forall_mem_cons.1 last
    have ne : name ≠ key := by
      rintro rfl
      exact String.lt_irrefl name first
    rw [put, if_neg ne, if_neg (String.lt_asymm first), ih others, List.cons_append]

/-- Entries in order behind others are put behind them. -/
theorem putAll_of_ordered {m new : Bindings α} (h : Ordered (m ++ new)) :
    putAll m new = m ++ new := by
  induction new generalizing m with
  | nil => exact (List.append_nil m).symm
  | cons entry rest ih =>
    have last : ∀ key ∈ names m, key < entry.1 := by
      intro key mem
      rw [Ordered, names, List.map_append, List.pairwise_append] at h
      exact h.2.2 key mem entry.1 List.mem_cons_self
    have split : m ++ entry :: rest = (m ++ [entry]) ++ rest := by
      rw [List.append_assoc, List.singleton_append]
    change putAll (put m entry.1 entry.2) rest = _
    rw [put_of_forall_lt entry.2 last, split]
    exact ih (split ▸ h)

/-- **Entries in order are the map they make.** -/
theorem ofList_of_ordered {m : Bindings α} (h : Ordered m) : ofList m = m :=
  putAll_of_ordered (m := []) h

end Bindings

namespace Value

mutual

/-- Whether all numbers of a value are finite. -/
def isFinite : Value → Bool
  | number x => (Number.toBinary? x).isSome
  | array items => allFinite items
  | object fields => fieldsFinite fields
  | _ => true

/-- Whether all numbers of some values are finite. -/
def allFinite : List Value → Bool
  | [] => true
  | v :: vs => isFinite v && allFinite vs

/-- Whether all numbers of some fields are finite. -/
def fieldsFinite : List (String × Value) → Bool
  | [] => true
  | (_, v) :: fields => isFinite v && fieldsFinite fields

end

mutual

/-- All objects in a value list their fields in increasing order of the names. -/
def IsOrdered : Value → Prop
  | array items => AllOrdered items
  | object fields => Bindings.Ordered fields ∧ FieldsOrdered fields
  | _ => True

/-- All objects in some values are in order. -/
def AllOrdered : List Value → Prop
  | [] => True
  | v :: vs => IsOrdered v ∧ AllOrdered vs

/-- All objects in some fields are in order. -/
def FieldsOrdered : List (String × Value) → Prop
  | [] => True
  | (_, v) :: fields => IsOrdered v ∧ FieldsOrdered fields

end

mutual

/-- **A value is read back from its document.** -/
theorem ofJson_toJson : ∀ v : Value, v.isFinite → v.IsOrdered → ofJson (v.toJson .ofFloat) = v
  | null, _, _ => rfl
  | bool _, _, _ => rfl
  | number x, finite, _ => by rw [toJson, Json.ofFloat_of_isSome finite, ofJson]
  | string _, _, _ => rfl
  | array items, finite, ordered => by
    rw [toJson, ofJson, ofJsonAll_toJsonAll items finite ordered]
  | object fields, finite, ordered => by
    rw [toJson, ofJson, ofJsonMembers_toJsonFields fields finite ordered.2,
      Bindings.ofList_of_ordered ordered.1]

/-- Lists are read back from their documents. -/
theorem ofJsonAll_toJsonAll : ∀ vs : List Value, allFinite vs → AllOrdered vs →
    ofJsonAll (toJsonAll vs .ofFloat) = vs
  | [], _, _ => rfl
  | v :: vs, finite, ordered => by
    obtain ⟨first, others⟩ := Bool.and_eq_true_iff.1 finite
    rw [toJsonAll, ofJsonAll, ofJson_toJson v first ordered.1,
      ofJsonAll_toJsonAll vs others ordered.2]

/-- Fields are read back from their documents. -/
theorem ofJsonMembers_toJsonFields : ∀ fields : List (String × Value), fieldsFinite fields →
    FieldsOrdered fields → ofJsonMembers (toJsonFields fields .ofFloat) = fields
  | [], _, _ => rfl
  | (name, v) :: fields, finite, ordered => by
    obtain ⟨first, others⟩ := Bool.and_eq_true_iff.1 finite
    rw [toJsonFields, ofJsonMembers, ofJson_toJson v first ordered.1,
      ofJsonMembers_toJsonFields fields others ordered.2]

end

end Value
end SurveyLogic
