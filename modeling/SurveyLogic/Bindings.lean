/-
# Bindings

A finite map with names as keys, written as the list of its entries in increasing order of the
names. Two maps with the same entries are thus the same list. Names are ordered by code points.
-/

namespace SurveyLogic

/-- Values under names, in increasing order of the names. -/
abbrev Bindings (α : Type u) := List (String × α)

namespace Bindings

variable {α : Type u}

/-- The value under a name. -/
def get? (m : Bindings α) (name : String) : Option α :=
  m.lookup name

/-- Whether a name is bound. -/
def has (m : Bindings α) (name : String) : Bool :=
  (Bindings.get? m name).isSome

/-- The map with one name bound anew. -/
def put : Bindings α → String → α → Bindings α
  | [], name, value => [(name, value)]
  | (key, old) :: rest, name, value =>
    if name = key then (name, value) :: rest
    else if name < key then (name, value) :: (key, old) :: rest
    else (key, old) :: put rest name value

/-- The entries of `new` on top of those of `m`, a later one over an earlier one. -/
def putAll (m : Bindings α) (new : List (String × α)) : Bindings α :=
  new.foldl (fun m (name, value) => Bindings.put m name value) m

/-- The map of a list of entries; of two under one name the later stays. -/
def ofList (entries : List (String × α)) : Bindings α :=
  putAll [] entries

/-- The bound names in order. -/
def names (m : Bindings α) : List String :=
  m.map (·.1)

/-- The entries stand in strictly increasing order of their names. -/
def Ordered (m : Bindings α) : Prop :=
  (names m).Pairwise (· < ·)

/-- Of all names, only the one that is bound anew changes. -/
theorem get?_put (m : Bindings α) (name other : String) (value : α) :
    get? (put m name value) other = if other = name then some value else get? m other := by
  have beq (a b : String) : (a == b) = decide (a = b) := by
    by_cases h : a = b <;> simp [h]
  induction m with
  | nil => by_cases h : other = name <;> simp [put, get?, List.lookup_cons, beq, h]
  | cons entry rest ih =>
    obtain ⟨key, old⟩ := entry
    simp only [get?] at ih ⊢
    unfold put
    split
    · rename_i hkey
      subst hkey
      by_cases h : other = name <;> simp [List.lookup_cons, beq, h]
    · rename_i hkey
      split
      · by_cases h : other = name <;> simp [List.lookup_cons, beq, h]
      · by_cases h : other = key
        · simp [h, Ne.symm hkey]
        · simp [List.lookup_cons, beq, h, ih]

/-- To change all values by name is to change what is found. -/
theorem get?_map {β : Type v} (g : String → α → β) (m : Bindings α) (name : String) :
    get? (m.map fun entry => (entry.1, g entry.1 entry.2)) name = (get? m name).map (g name) := by
  induction m with
  | nil => rfl
  | cons entry rest ih =>
    obtain ⟨key, value⟩ := entry
    rw [get?, get?] at ih ⊢
    rw [List.map_cons, List.lookup_cons, List.lookup_cons]
    by_cases same : name = key
    · rw [same, beq_self_eq_true]
      rfl
    · rw [beq_eq_false_iff_ne.2 same]
      exact ih

/-- Of several entries under one name the last counts. -/
theorem get?_putAll (m : Bindings α) (new : List (String × α)) (name : String) :
    get? (putAll m new) name =
      ((new.filter (·.1 = name)).getLast?.map (·.2)).or (get? m name) := by
  induction new generalizing m with
  | nil => rfl
  | cons entry rest ih =>
    obtain ⟨key, value⟩ := entry
    show get? (putAll (put m key value) rest) name = _
    rw [ih, get?_put]
    by_cases h : key = name
    · subst h
      rw [if_pos rfl, List.filter_cons_of_pos (by simp), List.getLast?_cons]
      cases (rest.filter (·.1 = key)).getLast? <;> rfl
    · rw [if_neg (Ne.symm h), List.filter_cons_of_neg (by simp [h])]

/-- A name without a new entry stands for what it did. -/
theorem get?_putAll_of_not_mem (m : Bindings α) {new : List (String × α)} {name : String}
    (absent : name ∉ new.map (·.1)) : get? (putAll m new) name = get? m name := by
  have none : new.filter (·.1 = name) = [] := by
    refine List.filter_eq_nil_iff.2 fun entry mem here => absent ?_
    exact List.mem_map.2 ⟨entry, mem, of_decide_eq_true here⟩
  rw [get?_putAll, none]
  rfl

/-- Entries that agree may come in any order. -/
theorem get?_putAll_of_mem (m : Bindings α) {new : List (String × α)} {name : String} {value : α}
    (mem : (name, value) ∈ new) (only : ∀ other, (name, other) ∈ new → other = value) :
    get? (putAll m new) name = some value := by
  have here : (name, value) ∈ new.filter (·.1 = name) :=
    List.mem_filter.2 ⟨mem, decide_eq_true rfl⟩
  rw [get?_putAll]
  cases last : (new.filter (·.1 = name)).getLast? with
  | none =>
    rw [List.getLast?_eq_none_iff.1 last] at here
    exact nomatch here
  | some entry =>
    obtain ⟨listed, named⟩ := List.mem_filter.1 (List.mem_of_getLast? last)
    obtain rfl : entry.1 = name := of_decide_eq_true named
    exact congrArg some (only entry.2 listed)

/-- The entries are the new one and old ones. -/
theorem mem_put {m : Bindings α} {name : String} {value : α} {entry : String × α}
    (h : entry ∈ put m name value) : entry = (name, value) ∨ entry ∈ m := by
  induction m with
  | nil => simpa [put] using h
  | cons first rest ih =>
    unfold put at h
    split at h
    · rcases List.mem_cons.1 h with h | h
      · exact .inl h
      · exact .inr (List.mem_cons_of_mem _ h)
    · split at h
      · exact List.mem_cons.1 h
      · rcases List.mem_cons.1 h with h | h
        · exact .inr (h ▸ List.mem_cons_self)
        · exact (ih h).imp_right (List.mem_cons_of_mem _)

/-- Binding a name adds no other one. -/
theorem names_put_subset {m : Bindings α} {name : String} {value : α} {x : String}
    (h : x ∈ names (put m name value)) : x = name ∨ x ∈ names m := by
  obtain ⟨entry, mem, rfl⟩ := List.mem_map.1 h
  rcases mem_put mem with rfl | mem
  · exact .inl rfl
  · exact .inr (List.mem_map_of_mem mem)

/-- Binding a name keeps the entries in order. -/
theorem Ordered.put {m : Bindings α} (h : Ordered m) (name : String) (value : α) :
    Ordered (put m name value) := by
  induction m with
  | nil => simp [Bindings.put, Ordered, names]
  | cons entry rest ih =>
    obtain ⟨key, old⟩ := entry
    simp only [Ordered, names, List.map_cons, List.pairwise_cons] at h ih ⊢
    unfold Bindings.put
    split
    · rename_i hkey
      subst hkey
      simpa using h
    · rename_i hne
      split
      · rename_i hlt
        simp only [List.map_cons, List.pairwise_cons, List.mem_cons]
        refine ⟨fun x hx => ?_, h⟩
        rcases hx with rfl | hx
        · exact hlt
        · exact String.lt_trans hlt (h.1 x hx)
      · rename_i hnlt
        simp only [List.map_cons, List.pairwise_cons]
        refine ⟨fun x hx => ?_, ih h.2⟩
        rcases names_put_subset hx with rfl | hx
        · exact Std.lt_of_le_of_ne (String.not_lt.1 hnlt) (Ne.symm hne)
        · exact h.1 x hx

/-- Binding names keeps the entries in order. -/
theorem Ordered.putAll {m : Bindings α} (h : Ordered m) (new : List (String × α)) :
    Ordered (putAll m new) := by
  induction new generalizing m with
  | nil => exact h
  | cons entry rest ih => exact ih (h.put entry.1 entry.2)

/-- A name is bound if there is a value under it. -/
theorem mem_names_iff {m : Bindings α} {name : String} : name ∈ names m ↔ (get? m name).isSome := by
  induction m with
  | nil => simp [names, get?]
  | cons entry rest ih =>
    obtain ⟨key, value⟩ := entry
    rw [names, get?] at ih ⊢
    rw [List.map_cons, List.mem_cons, ih, List.lookup_cons]
    by_cases h : name = key
    · simp [h]
    · simp [h, beq_eq_false_iff_ne.2 h]

end Bindings

/-- The distinct names of a list in increasing order. -/
def sortedNames (names : List String) : List String :=
  Bindings.names (Bindings.ofList (names.map (·, ())))

/-- Sorted names increase. -/
theorem sortedNames_pairwise (names : List String) : (sortedNames names).Pairwise (· < ·) :=
  Bindings.Ordered.putAll (m := []) .nil _

/-- Sorted names are the same names. -/
theorem mem_sortedNames {names : List String} {name : String} :
    name ∈ sortedNames names ↔ name ∈ names := by
  rw [sortedNames, Bindings.mem_names_iff, Bindings.ofList, Bindings.get?_putAll]
  simp [Bindings.get?]

end SurveyLogic
