/-
# How long an entry stays

A full cache loses its oldest batch before a new entry comes in. So how many of the entries that
came in are still there depends on their number alone, and not on what was read in between: all of
them up to the capacity, and then, with capacity `c` and batch `b`,

| entries that came in | still there |
| --- | --- |
| `c + 1` | `c - b + 1` |
| one more each time | one more each time |
| `c + b` | `c` |
| `c + b + 1` | `c - b + 1` again |

The entries leave in the batches into which their sequence is cut: entry `k`, the first being entry
`0`, leaves with batch `k / b`, when there is no room for the entry behind the first
`c + k / b * b`.
-/

import Mathlib.Data.List.Nodup
import SurveyLogic.Proofs.Cache.Queue

namespace SurveyLogic

namespace CacheConfig

variable {config : CacheConfig}

/-- How many entries a full cache loses at once: at least one, and no more than it holds. -/
def batch (config : CacheConfig) : Nat :=
  min (max config.evictionBatch 1) config.capacity

/-- How many of the entries that came in are there. -/
def resident (config : CacheConfig) (n : Nat) : Nat :=
  if n ≤ config.capacity then n
  else config.capacity - config.batch + 1 + (n - config.capacity - 1) % config.batch

/-- With room for any entry, a batch has at least one. -/
theorem batch_pos (room : 0 < config.capacity) : 0 < config.batch := by
  unfold batch
  omega

/-- A batch has no more entries than there is room for. -/
theorem batch_le (config : CacheConfig) : config.batch ≤ config.capacity :=
  Nat.min_le_right _ _

/-- As long as there is room for all entries, all are there. -/
theorem resident_of_le {n : Nat} (fits : n ≤ config.capacity) : config.resident n = n :=
  if_pos fits

/-- Beyond that, as many are there as the last batch has left and have come in since. -/
theorem resident_of_lt {n : Nat} (above : config.capacity < n) :
    config.resident n =
      config.capacity - config.batch + 1 + (n - config.capacity - 1) % config.batch :=
  if_neg (Nat.not_le.2 above)

/-- Of the next number the remainder is one more, or there is none if that would be the divisor. -/
theorem succ_mod_eq {d : Nat} (pos : 0 < d) (n : Nat) :
    (n + 1) % d = if n % d + 1 = d then 0 else n % d + 1 := by
  have hlt := Nat.mod_lt n pos
  have hsplit : n + 1 = d * (n / d) + (n % d + 1) := by
    have := Nat.mod_add_div n d
    omega
  split
  · rename_i last
    rw [hsplit, last, ← Nat.mul_succ, Nat.mul_mod_right]
  · rename_i inside
    rw [hsplit, Nat.mul_add_mod, Nat.mod_eq_of_lt (by omega)]

/-- With a further entry there is one more, unless the cache was full and a batch had to leave. -/
theorem resident_succ (room : 0 < config.capacity) (n : Nat) :
    config.resident (n + 1) =
      if config.resident n = config.capacity then config.capacity - config.batch + 1
      else config.resident n + 1 := by
  have hpos := batch_pos room
  have hbatch := config.batch_le
  rcases Nat.lt_trichotomy n config.capacity with below | rfl | above
  · rw [resident_of_le (by omega), resident_of_le (by omega), if_neg (by omega)]
  · rw [resident_of_le (Nat.le_refl config.capacity), if_pos rfl,
      resident_of_lt (Nat.lt_succ_self config.capacity),
      show config.capacity.succ - config.capacity - 1 = 0 by omega, Nat.zero_mod]
  · have hsucc : n + 1 - config.capacity - 1 = n - config.capacity - 1 + 1 := by omega
    have hmod := Nat.mod_lt (n - config.capacity - 1) hpos
    rw [resident_of_lt above, resident_of_lt (by omega), hsucc, succ_mod_eq hpos]
    split <;> split <;> omega

/-- The entries that are gone are whole batches. -/
theorem sub_resident_le_iff (room : 0 < config.capacity) {k n : Nat} (here : k < n) :
    n - config.resident n ≤ k ↔ n ≤ config.capacity + k / config.batch * config.batch := by
  have hpos := batch_pos room
  have hbatch := config.batch_le
  unfold resident
  split
  · omega
  · rename_i above
    obtain ⟨d, rfl⟩ : ∃ d, n = config.capacity + 1 + d := Nat.exists_eq_add_of_le (by omega)
    have hd : config.capacity + 1 + d - config.capacity - 1 = d := by omega
    have hsplit := Nat.mod_add_div d config.batch
    have hgone : config.capacity + 1 + d - (config.capacity - config.batch + 1 + d % config.batch) =
        (d / config.batch + 1) * config.batch := by
      rw [Nat.add_mul, Nat.one_mul, Nat.mul_comm]
      omega
    rw [hd, hgone]
    calc (d / config.batch + 1) * config.batch ≤ k
        ↔ d / config.batch < k / config.batch := (Nat.le_div_iff_mul_le hpos).symm
      _ ↔ d < k / config.batch * config.batch := Nat.div_lt_iff_lt_mul hpos
      _ ↔ config.capacity + 1 + d ≤ config.capacity + k / config.batch * config.batch := by omega

end CacheConfig

namespace Cache

variable {ε : Type} {config : CacheConfig}

/-- With a new entry a full cache loses a batch, and any other grows by one. -/
theorem size_insert_of_new {c : Cache} {source : String} (room : 0 < c.config.capacity)
    (bounded : c.size ≤ c.config.capacity) (new : c.contains source = false) (e : Expr) :
    (c.insert source e).size =
      if c.size = c.config.capacity then c.config.capacity - c.config.batch + 1
      else c.size + 1 := by
  have hsize : (c.insert source e).size = c.size - c.leaving + 1 := by
    rw [insert_of_new room new]
    simp [size]
  rw [hsize, leaving_eq bounded]
  split
  · rename_i full
    rw [full]
    rfl
  · rfl

/-- **How much a cache holds follows from how many entries came in,** whatever else was asked of
it. -/
theorem chronicle_size (room : 0 < config.capacity) (rs : List (Request ε)) :
    (chronicle config rs).cache.size = config.resident (chronicle config rs).arrivals.length := by
  have run (h : Chronicle) (queued : Queued config h)
      (size : h.cache.size = config.resident h.arrivals.length) :
      (rs.foldl .step h).cache.size = config.resident (rs.foldl .step h).arrivals.length := by
    induction rs generalizing h with
    | nil => exact size
    | cons r rs ih =>
      refine ih _ (queued.step r) ?_
      rcases h.step_cases r with ⟨-, cleared⟩ | ⟨-, same⟩ | ⟨source, e, -, -, new, arrived⟩
      · rw [cleared]
        rfl
      · rw [same]
        exact size
      · obtain ⟨rfl, -, bounded, -⟩ := queued
        rw [arrived, List.length_append, List.length_singleton, CacheConfig.resident_succ room,
          ← size]
        exact size_insert_of_new room bounded new e
  exact run _ ⟨rfl, List.nodup_nil, Nat.zero_le _, List.suffix_refl _⟩ rfl

/-- Exactly the last entries that came in are there. -/
theorem chronicle_entries (room : 0 < config.capacity) (rs : List (Request ε)) :
    (chronicle config rs).cache.entries = (chronicle config rs).arrivals.drop
      ((chronicle config rs).arrivals.length -
        config.resident (chronicle config rs).arrivals.length) := by
  rw [← chronicle_size room rs]
  exact List.suffix_iff_eq_drop.1 (chronicle_queued config rs).recent

/-! ### Distinct sources -/

/-- Some requests insert entries under distinct sources one after the other. In between they look
for sources, ask for what does not parse, and offer sources that are there; none clears the
cache. -/
inductive Inserts (config : CacheConfig) : List (Request ε) → List (String × Expr) → Prop
  | nothing : Inserts config [] []
  | further {rs : List (Request ε)} {entries : List (String × Expr)} {r : Request ε}
      {source : String} {e : Expr} (before : Inserts config rs entries)
      (offered : r.offer? = some (source, e))
      (distinct : source ∉ entries.map (·.1)) :
      Inserts config (rs ++ [r]) (entries ++ [(source, e)])
  | between {rs : List (Request ε)} {entries : List (String × Expr)} {r : Request ε}
      (before : Inserts config rs entries) (stays : r.clears = false)
      (held : ∀ entry, r.offer? = some entry →
        (Request.replay Request.perform { config } rs).2.contains entry.1 = true) :
      Inserts config (rs ++ [r]) entries

/-- A further request is a further step. -/
theorem chronicle_append (config : CacheConfig) (rs : List (Request ε)) (r : Request ε) :
    chronicle config (rs ++ [r]) = (chronicle config rs).step r := by
  rw [chronicle, List.foldl_append]
  rfl

/-- What is inserted under distinct sources comes in. -/
theorem Inserts.arrivals (room : 0 < config.capacity) {rs : List (Request ε)}
    {entries : List (String × Expr)} (inserts : Inserts config rs entries) :
    (chronicle config rs).arrivals = entries ∧ (entries.map (·.1)).Nodup := by
  induction inserts with
  | nothing => exact ⟨rfl, List.nodup_nil⟩
  | @further rs entries r source e before offered distinct ih =>
    obtain ⟨same, nodup⟩ := ih
    have queued := chronicle_queued config rs
    -- What the cache holds has come in before, and the source is none of those.
    have absent : (chronicle config rs).cache.contains source = false := by
      rw [← Bool.not_eq_true, contains_iff_mem_keys]
      intro held
      exact distinct (same ▸ (queued.recent.sublist.map Prod.fst).mem held)
    constructor
    · rw [chronicle_append]
      rcases (chronicle config rs).step_cases r with
        ⟨clears, -⟩ | ⟨held, -⟩ | ⟨other, tree, offered', -, -, arrived⟩
      · rw [Request.offer?_of_clears clears] at offered
        cases offered
      · rcases held _ offered with none | held
        · rw [queued.bounds] at none
          omega
        · exact absurd held (by simp [absent])
      · rw [offered] at offered'
        cases offered'
        rw [arrived, same]
    · rw [List.map_append, List.map_singleton, List.nodup_append]
      refine ⟨nodup, List.nodup_singleton _, fun a mem b here equal => ?_⟩
      obtain rfl : b = source := List.mem_singleton.1 here
      exact distinct (equal ▸ mem)
  | @between rs entries r before stays held ih =>
    obtain ⟨same, nodup⟩ := ih
    refine ⟨?_, nodup⟩
    rw [chronicle_append, ← same]
    rcases (chronicle config rs).step_cases r with
      ⟨clears, -⟩ | ⟨-, idle⟩ | ⟨source, e, offered, -, new, -⟩
    · exact absurd clears (by simp [stays])
    · rw [idle]
    · rw [chronicle_cache] at new
      exact absurd (held _ offered) (by simp [new])

/-- Where sources are distinct, the entry in some position is among the later ones if and only if
its source is. -/
theorem mem_drop_iff_le {entries : List (String × Expr)} (distinct : (entries.map (·.1)).Nodup)
    (first : Nat) {k : Nat} (here : k < entries.length) :
    entries[k].1 ∈ (entries.map (·.1)).drop first ↔ first ≤ k := by
  have hk : k < (entries.map (·.1)).length := by simpa using here
  have hsource : entries[k].1 = (entries.map (·.1))[k] := by simp
  rw [hsource, List.mem_drop_iff_getElem]
  constructor
  · rintro ⟨j, hj, same⟩
    have := distinct.getElem_inj_iff.1 same
    omega
  · intro later
    obtain ⟨j, rfl⟩ := Nat.exists_eq_add_of_le later
    exact ⟨j, by omega, rfl⟩

/-- **How long an entry stays has a closed form.** Some entries are inserted under distinct sources
into an empty cache with room, and in between the cache is only read or offered what it holds. It
then holds exactly the last of the entries, in their order, as many as `CacheConfig.resident` says
of their number. So the entry in position `k` is there until so many have come in that its batch has
to make room, however often it was read. -/
theorem held_of_inserts (room : 0 < config.capacity) {rs : List (Request ε)}
    {entries : List (String × Expr)} (inserts : Inserts config rs entries) :
    let c := (Request.replay Request.perform { config } rs).2
    let n := entries.length
    c.entries = entries.drop (n - config.resident n) ∧ c.size = config.resident n ∧
      (∀ source, c.contains source = true ↔
        source ∈ (entries.drop (n - config.resident n)).map (·.1)) ∧
      ∀ k, ∀ here : k < n,
        c.contains entries[k].1 = true ↔ n ≤ config.capacity + k / config.batch * config.batch := by
  intro c n
  obtain ⟨same, distinct⟩ := inserts.arrivals room
  have hcache : (chronicle config rs).cache = c := chronicle_cache config rs
  have hentries : c.entries = entries.drop (n - config.resident n) := by
    have last := chronicle_entries room rs
    rwa [same, hcache] at last
  have hsize : c.size = config.resident n := by
    rw [← hcache, chronicle_size room rs, same]
  have hkeys (source : String) : c.contains source = true ↔
      source ∈ (entries.drop (n - config.resident n)).map (·.1) := by
    rw [contains_iff_mem_keys, keys, hentries]
  refine ⟨hentries, hsize, hkeys, fun k here => ?_⟩
  rw [hkeys, List.map_drop, mem_drop_iff_le distinct _ here,
    CacheConfig.sub_resident_le_iff room here]

/-- Six sources for a cache with room for three, which drops two at once, with a look at the first
one, the first one once more and a source that does not parse in between. -/
def refilling : List (Request Unit) := [
  .insert "a" (.var "a"), .insert "b" (.var "b"), .get "a", .insert "c" (.var "c"),
  .insert "a" (.var "b"), .insert "d" (.var "d"), .getOrParse (fun _ => .error ()) "a",
  .insert "e" (.var "e"), .contains "c", .insert "f" (.var "f")]

/-- The hypotheses of `held_of_inserts` are satisfiable: here the fourth and the sixth source drop
two others each. -/
theorem held_of_inserts_refilling :
    let config : CacheConfig := { capacity := 3, evictionBatch := 2 }
    let entries := ["a", "b", "c", "d", "e", "f"].map fun source => (source, Expr.var source)
    let c := (Request.replay Request.perform { config } refilling).2
    0 < config.capacity ∧ Inserts config refilling entries ∧ config.resident 6 = 2 ∧
      c.keys = ["e", "f"] ∧ c.contains "d" = false ∧ c.contains "e" = true := by
  intro config entries c
  have three : Inserts config (refilling.take 4) (entries.take 3) :=
    (((Inserts.nothing.further rfl (by decide)).further rfl (by decide)).between rfl
      (by rintro _ ⟨⟩)).further rfl (by decide)
  have four : Inserts config (refilling.take 6) (entries.take 4) :=
    (three.between rfl (by rintro _ ⟨⟩; decide)).further rfl (by decide)
  have five : Inserts config (refilling.take 8) (entries.take 5) :=
    (four.between rfl (by rintro _ ⟨⟩)).further rfl (by decide)
  have inserts : Inserts config refilling entries :=
    (five.between rfl (by rintro _ ⟨⟩)).further rfl (by decide)
  obtain ⟨last, -, -, there⟩ := held_of_inserts (by decide) inserts
  refine ⟨by decide, inserts, by decide, ?_, ?_, ?_⟩
  · exact (congrArg (List.map Prod.fst) last).trans (by decide)
  · exact Bool.eq_false_iff.2 fun held => absurd ((there 3 (by decide)).1 held) (by decide)
  · exact (there 4 (by decide)).2 (by decide)

end Cache
end SurveyLogic
