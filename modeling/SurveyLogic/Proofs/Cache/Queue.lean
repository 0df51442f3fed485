/-
# The cache is a bounded queue

What a cache holds is the end of the sequence of entries that came in. A new source comes in at the
back, a batch leaves at the front when there is no room for it, and nothing else moves.

| request | what comes in | what leaves |
| --- | --- | --- |
| insert, parse: a new source and its tree | the entry | if the cache is full, the oldest batch |
| insert, parse: a source that is there | nothing | nothing |
| parse: a source that does not parse | nothing | nothing |
| get, contains | nothing | nothing |
| clear | nothing | everything |

`Chronicle` keeps the entries that came in since the last clearing beside the cache, and `Queued` is
what holds of the two after any requests.

The queue can be kept apart from the trees: a table of trees under their sources, and the sources in
the order in which they came. Then each operation has to change both. `Indexed` is a cache of this
form. It replies as the cache does, and its table and its queue stay the two halves of one list of
entries (`Tracks`).
-/

import SurveyLogic.Bindings
import SurveyLogic.Cache

namespace SurveyLogic

namespace Bindings

variable {α : Type}

/-- The map without a name. -/
def erase (m : Bindings α) (name : String) : Bindings α :=
  m.filter (·.1 ≠ name)

/-- To erase names one after the other is to keep all others. -/
theorem foldl_erase (m : Bindings α) (gone : List String) :
    gone.foldl Bindings.erase m = m.filter (·.1 ∉ gone) := by
  induction gone generalizing m with
  | nil => exact (List.filter_eq_self.2 fun _ _ => by simp).symm
  | cons name gone ih =>
    rw [List.foldl_cons, ih, erase, List.filter_filter]
    refine List.filter_congr fun entry _ => ?_
    by_cases h : entry.1 = name <;> simp [h]

/-- A new name is added to the entries and takes none away. -/
theorem put_perm {m : Bindings α} {name : String} (absent : name ∉ names m) (value : α) :
    (Bindings.put m name value).Perm ((name, value) :: m) := by
  induction m with
  | nil => exact .refl _
  | cons entry rest ih =>
    obtain ⟨key, old⟩ := entry
    have hne : name ≠ key := fun h => absent (by simp [names, h])
    have hrest : name ∉ names rest := fun h => absent (List.mem_cons_of_mem _ h)
    unfold Bindings.put
    rw [if_neg hne]
    split
    · exact .refl _
    · exact ((ih hrest).cons _).trans (.swap _ _ _)

end Bindings

/-- With distinct names, a look-up finds exactly the entries. -/
theorem lookup_eq_some_iff_mem {α : Type} {entries : List (String × α)}
    (distinct : (entries.map (·.1)).Nodup) {name : String} {value : α} :
    entries.lookup name = some value ↔ (name, value) ∈ entries := by
  constructor
  · intro found
    obtain ⟨before, after, rfl, -⟩ := List.lookup_eq_some_iff.1 found
    simp
  · intro mem
    obtain ⟨before, after, rfl⟩ := List.append_of_mem mem
    refine List.lookup_eq_some_iff.2 ⟨before, after, rfl, fun entry here => ?_⟩
    rw [List.map_append, List.nodup_append] at distinct
    have hne := distinct.2.2 entry.1 (List.mem_map_of_mem here) name (by simp)
    simpa using hne.symm

/-- Where names are distinct, a look-up does not depend on the order. -/
theorem lookup_eq_of_perm {α : Type} {entries others : List (String × α)}
    (same : entries.Perm others) (distinct : (others.map (·.1)).Nodup) (name : String) :
    entries.lookup name = others.lookup name := by
  have distinct' : (entries.map (·.1)).Nodup := (same.map _).nodup_iff.2 distinct
  refine Option.ext fun value => ?_
  rw [lookup_eq_some_iff_mem distinct', lookup_eq_some_iff_mem distinct, same.mem_iff]

namespace Cache

variable {ε : Type} {c : Cache}

/-- The sources in the order in which they came. -/
def keys (c : Cache) : List String :=
  c.entries.map (·.1)

/-- A source is in the cache if it is among its keys. -/
theorem contains_iff_mem_keys {source : String} : c.contains source = true ↔ source ∈ c.keys := by
  have h : source ∈ Bindings.names c.entries ↔ (Bindings.get? c.entries source).isSome :=
    Bindings.mem_names_iff
  exact h.symm

/-- How many entries leave when room is needed: none unless the cache is full. -/
def leaving (c : Cache) : Nat :=
  if c.config.capacity ≤ c.size then min (max c.config.evictionBatch 1) c.size else 0

/-- What is kept when room is needed are the entries behind those that leave. -/
theorem kept_eq_drop (c : Cache) : c.kept = c.entries.drop c.leaving := by
  unfold kept leaving
  split
  · rcases Nat.le_total (max c.config.evictionBatch 1) c.size with h | h
    · rw [Nat.min_eq_left h]
    · rw [Nat.min_eq_right h, List.drop_eq_nil_of_le h]
      exact (List.drop_eq_nil_of_le (Nat.le_refl _)).symm
  · rfl

/-- To insert what is there, or without any room, changes nothing. -/
theorem insert_of_not_new {source : String}
    (h : c.config.capacity = 0 ∨ c.contains source = true) (e : Expr) : c.insert source e = c := by
  unfold insert
  rcases h with h | h <;> simp [h]

/-- To insert a new source drops those that leave and adds it at the end. -/
theorem insert_of_new {source : String} (room : 0 < c.config.capacity)
    (new : c.contains source = false) (e : Expr) :
    c.insert source e = { c with entries := c.entries.drop c.leaving ++ [(source, e)] } := by
  unfold insert
  have hroom : c.config.capacity ≠ 0 := Nat.pos_iff_ne_zero.1 room
  rw [if_neg (by simp [hroom, new]), kept_eq_drop]

/-! ### Requests -/

/-- What can be asked of a cache, `ε` being why a source does not parse. -/
inductive Request (ε : Type) where
  | get (source : String)
  | contains (source : String)
  | insert (source : String) (e : Expr)
  | getOrParse (parse : String → Except ε Expr) (source : String)
  | clear

/-- What a cache replies. -/
inductive Reply (ε : Type) where
  | tree (found : Option Expr)
  | held (b : Bool)
  | parsed (result : Except ε Expr)
  | done

namespace Request

/-- The reply to a request, and the cache after it. -/
def perform (c : Cache) : Request ε → Reply ε × Cache
  | get source => (.tree (c.get? source), c)
  | contains source => (.held (c.contains source), c)
  | insert source e => (.done, c.insert source e)
  | getOrParse parse source =>
    let (result, c) := c.getOrParse parse source
    (.parsed result, c)
  | clear => (.done, c.clear)

/-- Whether a request empties the cache. -/
def clears : Request ε → Bool
  | clear => true
  | _ => false

/-- The replies to some requests one after the other and what is left of a store, `perform` being
what the store does. -/
def replay {S : Type} (perform : S → Request ε → Reply ε × S) (s : S) :
    List (Request ε) → List (Reply ε) × S
  | [] => ([], s)
  | r :: rs =>
    let (reply, next) := perform s r
    let (replies, last) := replay perform next rs
    (reply :: replies, last)

/-- The entry that a request has to offer. -/
def offer? : Request ε → Option (String × Expr)
  | insert source e => some (source, e)
  | getOrParse parse source => (parse source).toOption.map (source, ·)
  | _ => none

/-- A request that clears offers nothing. -/
theorem offer?_of_clears {r : Request ε} (h : r.clears = true) : r.offer? = none := by
  cases r <;> first | rfl | exact nomatch h

/-- The entry that a request brings in: the one that it offers, if the cache can hold any and does
not hold its source. -/
def arrival (c : Cache) (r : Request ε) : List (String × Expr) :=
  r.offer?.toList.filter fun entry => 0 < c.config.capacity && !c.contains entry.1

/-- All that a request other than clearing does to the cache is to insert what it offers. -/
theorem perform_snd {r : Request ε} (h : r.clears = false) (c : Cache) :
    (r.perform c).2 = r.offer?.elim c fun entry => c.insert entry.1 entry.2 := by
  cases r with
  | get source | contains source | insert source e => rfl
  | clear => exact nomatch h
  | getOrParse parse source =>
    simp only [perform, Cache.getOrParse, offer?]
    cases found : c.get? source with
    | some old =>
      have held : c.contains source = true := by simp [Cache.contains, found]
      cases parse source with
      | ok e => exact (insert_of_not_new (.inr held) e).symm
      | error fault => rfl
    | none =>
      cases parse source with
      | ok e => rfl
      | error fault => rfl

end Request

/-! ### What came in -/

/-- A cache, and the entries that came in since it was last cleared, in this order. -/
structure Chronicle where
  cache : Cache
  arrivals : List (String × Expr) := []

/-- With a further request. -/
def Chronicle.step (h : Chronicle) (r : Request ε) : Chronicle where
  cache := (r.perform h.cache).2
  arrivals := if r.clears then [] else h.arrivals ++ r.arrival h.cache

/-- What some requests make of an empty cache. -/
def chronicle (config : CacheConfig) (rs : List (Request ε)) : Chronicle :=
  rs.foldl Chronicle.step { cache := { config } }

/-- The cache holds the last of the entries that came in, each source once and no more entries than
it may. -/
structure Queued (config : CacheConfig) (h : Chronicle) : Prop where
  bounds : h.cache.config = config
  distinct : h.cache.keys.Nodup
  bounded : h.cache.size ≤ config.capacity
  recent : h.cache.entries <:+ h.arrivals

/-- The last entries but some, and a new one, are the last of all with it. -/
theorem suffix_drop_append {α : Type} {xs ys : List α} (h : xs <:+ ys) (n : Nat) (x : α) :
    xs.drop n ++ [x] <:+ ys ++ [x] := by
  obtain ⟨before, rfl⟩ := h
  refine ⟨before ++ xs.take n, ?_⟩
  rw [List.append_assoc, ← List.append_assoc (xs.take n), List.take_append_drop,
    List.append_assoc]

/-- In a full cache the batch is a part of what it holds, and there is at least one entry in it. -/
theorem leaving_eq (bounded : c.size ≤ c.config.capacity) :
    c.leaving =
      if c.size = c.config.capacity then min (max c.config.evictionBatch 1) c.config.capacity
      else 0 := by
  unfold leaving
  rcases Nat.lt_or_eq_of_le bounded with h | h
  · rw [if_neg (Nat.not_le.2 h), if_neg (Nat.ne_of_lt h)]
  · rw [if_pos (Nat.le_of_eq h.symm), if_pos h, h]

/-- What leaves makes room. -/
theorem size_sub_leaving_lt (room : 0 < c.config.capacity) (bounded : c.size ≤ c.config.capacity) :
    c.size - c.leaving < c.config.capacity := by
  unfold leaving
  split <;> omega

/-- Sources stay distinct when one is inserted. -/
theorem nodup_keys_insert (distinct : c.keys.Nodup) (source : String) (e : Expr) :
    (c.insert source e).keys.Nodup := by
  by_cases h : c.config.capacity = 0 ∨ c.contains source = true
  · rw [insert_of_not_new h]
    exact distinct
  · obtain ⟨room, new⟩ := not_or.1 h
    rw [insert_of_new (Nat.pos_of_ne_zero room) (by simpa using new)]
    rw [contains_iff_mem_keys] at new
    simp only [keys, List.map_append, List.map_drop, List.map_cons, List.map_nil] at *
    have sub : ((c.entries.map (·.1)).drop c.leaving).Sublist (c.entries.map (·.1)) :=
      List.drop_sublist _ _
    refine List.nodup_append.2 ⟨distinct.sublist sub, by simp, fun a ha b hb hab => ?_⟩
    rw [List.mem_singleton.1 hb] at hab
    exact new (hab ▸ sub.mem ha)

/-- A new entry keeps the cache a bounded queue. -/
theorem Queued.arrive {config : CacheConfig} {h : Chronicle} (queued : Queued config h)
    {source : String} (room : 0 < config.capacity) (new : h.cache.contains source = false)
    (e : Expr) :
    Queued config ⟨h.cache.insert source e, h.arrivals ++ [(source, e)]⟩ := by
  obtain ⟨c, arrivals⟩ := h
  obtain ⟨rfl, distinct, bounded, recent⟩ := queued
  refine ⟨?_, nodup_keys_insert distinct source e, ?_, ?_⟩ <;> rw [insert_of_new room new]
  · have hlt := size_sub_leaving_lt room bounded
    simp only [size, List.length_append, List.length_drop, List.length_singleton] at hlt ⊢
    exact hlt
  · exact suffix_drop_append recent _ _

/-- A request empties the cache, or leaves it as it is, or brings in the entry that it offers. -/
theorem Chronicle.step_cases (h : Chronicle) (r : Request ε) :
    (r.clears = true ∧ h.step r = ⟨h.cache.clear, []⟩) ∨
    ((∀ entry, r.offer? = some entry →
        h.cache.config.capacity = 0 ∨ h.cache.contains entry.1 = true) ∧ h.step r = h) ∨
    ∃ source e, r.offer? = some (source, e) ∧ 0 < h.cache.config.capacity ∧
      h.cache.contains source = false ∧
      h.step r = ⟨h.cache.insert source e, h.arrivals ++ [(source, e)]⟩ := by
  cases hclears : r.clears with
  | true =>
    refine .inl ⟨rfl, ?_⟩
    cases r <;> first | rfl | exact nomatch hclears
  | false =>
    have hstep : h.step r = ⟨r.offer?.elim h.cache fun entry => h.cache.insert entry.1 entry.2,
        h.arrivals ++ r.arrival h.cache⟩ := by
      rw [← Request.perform_snd hclears h.cache]
      simp [Chronicle.step, hclears]
    rw [hstep, Request.arrival]
    cases r.offer? with
    | none =>
      refine .inr (.inl ⟨fun entry offered => ?_, by simp⟩)
      exact absurd offered.symm (Option.some_ne_none entry)
    | some entry =>
      obtain ⟨source, e⟩ := entry
      by_cases held : h.cache.config.capacity = 0 ∨ h.cache.contains source = true
      · have hsame := insert_of_not_new held e
        have hnone :
            (decide (0 < h.cache.config.capacity) && !h.cache.contains source) = false := by
          rcases held with held | held <;> simp [held]
        refine .inr (.inl ⟨fun entry offered => ?_, by simp [hsame, hnone]⟩)
        cases offered
        exact held
      · obtain ⟨room, new⟩ := not_or.1 held
        have room : 0 < h.cache.config.capacity := Nat.pos_of_ne_zero room
        have new : h.cache.contains source = false := by simpa using new
        exact .inr (.inr ⟨source, e, rfl, room, new, by simp [room, new]⟩)

/-- Any request keeps the cache a bounded queue. -/
theorem Queued.step {config : CacheConfig} {h : Chronicle} (queued : Queued config h)
    (r : Request ε) : Queued config (h.step r) := by
  rcases h.step_cases r with ⟨-, cleared⟩ | ⟨-, same⟩ | ⟨source, e, -, room, new, arrived⟩
  · rw [cleared]
    exact ⟨queued.bounds, List.nodup_nil, Nat.zero_le _, List.suffix_refl _⟩
  · rw [same]
    exact queued
  · rw [arrived]
    exact queued.arrive (queued.bounds ▸ room) new e

/-- **After any requests the cache is a bounded queue.** -/
theorem chronicle_queued (config : CacheConfig) (rs : List (Request ε)) :
    Queued config (chronicle config rs) := by
  have run (h : Chronicle) (queued : Queued config h) : Queued config (rs.foldl .step h) := by
    induction rs generalizing h with
    | nil => exact queued
    | cons r rs ih => exact ih _ (queued.step r)
  exact run _ ⟨rfl, List.nodup_nil, Nat.zero_le _, List.suffix_refl _⟩

/-! ### A table and a queue -/

/-- A cache that keeps its trees in a table and, apart from it, their sources in the order in which
they came. -/
structure Indexed where
  config : CacheConfig
  table : Bindings Expr := []
  order : List String := []

namespace Indexed

/-- The number of trees. -/
def size (i : Indexed) : Nat :=
  i.table.length

/-- The tree of a source, if the table holds it. -/
def get? (i : Indexed) (source : String) : Option Expr :=
  Bindings.get? i.table source

/-- Whether the table holds a source. -/
def contains (i : Indexed) (source : String) : Bool :=
  Bindings.has i.table source

/-- Without the oldest batch if the table is full: the batch leaves the queue, and then each source
in it the table. -/
def makeRoom (i : Indexed) : Indexed :=
  if i.config.capacity ≤ i.size then
    let batch := min (max i.config.evictionBatch 1) i.order.length
    { i with
      table := (i.order.take batch).foldl Bindings.erase i.table
      order := i.order.drop batch }
  else i

/-- With a source at the end of the queue and its tree in the table, unless the source is there or
there is no room for any. -/
def insert (i : Indexed) (source : String) (e : Expr) : Indexed :=
  if i.config.capacity = 0 then i
  else if i.contains source then i
  else
    let roomy := i.makeRoom
    { roomy with
      table := Bindings.put roomy.table source e
      order := roomy.order ++ [source] }

/-- The tree of a source, parsed if the table does not hold it. -/
def getOrParse (i : Indexed) (parse : String → Except ε Expr) (source : String) :
    Except ε Expr × Indexed :=
  match i.get? source with
  | some e => (.ok e, i)
  | none =>
    match parse source with
    | .ok e => (.ok e, i.insert source e)
    | .error fault => (.error fault, i)

/-- With an empty table and an empty queue. -/
def clear (i : Indexed) : Indexed :=
  { i with table := [], order := [] }

/-- The reply to a request, and the table and queue after it. -/
def perform (i : Indexed) : Request ε → Reply ε × Indexed
  | .get source => (.tree (i.get? source), i)
  | .contains source => (.held (i.contains source), i)
  | .insert source e => (.done, i.insert source e)
  | .getOrParse parse source =>
    let (result, i) := i.getOrParse parse source
    (.parsed result, i)
  | .clear => (.done, i.clear)

/-- The table and the queue are the two halves of the entries of a cache. -/
structure Tracks (i : Indexed) (c : Cache) : Prop where
  config : i.config = c.config
  distinct : c.keys.Nodup
  order : i.order = c.keys
  table : i.table.Perm c.entries

variable {i : Indexed}

/-- Both find the same tree. -/
theorem Tracks.get? (h : i.Tracks c) (source : String) : i.get? source = c.get? source :=
  lookup_eq_of_perm h.table h.distinct source

/-- Both find the same sources. -/
theorem Tracks.contains (h : i.Tracks c) (source : String) :
    i.contains source = c.contains source :=
  congrArg Option.isSome (h.get? source)

/-- Both are of the same size. -/
theorem Tracks.size (h : i.Tracks c) : i.size = c.size :=
  h.table.length_eq

/-- Of entries with distinct names, those that are not among the first names are the later ones. -/
theorem filter_not_mem_take {α : Type} {entries : List (String × α)}
    (distinct : (entries.map (·.1)).Nodup) (n : Nat) :
    entries.filter (·.1 ∉ (entries.map (·.1)).take n) = entries.drop n := by
  rw [← List.take_append_drop n entries, List.map_append, List.nodup_append] at distinct
  obtain ⟨-, -, apart⟩ := distinct
  have first : (entries.take n).filter (·.1 ∉ (entries.map (·.1)).take n) = [] := by
    refine List.filter_eq_nil_iff.2 fun entry mem => ?_
    have hmem : entry.1 ∈ (entries.map (·.1)).take n := by
      rw [← List.map_take]
      exact List.mem_map_of_mem mem
    simpa using hmem
  have later : (entries.drop n).filter (·.1 ∉ (entries.map (·.1)).take n) = entries.drop n := by
    refine List.filter_eq_self.2 fun entry mem => decide_eq_true fun here => ?_
    rw [← List.map_take] at here
    exact apart entry.1 here entry.1 (List.mem_map_of_mem mem) rfl
  calc entries.filter (·.1 ∉ (entries.map (·.1)).take n)
      = (entries.take n ++ entries.drop n).filter (·.1 ∉ (entries.map (·.1)).take n) := by
        rw [List.take_append_drop]
    _ = entries.drop n := by rw [List.filter_append, first, later, List.nil_append]

/-- Taking a batch off the queue and its sources out of the table keeps the halves together. -/
theorem Tracks.makeRoom (h : i.Tracks c) :
    i.makeRoom.Tracks { c with entries := c.entries.drop c.leaving } := by
  have hkeys : keys { c with entries := c.entries.drop c.leaving } = c.keys.drop c.leaving :=
    List.map_drop
  have hdistinct : (c.keys.drop c.leaving).Nodup := h.distinct.sublist (List.drop_sublist _ _)
  have hlength : i.order.length = c.size := by
    rw [h.order, keys, List.length_map]
    rfl
  unfold Indexed.makeRoom
  split
  · rename_i full
    have hbatch : min (max i.config.evictionBatch 1) i.order.length = c.leaving := by
      rw [h.config, h.size] at full
      rw [leaving, if_pos full, h.config, hlength]
    simp only [hbatch, Bindings.foldl_erase]
    refine ⟨h.config, hkeys ▸ hdistinct, hkeys ▸ congrArg _ h.order, ?_⟩
    have hstay := h.table.filter (·.1 ∉ i.order.take c.leaving)
    rw [h.order, keys, filter_not_mem_take h.distinct] at hstay
    rw [h.order]
    exact hstay
  · rename_i roomy
    have hnone : c.leaving = 0 := by
      rw [h.config, h.size] at roomy
      rw [leaving, if_neg roomy]
    simpa [hnone] using h

/-- To insert an entry in both keeps the halves together. -/
theorem Tracks.insert (h : i.Tracks c) (source : String) (e : Expr) :
    (i.insert source e).Tracks (c.insert source e) := by
  unfold Indexed.insert
  rw [h.config, h.contains]
  split
  · rename_i hzero
    rw [insert_of_not_new (.inl hzero)]
    exact h
  split
  · rename_i held
    rw [insert_of_not_new (.inr held)]
    exact h
  rename_i hroom hnew
  have new : c.contains source = false := by simpa using hnew
  have distinct := nodup_keys_insert h.distinct source e
  have room := h.makeRoom
  rw [insert_of_new (Nat.pos_of_ne_zero hroom) new] at distinct ⊢
  refine ⟨room.config, distinct, ?_, ?_⟩
  · simp only [room.order, keys, List.map_append, List.map_cons, List.map_nil]
  · have absent : source ∉ Bindings.names i.makeRoom.table := by
      intro mem
      have hmem := (room.table.map (·.1)).mem_iff.1 mem
      rw [contains_iff_mem_keys] at hnew
      exact hnew ((List.Sublist.map _ (List.drop_sublist _ _)).mem hmem)
    have hput := Bindings.put_perm absent e
    exact hput.trans ((room.table.cons _).trans (List.perm_append_singleton _ _).symm)

/-- Both reply alike to a request, and the halves stay together. -/
theorem Tracks.perform (h : i.Tracks c) (r : Request ε) :
    (i.perform r).1 = (r.perform c).1 ∧ (i.perform r).2.Tracks (r.perform c).2 := by
  cases r with
  | get source => exact ⟨congrArg _ (h.get? source), h⟩
  | contains source => exact ⟨congrArg _ (h.contains source), h⟩
  | insert source e => exact ⟨rfl, h.insert source e⟩
  | clear => exact ⟨rfl, h.config, List.nodup_nil, rfl, .refl _⟩
  | getOrParse parse source =>
    simp only [Indexed.perform, Request.perform, Indexed.getOrParse, Cache.getOrParse, h.get?]
    cases c.get? source with
    | some e => exact ⟨rfl, h⟩
    | none =>
      cases parse source with
      | ok e => exact ⟨rfl, h.insert source e⟩
      | error fault => exact ⟨rfl, h⟩

/-- Both reply alike to some requests one after the other. -/
theorem Tracks.replay (h : i.Tracks c) (rs : List (Request ε)) :
    (Request.replay Indexed.perform i rs).1 = (Request.replay Request.perform c rs).1 ∧
      (Request.replay Indexed.perform i rs).2.Tracks (Request.replay Request.perform c rs).2 := by
  induction rs generalizing i c with
  | nil => exact ⟨rfl, h⟩
  | cons r rs ih =>
    obtain ⟨same, next⟩ := h.perform r
    obtain ⟨others, last⟩ := ih next
    exact ⟨List.cons_eq_cons.2 ⟨same, others⟩, last⟩

end Indexed

/-- The cache of a chronicle is the one that the requests leave. -/
theorem chronicle_cache (config : CacheConfig) (rs : List (Request ε)) :
    (chronicle config rs).cache = (Request.replay Request.perform { config } rs).2 := by
  have run (h : Chronicle) :
      (rs.foldl .step h).cache = (Request.replay Request.perform h.cache rs).2 := by
    induction rs generalizing h with
    | nil => rfl
    | cons r rs ih => exact ih (h.step r)
  exact run { cache := { config } }

/-- **The cache refines a bounded first-in-first-out queue.** After any requests to an empty cache
it holds each source once, no more entries than it may, and of the entries that came in since the
last clearing the last ones in their order. A source that is there keeps its tree and its place. A
new one is there after its insertion, at the end; nothing leaves unless the cache was full, and then
a batch of the oldest. A cache without room stays empty, and a source that does not parse changes
nothing.

Kept as a table and a queue, it gives the same replies. The queue is that of the cache, and holds
exactly the sources of the table, each once. -/
theorem chronicle_fifo (config : CacheConfig) (rs : List (Request ε)) :
    let h := chronicle config rs
    let c := h.cache
    let plain := Request.replay Request.perform { config } rs
    let indexed := Request.replay Indexed.perform { config } rs
    (c.keys.Nodup ∧ (∀ source, source ∈ c.keys ↔ c.contains source = true) ∧
      c.size ≤ config.capacity ∧ c.entries <:+ h.arrivals) ∧
    (∀ source e, c.contains source = true → c.insert source e = c) ∧
    (∀ source e, 0 < config.capacity → c.contains source = false →
      (c.insert source e).get? source = some e ∧
      (c.insert source e).entries =
        c.entries.drop (if c.size = config.capacity then
          min (max config.evictionBatch 1) config.capacity else 0) ++ [(source, e)]) ∧
    (config.capacity = 0 → c.entries = []) ∧
    (∀ parse source, ∀ fault : ε, parse source = .error fault →
      (c.getOrParse parse source).2 = c) ∧
    (plain.2 = c ∧ indexed.1 = plain.1 ∧ indexed.2.order = c.keys ∧ indexed.2.order.Nodup ∧
      (∀ source, source ∈ indexed.2.order ↔ indexed.2.contains source = true) ∧
      indexed.2.table.Perm c.entries) := by
  intro h c plain indexed
  obtain ⟨bounds, distinct, bounded, recent⟩ := chronicle_queued config rs
  have hcache : plain.2 = c := (chronicle_cache config rs).symm
  have empty : Indexed.Tracks { config } { config } := ⟨rfl, List.nodup_nil, rfl, .refl _⟩
  obtain ⟨replies, tracks⟩ := empty.replay rs
  have tracks : indexed.2.Tracks c := hcache ▸ tracks
  refine ⟨⟨distinct, fun source => contains_iff_mem_keys.symm, bounded, recent⟩,
    fun source e held => insert_of_not_new (.inr held) e, fun source e room new => ?_,
    fun none => ?_, fun parse source fault failed => ?_,
    hcache, replies, tracks.order, tracks.order ▸ distinct, fun source => ?_, tracks.table⟩
  · have hentries : (c.insert source e).entries = c.entries.drop c.leaving ++ [(source, e)] := by
      rw [insert_of_new (bounds ▸ room) new]
    refine ⟨?_, ?_⟩
    · have hmem : (source, e) ∈ (c.insert source e).entries := by simp [hentries]
      exact (lookup_eq_some_iff_mem (nodup_keys_insert distinct source e)).2 hmem
    · rw [hentries, leaving_eq (bounds ▸ bounded), bounds]
  · rw [none] at bounded
    exact List.length_eq_zero_iff.1 (Nat.le_zero.1 bounded)
  · unfold getOrParse
    rw [failed]
    split <;> rfl
  · rw [tracks.order, tracks.contains, contains_iff_mem_keys]

/-- Four sources come in where there is room for three. -/
example : (chronicle ⟨3, 2⟩ (["a", "b", "c", "a", "d"].map fun source =>
    Request.getOrParse (ε := Unit) (fun s => .ok (.var s)) source)).cache.keys = ["c", "d"] := by
  decide

end Cache
end SurveyLogic
