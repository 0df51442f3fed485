/-
# What an expression can see

A tree reads a context in two ways: it looks up the heads of its variable paths, and it hands the
context to the functions that it calls. So two contexts in which these heads have the same values,
and under which these functions answer alike, give the tree the same value or the same error,
whatever else they hold.

The evaluations in the two contexts run side by side. Each has a host of its own, and the two hosts
stay in a relation that the called functions keep: equality, if both evaluations begin at the same
time, or no condition at all, if no called function looks at its host.

| functions of the library | answer alike |
| --- | --- |
| `getvalue`, `rowvalue`, `panelvalue`, `propertyvalue`, `getvar` | in one context |
| those of dates | whenever the clocks show the same time |
| all others | always |
-/

import Mathlib.Data.List.Nodup
import SurveyLogic.Library
import SurveyLogic.Proofs.Evaluation.Simulation

namespace SurveyLogic

variable {σ : Type}

/-- The first segment of a path is the part before the first dot, also of an empty path. -/
theorem pathSegments_eq_cons (cs : List Char) :
    ∃ rest, pathSegments cs = cs.takeWhile (· ≠ '.') :: rest := by
  induction cs with
  | nil => exact ⟨[], rfl⟩
  | cons c cs ih =>
    obtain ⟨rest, split⟩ := ih
    by_cases dot : c = '.'
    · exact ⟨cs.takeWhile (· ≠ '.') :: rest, by simp [pathSegments, split, dot]⟩
    · exact ⟨rest, by simp [pathSegments, split, dot]⟩

namespace Context

/-- The segments of a path behind its head. -/
def furtherSegments (path : String) : List String :=
  (pathSegments path.toList).tail.map String.ofList

/-- A path looks up its head and follows its other segments. -/
theorem resolveFrom_eq (head? : String → Option Value) (path : String) :
    resolveFrom head? path =
      (Value.follow? (head? (Expr.headOfPath path)) (furtherSegments path)).getD .null := by
  obtain ⟨rest, split⟩ := pathSegments_eq_cons path.toList
  rw [resolveFrom, furtherSegments, split]
  rfl

/-- Of all that a context holds, a path sees what there is under its head. -/
theorem resolve_congr {c₁ c₂ : Context} {path : String}
    (seen : c₁.lookup? (Expr.headOfPath path) = c₂.lookup? (Expr.headOfPath path)) :
    c₁.resolve path = c₂.resolve path := by
  rw [resolve, resolve, resolveFrom_eq, resolveFrom_eq, seen]

end Context

namespace Evaluation

variable {α : Type} {R : σ → σ → Prop}

/-- Started on related hosts, two evaluations give the same and leave related hosts. -/
def Alike (R : σ → σ → Prop) (m₁ m₂ : Evaluation σ α) : Prop :=
  ∀ a b : CallState σ, R a.host b.host →
    (m₁.run.run a).1 = (m₂.run.run b).1 ∧ R (m₁.run.run a).2.host (m₂.run.run b).2.host

end Evaluation

/-- On related hosts a function gives the same result in two contexts and leaves related hosts. -/
def Callable.Alike (R : σ → σ → Prop) (c₁ c₂ : Context) (f : Callable σ) : Prop :=
  ∀ args a b, R a b →
    (f.call args c₁ a).result = (f.call args c₂ b).result ∧
      R (f.call args c₁ a).host (f.call args c₂ b).host

/-- A call of a function that answers alike is a step that does. -/
theorem Callable.Alike.invoke {R : σ → σ → Prop} {c₁ c₂ : Context} {f : Callable σ}
    (h : f.Alike R c₁ c₂) (args : List Value) :
    Evaluation.Alike R (f.invoke args c₁) (f.invoke args c₂) := by
  intro a b related
  rw [run_invoke, run_invoke]
  exact h args a.host b.host related

namespace Expr

variable {R : σ → σ → Prop} {functions : Registry σ} {c₁ c₂ : Context}

/-- A tree whose paths and functions are alike in two contexts evaluates alike in them. -/
theorem evaluate_alike {e : Expr}
    (seen : ∀ path ∈ e.variablePaths,
      c₁.lookup? (headOfPath path) = c₂.lookup? (headOfPath path))
    (called : ∀ name ∈ e.functions, ∀ f, Bindings.get? functions name = some f → f.Alike R c₁ c₂) :
    Evaluation.Alike R (e.evaluate functions c₁) (e.evaluate functions c₂) := by
  have paths : ∀ path ∈ e.variablePaths, c₁.resolve path = c₂.resolve path :=
    fun path mem => Context.resolve_congr (seen path mem)
  have keep : ∀ name ∈ e.functions,
      Option.Rel (Callable.Keep (fun a b => R a.host b.host) c₁ c₂)
        (Bindings.get? functions name) (Bindings.get? functions name) :=
    fun name mem => rel_self fun f found => (called name mem f found).invoke
  exact evaluate_related e paths keep

/-- **A tree sees the heads of its paths and what its functions see.** -/
theorem run_congr {e : Expr} (seen : ∀ base ∈ e.baseNames, c₁.lookup? base = c₂.lookup? base)
    (called : ∀ name ∈ e.functions, ∀ f, Bindings.get? functions name = some f → f.Alike R c₁ c₂)
    {a b : σ} (related : R a b) : (e.run functions c₁ a).1 = (e.run functions c₂ b).1 := by
  have heads : ∀ path ∈ e.variablePaths,
      c₁.lookup? (headOfPath path) = c₂.lookup? (headOfPath path) :=
    fun path mem => seen _ (List.mem_map_of_mem mem)
  exact (evaluate_alike heads called { host := a } { host := b } related).1

end Expr

/-- Entries under distinct names are all found. -/
theorem Bindings.get?_ofList_of_nodup {α : Type} {entries : List (String × α)}
    (distinct : (entries.map (·.1)).Nodup) {name : String} {value : α}
    (mem : (name, value) ∈ entries) :
    Bindings.get? (Bindings.ofList entries) name = some value := by
  refine get?_putAll_of_mem [] mem fun other listed => ?_
  have same : (name, other) = (name, value) := List.inj_on_of_nodup_map distinct listed mem rfl
  exact congrArg Prod.snd same

namespace Registry

/-- Registering functions binds them under their names in lower case. -/
theorem registerAll_eq_putAll (r : Registry σ) (new : List (String × Callable σ)) :
    r.registerAll new = Bindings.putAll r (new.map fun entry => (Text.lower entry.1, entry.2)) := by
  rw [Bindings.putAll, List.foldl_map]
  rfl

/-- A name stands for one of the functions registered under it, or for what it did. -/
theorem mem_of_get?_registerAll {r : Registry σ} {new : List (String × Callable σ)} {name : String}
    {f : Callable σ} (found : Bindings.get? (r.registerAll new) name = some f) :
    (∃ entry ∈ new, Text.lower entry.1 = name ∧ entry.2 = f) ∨ Bindings.get? r name = some f := by
  induction new generalizing r with
  | nil => exact .inr found
  | cons first rest ih =>
    rcases ih found with ⟨entry, mem, same⟩ | found
    · exact .inl ⟨entry, List.mem_cons_of_mem _ mem, same⟩
    · change Bindings.get? (Bindings.put r (Text.lower first.1) first.2) name = some f at found
      rw [Bindings.get?_put] at found
      split at found
      · rename_i here
        exact .inl ⟨first, List.mem_cons_self, here.symm, Option.some.inj found⟩
      · exact .inr found

end Registry

namespace Library

/-- The functions that read the context. -/
def contextReaders : List String :=
  ["getvalue", "rowvalue", "panelvalue", "propertyvalue", "getvar"]

/-- The functions that read the clock. -/
def clockReaders : List String :=
  dates.map (·.1)

/-- A function of the library does not read the context. -/
def Blind (f : Function) : Prop :=
  ∀ args c₁ c₂, f args c₁ = f args c₂

/-- The names of the library are in lower case. -/
theorem lower_name : ∀ name ∈ timeless.map (·.1) ++ clockReaders, Text.lower name = name := by
  have all : ((timeless.map (·.1) ++ clockReaders).all fun name => Text.lower name == name) := by
    decide +kernel
  exact fun name mem => eq_of_beq (List.all_eq_true.1 all name mem)

/-- The names of the library are distinct. -/
theorem names_nodup : (timeless.map (·.1) ++ clockReaders).Nodup := by
  decide +kernel

/-- The functions of the library under their names. -/
def entries (clock : σ → Int) : List (String × Callable σ) :=
  timeless.map (fun entry => (entry.1, .ofFunction entry.2)) ++
    dates.map fun entry => (entry.1, .ofClock clock entry.2)

/-- The library has no other names. -/
theorem names_entries (clock : σ → Int) :
    (entries clock).map (·.1) = timeless.map (·.1) ++ clockReaders := by
  rw [entries, List.map_append, List.map_map, List.map_map]
  rfl

/-- Each function of the library is found under its name. -/
theorem find?_of_mem_entries {clock : σ → Int} {name : String} {f : Callable σ}
    (mem : (name, f) ∈ entries clock) : (library clock).find? name = some f := by
  have lower : ∀ entry ∈ entries clock, Text.lower entry.1 = entry.1 := fun entry mem =>
    lower_name _ (names_entries clock ▸ List.mem_map_of_mem mem)
  have kept : (entries clock).map (fun entry => (Text.lower entry.1, entry.2)) = entries clock := by
    refine Eq.trans ?_ (List.map_id _)
    exact List.map_congr_left fun entry mem => Prod.ext (lower entry mem) rfl
  have bound : library clock = Bindings.ofList (entries clock) := by
    rw [Bindings.ofList, ← kept]
    exact Registry.registerAll_eq_putAll [] (entries clock)
  have named : Text.lower name = name := lower (name, f) mem
  rw [Registry.find?, named, bound]
  exact Bindings.get?_ofList_of_nodup (names_entries clock ▸ names_nodup) mem

/-- Each function of the library that does not read the clock is found under its name. -/
theorem find?_of_mem_timeless (clock : σ → Int) {name : String} {f : Function}
    (mem : (name, f) ∈ timeless) : (library clock).find? name = some (.ofFunction f) :=
  find?_of_mem_entries (List.mem_append_left _ (List.mem_map.2 ⟨(name, f), mem, rfl⟩))

/-- All others of the library do not read the context. -/
theorem blind_of_not_mem_contextReaders :
    ∀ entry ∈ timeless, entry.1 ∉ contextReaders → Blind entry.2 := by
  have families : ∀ entry ∈ logic ++ arithmetic ++ texts ++ lists, Blind entry.2 := by
    simp only [logic, arithmetic, texts, lists, List.cons_append, List.nil_append,
      List.forall_mem_cons]
    and_intros
    all_goals first | exact fun _ _ _ => rfl | exact fun _ mem => nomatch mem
  intro entry mem unlisted
  rcases List.mem_append.1 mem with mem | mem
  · exact families entry mem
  · simp only [answers, List.mem_cons, List.not_mem_nil, or_false] at mem
    rcases mem with rfl | mem
    · exact fun _ _ _ => rfl
    · refine absurd ?_ unlisted
      rcases mem with rfl | rfl | rfl | rfl | rfl <;> simp [contextReaders]

/-- A function of the library answers alike in two contexts unless it reads the context, or reads
the clock and the hosts show different times. -/
theorem alike {R : σ → σ → Prop} {clock : σ → Int} {name : String} {f : Callable σ}
    (found : Bindings.get? (library clock) name = some f) (unread : name ∉ contextReaders)
    (timed : name ∈ clockReaders → ∀ a b, R a b → clock a = clock b) (c₁ c₂ : Context) :
    f.Alike R c₁ c₂ := by
  rcases Registry.mem_of_get?_registerAll found with ⟨entry, mem, named, rfl⟩ | found
  · rcases List.mem_append.1 mem with mem | mem
    · obtain ⟨⟨key, g⟩, listed, rfl⟩ := List.mem_map.1 mem
      have known : key ∈ timeless.map (·.1) := List.mem_map_of_mem listed
      have key_eq : key = name := (lower_name key (List.mem_append_left _ known)).symm.trans named
      have blind := blind_of_not_mem_contextReaders (key, g) listed (key_eq ▸ unread)
      exact fun args a b related => ⟨blind args c₁ c₂, related⟩
    · obtain ⟨⟨key, g⟩, listed, rfl⟩ := List.mem_map.1 mem
      have known : key ∈ clockReaders := List.mem_map_of_mem listed
      have key_eq : key = name := (lower_name key (List.mem_append_right _ known)).symm.trans named
      intro args a b related
      have now := timed (key_eq ▸ known) a b related
      exact ⟨congrArg (fun now => Except.ok (g now args)) now, related⟩
  · exact nomatch found

end Library

/-- **Dependencies are all that an expression sees.** A tree has the same value or the same error in
two contexts that agree on the head of each of its variable paths, if each function that it calls
answers alike in both, whatever else is in their layers, rows and panels. The two evaluations may
start from different hosts as long as these answers do not depend on the difference.

In the library every function is like that in all contexts but those that read the context, and
those of dates as long as the clocks show the same time. -/
theorem Expr.run_eq_of_dependencies {R : σ → σ → Prop} {functions : Registry σ} {e : Expr}
    {c₁ c₂ : Context} (seen : ∀ base ∈ e.baseNames, c₁.lookup? base = c₂.lookup? base)
    (called : ∀ name ∈ e.functions, ∀ f, Bindings.get? functions name = some f →
      f.Alike R c₁ c₂) :
    (∀ a b, R a b → (e.run functions c₁ a).1 = (e.run functions c₂ b).1) ∧
      ∀ (clock : σ → Int) (name : String) (f : Callable σ),
        Bindings.get? (library clock) name = some f → name ∉ Library.contextReaders →
          (name ∈ Library.clockReaders → ∀ a b, R a b → clock a = clock b) → f.Alike R c₁ c₂ :=
  ⟨fun _ _ related => Expr.run_congr seen called related,
    fun _ _ _ found unread timed => Library.alike found unread timed c₁ c₂⟩

/-- `Concat({q.0}, {v}) + {p.x.y}` -/
def Expr.layered : Expr :=
  .binary .add (.call "Concat" [.var "q.0", .var "v"]) (.var "p.x.y")

/-- A context with a missing head and a `null` that hides the property of its name. -/
def Context.sparse : Context where
  values := some [("q", .array [.string "a"])]
  vars := some [("p", .null)]
  properties := some [("p", .string "hidden"), ("v", .string "b")]

/-- A context with more answers, other layers, a row and a panel. -/
def Context.crowded : Context where
  values := some [("other", .bool true), ("p", .null), ("q", .array [.string "a"])]
  vars := some [("p", .string "hidden"), ("v", .string "b")]
  row := some [("v", .string "row")]
  panel := some [("q", .string "panel")]

/-- The hypotheses of `Expr.run_eq_of_dependencies` are satisfiable by contexts that differ in every
layer, at different times. -/
theorem Expr.run_eq_of_dependencies_layered :
    (∀ base ∈ layered.baseNames, Context.sparse.lookup? base = Context.crowded.lookup? base) ∧
      (∀ name ∈ layered.functions, ∀ f, Bindings.get? (library id) name = some f →
        f.Alike (fun _ _ => True) Context.sparse Context.crowded) ∧
      ((layered.run (library id) Context.sparse 0).1.toOption.map Value.toText) = some "ab" ∧
      (layered.run (library id) Context.sparse 0).1 =
        (layered.run (library id) Context.crowded 1000).1 := by
  have bases : layered.baseNames = ["q", "v", "p"] := by decide +kernel
  have names : layered.functions = ["concat"] := by decide +kernel
  have seen : ∀ base ∈ layered.baseNames,
      Context.sparse.lookup? base = Context.crowded.lookup? base := by
    rw [bases]
    simp only [List.forall_mem_cons]
    exact ⟨rfl, rfl, rfl, nofun⟩
  have called : ∀ name ∈ layered.functions, ∀ f, Bindings.get? (library id) name = some f →
      f.Alike (fun _ _ => True) Context.sparse Context.crowded := by
    rw [names]
    simp only [List.forall_mem_cons]
    exact ⟨fun f found => Library.alike found (by decide +kernel)
      (fun timed => absurd timed (by decide +kernel)) _ _, nofun⟩
  refine ⟨seen, called, by decide +kernel, ?_⟩
  exact (Expr.run_eq_of_dependencies seen called).1 0 1000 trivial

end SurveyLogic
