/-
# Paths compose

A path with further segments leads where these segments lead from where the path leads. The segments
of the two parts stand one behind the other (`pathSegments_append`), and following them one after
the other can be cut anywhere, for a missing value and `null` both lead nowhere
(`Value.follow?_append`).

Where a path begins is decided by the first layer that holds its head. The other layers do not
matter, also if this one holds `null` there.

| path | answers `q: [10, 20]`, variables `q: 1`, `v: 2` |
| --- | --- |
| `q.1` | `20` |
| `q.1.x` | nowhere |
| `v` | `2` |
-/

import Mathlib.Data.List.ReduceOption
import SurveyLogic.Proofs.Evaluation.Coincidence

namespace SurveyLogic

/-- Two paths with a dot between them have the segments of both. -/
theorem pathSegments_append (cs ds : List Char) :
    pathSegments (cs ++ '.' :: ds) = pathSegments cs ++ pathSegments ds := by
  induction cs with
  | nil =>
    obtain ⟨rest, split⟩ := pathSegments_eq_cons ds
    simp [pathSegments, split]
  | cons c cs ih =>
    obtain ⟨rest, split⟩ := pathSegments_eq_cons cs
    rw [split] at ih
    by_cases dot : c = '.' <;> simp [pathSegments, ih, split, dot]

/-- A text without a dot is one segment. -/
theorem pathSegments_of_not_mem {cs : List Char} (plain : '.' ∉ cs) : pathSegments cs = [cs] := by
  induction cs with
  | nil => rfl
  | cons c cs ih =>
    rw [List.mem_cons, not_or] at plain
    rw [pathSegments, ih plain.2]
    exact if_neg (Ne.symm plain.1)

namespace Value

/-- From nothing no segment leads on. -/
theorem follow?_none (segments : List String) : follow? none segments = none := by
  cases segments with
  | nil => rfl
  | cons segment segments => rfl

/-- From `null` segments lead to `null`. -/
theorem getD_follow?_null (segments : List String) :
    (follow? (some null) segments).getD null = null := by
  cases segments with
  | nil => rfl
  | cons segment segments => rfl

/-- Segments can be followed in two goes. -/
theorem follow?_append (v : Option Value) (first more : List String) :
    follow? v (first ++ more) = follow? (follow? v first) more := by
  induction first generalizing v with
  | nil => rfl
  | cons segment first ih =>
    cases v with
    | none => exact (follow?_none more).symm
    | some v =>
      cases v with
      | null => exact (follow?_none more).symm
      | _ => exact ih _

/-- A last segment leads on from `null` as it does from nothing. -/
theorem getD_follow?_singleton (v : Option Value) (segment : String) :
    (follow? v [segment]).getD null = ((v.getD null).navigate? segment).getD null := by
  cases v with
  | none => rfl
  | some v => cases v <;> rfl

end Value

namespace Context

/-! ### The layer that decides -/

/-- The layers in which the heads of variable paths are looked up, in this order. -/
def layers (ctx : Context) : List (Bindings Value) :=
  [ctx.values, ctx.vars, ctx.properties].reduceOption

/-- The first layer that holds a name. -/
def holder? (ctx : Context) (name : String) : Option (Bindings Value) :=
  ctx.layers.find? (Bindings.has · name)

/-- The first value under a name in some layers is that of the first one that holds it. -/
theorem findSome?_get? (layers : List (Bindings Value)) (name : String) :
    layers.findSome? (Bindings.get? · name) =
      (layers.find? (Bindings.has · name)).bind (Bindings.get? · name) := by
  induction layers with
  | nil => rfl
  | cons layer rest ih =>
    rw [List.findSome?_cons, List.find?_cons, Bindings.has]
    cases found : Bindings.get? layer name with
    | some v => exact found.symm
    | none => exact ih

/-- A layer that may be absent is looked at before the others. -/
theorem findSome?_reduceOption_cons (layer : Option (Bindings Value))
    (rest : List (Option (Bindings Value))) (name : String) :
    (layer :: rest).reduceOption.findSome? (Bindings.get? · name) =
      (find? layer name <|> rest.reduceOption.findSome? (Bindings.get? · name)) := by
  cases layer with
  | none => rfl
  | some layer =>
    rw [List.reduceOption_cons_of_some, List.findSome?_cons]
    show _ = (Bindings.get? layer name <|> _)
    cases Bindings.get? layer name with
    | some v => rfl
    | none => rfl

/-- A name is looked up in the layer that holds it. -/
theorem lookup?_eq (ctx : Context) (name : String) :
    ctx.lookup? name = (ctx.holder? name).bind (Bindings.get? · name) := by
  rw [holder?, ← findSome?_get?, layers, findSome?_reduceOption_cons, findSome?_reduceOption_cons,
    findSome?_reduceOption_cons, lookup?]
  cases find? ctx.values name <;> cases find? ctx.vars name <;>
    cases find? ctx.properties name <;> rfl

/-- A path leads where it leads in the layer that holds its head. -/
theorem resolve_eq_answer (ctx : Context) (path : String) :
    ctx.resolve path =
      match ctx.holder? (Expr.headOfPath path) with
      | some layer => Context.answer { values := some layer } path
      | none => .null := by
  rw [resolve, resolveFrom_eq, lookup?_eq]
  cases ctx.holder? (Expr.headOfPath path) with
  | none =>
    rw [Option.bind_none, Value.follow?_none]
    rfl
  | some layer =>
    show _ = resolveFrom (find? (some layer)) path
    rw [resolveFrom_eq]
    rfl

/-! ### A further segment -/

theorem toList_append_dot (path segment : String) :
    (path ++ "." ++ segment).toList = path.toList ++ '.' :: segment.toList := by
  rw [String.toList_append, String.toList_append, List.append_assoc]
  rfl

/-- A segment behind a path does not change its head. -/
theorem headOfPath_append (path segment : String) :
    Expr.headOfPath (path ++ "." ++ segment) = Expr.headOfPath path := by
  obtain ⟨rest, split⟩ := pathSegments_eq_cons path.toList
  obtain ⟨others, split'⟩ := pathSegments_eq_cons (path.toList ++ '.' :: segment.toList)
  rw [pathSegments_append, split, List.cons_append] at split'
  rw [Expr.headOfPath, Expr.headOfPath, toList_append_dot, (List.cons.inj split').1]

/-- A segment without a dot behind a path is its last one. -/
theorem furtherSegments_append (path : String) {segment : String} (plain : '.' ∉ segment.toList) :
    furtherSegments (path ++ "." ++ segment) = furtherSegments path ++ [segment] := by
  obtain ⟨rest, split⟩ := pathSegments_eq_cons path.toList
  rw [furtherSegments, furtherSegments, toList_append_dot, pathSegments_append,
    pathSegments_of_not_mem plain, split, List.cons_append, List.tail_cons, List.tail_cons,
    List.map_append, List.map_singleton, String.ofList_toList]

/-- A path with one more segment leads where the segment leads from where the path leads. -/
theorem resolveFrom_append (head? : String → Option Value) (path : String) {segment : String}
    (plain : '.' ∉ segment.toList) :
    resolveFrom head? (path ++ "." ++ segment) =
      ((resolveFrom head? path).navigate? segment).getD .null := by
  rw [resolveFrom_eq, resolveFrom_eq, headOfPath_append, furtherSegments_append path plain,
    Value.follow?_append, Value.getD_follow?_singleton]

end Context

theorem Library.orNull_eq_getD (v : Option Value) : orNull v = v.getD .null := by
  cases v <;> rfl

/-- From where a path leads among the answers, a text without a dot leads where the path with this
text behind a dot leads. -/
theorem Library.answerAt_eq (ctx : Context) (path : String) {segment : Value}
    (given : segment ≠ .null) (plain : '.' ∉ segment.toText.toList) :
    answerAt ctx path segment = ctx.answer (path ++ "." ++ segment.toText) := by
  have further := Context.resolveFrom_append (Context.find? ctx.values) path plain
  have navigated : answerAt ctx path segment =
      ((ctx.answer path).navigate? segment.toText).getD .null := by
    cases segment with
    | null => exact absurd rfl given
    | _ => exact orNull_eq_getD _
  rw [navigated]
  exact further.symm

/-- **Paths compose.** A path with one more segment leads where the segment leads from where the
path leads, both for variables and among the answers alone. So `getvalue` of a path and a segment,
which may be any value with a text that has no dot, is `getvalue` of the path with that text behind
a dot.

A variable path leads where it leads in the first of the answers, the variables and the properties
that holds its head: in two contexts in which this is the same layer it leads to the same value,
which is `null` if the layer holds `null` under the head. -/
theorem Context.paths_compose {σ : Type} (clock : σ → Int) (ctx : Context) :
    (∀ path segment : String, '.' ∉ segment.toList →
      ctx.resolve (path ++ "." ++ segment) = ((ctx.resolve path).navigate? segment).getD .null ∧
      ctx.answer (path ++ "." ++ segment) = ((ctx.answer path).navigate? segment).getD .null) ∧
    (∃ getvalue, (library clock).find? "getvalue" = some getvalue ∧
      ∀ path segment : Value, segment ≠ .null → '.' ∉ segment.toText.toList → ∀ host,
        getvalue.call [path, segment] ctx host =
          getvalue.call [.string (path.toText ++ "." ++ segment.toText)] ctx host) ∧
    ∀ path : String,
      (ctx.resolve path = match ctx.holder? (Expr.headOfPath path) with
        | some layer => Context.answer { values := some layer } path
        | none => .null) ∧
      (∀ other : Context,
        other.holder? (Expr.headOfPath path) = ctx.holder? (Expr.headOfPath path) →
        other.resolve path = ctx.resolve path) ∧
      ∀ layer, ctx.holder? (Expr.headOfPath path) = some layer →
        Bindings.get? layer (Expr.headOfPath path) = some .null → ctx.resolve path = .null := by
  refine ⟨fun path segment plain => ⟨?_, ?_⟩, ?_, fun path => ⟨?_, ?_, ?_⟩⟩
  · exact resolveFrom_append ctx.lookup? path plain
  · exact resolveFrom_append (find? ctx.values) path plain
  · have listed : ∃ f, ("getvalue", f) ∈ Library.timeless ∧ ∀ args ctx,
        f args ctx = .ok (Library.answerAt ctx (Library.text args 0) (Library.arg args 1)) :=
      ⟨_, List.mem_append_right _ (List.mem_cons_of_mem _ List.mem_cons_self), fun _ _ => rfl⟩
    obtain ⟨f, mem, reads⟩ := listed
    refine ⟨_, Library.find?_of_mem_timeless clock mem, fun path segment given plain host => ?_⟩
    have same : f [path, segment] ctx = f [.string (path.toText ++ "." ++ segment.toText)] ctx := by
      rw [reads, reads]
      exact congrArg Except.ok (Library.answerAt_eq ctx path.toText given plain)
    exact congrArg (fun result => Reply.mk result host []) same
  · exact ctx.resolve_eq_answer path
  · intro other same
    rw [other.resolve_eq_answer, ctx.resolve_eq_answer, same]
  · intro layer held null
    rw [resolve, resolveFrom_eq, lookup?_eq, held, Option.bind_some, null]
    exact Value.getD_follow?_null _

/-- A context with a `null` and a list among its answers that hide variables. -/
def Context.shadowing : Context where
  values := some [("p", .null), ("q", .array [.number 10, .object [("x", .string "deep")]])]
  vars := some [("p", .string "hidden"), ("q", .string "hidden")]

/-- A context with these answers as its properties, and no other layer. -/
def Context.moved : Context where
  properties := Context.shadowing.values

/-- The hypotheses of `Context.paths_compose` are satisfiable: an item of a list is left by a name,
a list is entered by a number, and the same layer decides as answers and as properties. -/
theorem Context.paths_compose_shadowing :
    let segment : Value := .number 1
    '.' ∉ "x".toList ∧ (shadowing.resolve ("q.1" ++ "." ++ "x")).toText = "deep" ∧
      segment ≠ .null ∧ '.' ∉ segment.toText.toList ∧
      (∃ getvalue, (library id).find? "getvalue" = some getvalue ∧
        getvalue.call [.string "q", segment] shadowing 0 =
          getvalue.call [.string ("q" ++ "." ++ segment.toText)] shadowing 0) ∧
      moved.holder? "p" = shadowing.holder? "p" ∧ moved.resolve "p" = .null := by
  intro segment
  obtain ⟨further, ⟨getvalue, found, composed⟩, decides⟩ := paths_compose (id : Int → Int) shadowing
  have plain : '.' ∉ "x".toList := by decide
  have given : segment ≠ .null := fun equal => Value.noConfusion equal
  have plain' : '.' ∉ segment.toText.toList := by decide +kernel
  obtain ⟨-, same, null⟩ := decides "p"
  have held : moved.holder? (Expr.headOfPath "p") = shadowing.holder? (Expr.headOfPath "p") := rfl
  refine ⟨plain, ?_, given, plain', ⟨getvalue, found, ?_⟩, held, ?_⟩
  · rw [(further "q.1" "x" plain).1]
    decide +kernel
  · exact composed (.string "q") segment given plain' 0
  · rw [same moved held]
    exact null _ rfl rfl

end SurveyLogic
