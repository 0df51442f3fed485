/-
# The canonical text of an expression

A tree as compact JSON with the members of each object in alphabetical order, and its SHA-256
fingerprint. Each node is an object with one member that names its kind:

| node | JSON |
| --- | --- |
| number, text, truth value | `Literal` of `Number`, `String`, `Bool` |
| null | `Literal` of the bare text `Null` |
| variable | `Variable` with `name` |
| operator | `Unary` with `arg`, `op`; `Binary` with `lhs`, `op`, `rhs` |
| call, list | `Call` with `args`, `name`; `Array` of the items |

A reader takes the members of a node in any order, ignores members it does not know, and also
accepts the members as a list in the order of declaration. A name alone, such as that of an
operator, may also be written as an object with the single member `name: null`.
-/

import SurveyLogic.Digest.Sha256
import SurveyLogic.Expr.Basic
import SurveyLogic.Json.Printer

namespace SurveyLogic

namespace Json

/-- A bare name, alone or as the only member of an object with nothing under it. -/
def toName? : Json → Option String
  | string s => some s
  | object [(name, null)] => some name
  | _ => none

/-- The fields of a record in the order of `names`: the members of an object, of which others are
ignored, or a list that holds exactly these. -/
def fields? (names : List String) : Json → Option (List Json)
  | object members => names.mapM fun name => members.lookup name
  | array items => if items.length = names.length then some items else none
  | _ => none

/-- A member is smaller than the object. -/
theorem sizeOf_lookup {members : List (String × Json)} {name : String} {j : Json}
    (h : members.lookup name = some j) : sizeOf j < sizeOf members := by
  induction members with
  | nil => simp at h
  | cons entry rest ih =>
    obtain ⟨key, value⟩ := entry
    rw [List.lookup_cons] at h
    split at h
    · simp_all
      omega
    · have := ih h
      simp
      omega

/-- Fields are smaller than the document that they are in. -/
theorem sizeOf_fields {names : List String} {j : Json} {fields : List Json}
    (h : fields? names j = some fields) {f : Json} (hf : f ∈ fields) : sizeOf f < sizeOf j := by
  cases j <;> simp only [fields?, reduceCtorEq] at h
  case array items =>
    split at h
    · obtain rfl := Option.some.inj h
      have := List.sizeOf_lt_of_mem hf
      simp
      omega
    · simp at h
  case object members =>
    have key : ∀ (names : List String) (fields : List Json),
        names.mapM (fun name => members.lookup name) = some fields →
        f ∈ fields → ∃ name, members.lookup name = some f := by
      intro names
      induction names with
      | nil =>
        intro fields h hf
        simp only [List.mapM_nil, Option.pure_def, Option.some.injEq] at h
        simp [← h] at hf
      | cons name names ih =>
        intro fields h hf
        simp only [List.mapM_cons, Option.pure_def, Option.bind_eq_bind,
          Option.bind_eq_some_iff, Option.some.injEq] at h
        obtain ⟨first, hfirst, rest, hrest, rfl⟩ := h
        rcases List.mem_cons.1 hf with rfl | hf
        · exact ⟨name, hfirst⟩
        · exact ih rest hrest hf
    obtain ⟨name, hname⟩ := key names fields h hf
    have := sizeOf_lookup hname
    simp
    omega

end Json

namespace Literal

/-- The JSON of a constant. -/
def toJson : Literal → Json
  | number x => .object [("Number", .ofFloat x)]
  | string s => .object [("String", .string s)]
  | bool b => .object [("Bool", .bool b)]
  | null => .string "Null"

/-- The constant that a document describes. -/
def ofJson? (j : Json) : Option Literal :=
  match j with
  | .object [("Number", x)] => x.toFloat?.map number
  | .object [("String", s)] => s.toText?.map string
  | .object [("Bool", b)] => b.toBool?.map bool
  | j => if j.toName? = some "Null" then some null else none

end Literal

namespace Expr

mutual

/-- The JSON of a tree. -/
def toJson : Expr → Json
  | literal l => .object [("Literal", l.toJson)]
  | var path => .object [("Variable", .object [("name", .string path)])]
  | unary op arg => .object [("Unary", .object [("arg", toJson arg), ("op", .string op.name)])]
  | binary op lhs rhs =>
    .object [("Binary",
      .object [("lhs", toJson lhs), ("op", .string op.name), ("rhs", toJson rhs)])]
  | call name args =>
    .object [("Call", .object [("args", .array (toJsonAll args)), ("name", .string name)])]
  | array items => .object [("Array", .array (toJsonAll items))]

/-- The JSON of each tree of a list. -/
def toJsonAll : List Expr → List Json
  | [] => []
  | e :: es => toJson e :: toJsonAll es

end

mutual

/-- The tree that a document describes. -/
def ofJson? (j : Json) : Option Expr :=
  match j with
  | .object [("Literal", content)] => (Literal.ofJson? content).map literal
  | .object [("Variable", content)] =>
    match content.fields? ["name"] with
    | some [path] => path.toText?.map var
    | _ => none
  | .object [("Unary", content)] =>
    match h : content.fields? ["op", "arg"] with
    | some [op, arg] => do
      have := Json.sizeOf_fields (f := arg) h (by simp)
      return unary (← op.toName?.bind UnaryOp.ofName?) (← ofJson? arg)
    | _ => none
  | .object [("Binary", content)] =>
    match h : content.fields? ["op", "lhs", "rhs"] with
    | some [op, lhs, rhs] => do
      have := Json.sizeOf_fields (f := lhs) h (by simp)
      have := Json.sizeOf_fields (f := rhs) h (by simp)
      return binary (← op.toName?.bind BinaryOp.ofName?) (← ofJson? lhs) (← ofJson? rhs)
    | _ => none
  | .object [("Call", content)] =>
    match h : content.fields? ["name", "args"] with
    | some [name, .array args] => do
      have := Json.sizeOf_fields (f := .array args) h (by simp)
      return call (← name.toText?) (← ofJsonAll? args)
    | _ => none
  | .object [("Array", .array items)] => (ofJsonAll? items).map array
  | _ => none
termination_by sizeOf j
decreasing_by all_goals simp_all; omega

/-- The trees that a list of documents describes. -/
def ofJsonAll? (js : List Json) : Option (List Expr) :=
  match js with
  | [] => some []
  | j :: js => do return (← ofJson? j) :: (← ofJsonAll? js)
termination_by sizeOf js

end

/-- The canonical text of a tree. -/
def canonicalText (e : Expr) : String :=
  e.toJson.compact

/-- The fingerprint of a tree: the hash of its canonical text. -/
def fingerprint (e : Expr) : String :=
  Sha256.ofText e.canonicalText

end Expr
end SurveyLogic
