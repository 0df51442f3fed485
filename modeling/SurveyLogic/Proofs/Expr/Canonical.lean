/-
# The canonical text identifies the tree

A tree whose constants are finite is read back from its document (`ofJson?_toJson`), and the
document is determined by its text (`Json.compact_inj`). So two trees with one canonical text are
the same, and two different trees with one fingerprint have texts that collide under the hash.
-/

import SurveyLogic.Expr.Canonical
import SurveyLogic.Proofs.Json.Text

namespace SurveyLogic

/-- Whether a constant is no number or a finite one. -/
def Literal.isFinite : Literal → Bool
  | number x => (Number.toBinary? x).isSome
  | _ => true

namespace Expr

mutual

/-- Whether all numbers of a tree are finite. -/
def isFinite : Expr → Bool
  | literal l => l.isFinite
  | var _ => true
  | unary _ arg => isFinite arg
  | binary _ lhs rhs => isFinite lhs && isFinite rhs
  | call _ args => allFinite args
  | array items => allFinite items

/-- Whether all numbers of some trees are finite. -/
def allFinite : List Expr → Bool
  | [] => true
  | e :: es => isFinite e && allFinite es

end

end Expr

namespace Literal

/-- The document of a constant has no number that is not finite. -/
theorem toJson_isFinite (l : Literal) : l.toJson.isFinite := by
  cases l with
  | number x =>
    by_cases h : (Number.toBinary? x).isSome
    · rw [toJson, Json.ofFloat_of_isSome h]
      exact Bool.and_eq_true_iff.2 ⟨h, rfl⟩
    · rw [toJson, Json.ofFloat, if_neg h]
      rfl
  | _ => rfl

/-- A constant is read back from its document if it is no number or a finite one. -/
theorem ofJson?_toJson {l : Literal} (h : l.isFinite) : ofJson? l.toJson = some l := by
  cases l with
  | number x =>
    rw [toJson, Json.ofFloat_of_isSome h]
    rfl
  | null => rfl
  | _ => rfl

end Literal

namespace Expr

/-- A variable is read back from its document. -/
theorem ofJson?_var (path : String) : ofJson? (var path).toJson = some (var path) := by
  rw [toJson, ofJson?]
  rfl

/-- An operator is read back if its operand is. -/
theorem ofJson?_unary {op : UnaryOp} {arg : Expr} (h : ofJson? arg.toJson = some arg) :
    ofJson? (unary op arg).toJson = some (unary op arg) := by
  have fields : Json.fields? ["op", "arg"]
      (.object [("arg", arg.toJson), ("op", .string op.name)]) =
        some [.string op.name, arg.toJson] :=
    rfl
  rw [toJson, ofJson?]
  split
  · rename_i op' arg' found
    obtain ⟨rfl, rfl⟩ : _ ∧ _ := by simpa using fields.symm.trans found
    simp [Json.toName?, UnaryOp.ofName?_name, h]
  · rename_i other
    exact absurd fields (other _ _)

/-- An operator is read back if both operands are. -/
theorem ofJson?_binary {op : BinaryOp} {lhs rhs : Expr} (hl : ofJson? lhs.toJson = some lhs)
    (hr : ofJson? rhs.toJson = some rhs) :
    ofJson? (binary op lhs rhs).toJson = some (binary op lhs rhs) := by
  have fields : Json.fields? ["op", "lhs", "rhs"]
      (.object [("lhs", lhs.toJson), ("op", .string op.name), ("rhs", rhs.toJson)]) =
        some [.string op.name, lhs.toJson, rhs.toJson] :=
    rfl
  rw [toJson, ofJson?]
  split
  · rename_i op' lhs' rhs' found
    obtain ⟨rfl, rfl, rfl⟩ : _ ∧ _ ∧ _ := by simpa using fields.symm.trans found
    simp [Json.toName?, BinaryOp.ofName?_name, hl, hr]
  · rename_i other
    exact absurd fields (other _ _ _)

/-- A call is read back if its arguments are. -/
theorem ofJson?_call {name : String} {args : List Expr}
    (h : ofJsonAll? (toJsonAll args) = some args) :
    ofJson? (call name args).toJson = some (call name args) := by
  have fields : Json.fields? ["name", "args"]
      (.object [("args", .array (toJsonAll args)), ("name", .string name)]) =
        some [.string name, .array (toJsonAll args)] :=
    rfl
  rw [toJson, ofJson?]
  split
  · rename_i name' args' found
    obtain ⟨rfl, rfl⟩ : _ ∧ _ := by simpa using fields.symm.trans found
    simp [Json.toText?, h]
  · rename_i other
    exact absurd fields (other _ _)

mutual

/-- **A tree is read back from its document.** -/
theorem ofJson?_toJson : ∀ e : Expr, e.isFinite → ofJson? e.toJson = some e
  | literal l, h => by
    rw [toJson, ofJson?, Literal.ofJson?_toJson h]
    rfl
  | var path, _ => ofJson?_var path
  | unary _ arg, h => ofJson?_unary (ofJson?_toJson arg h)
  | binary _ lhs rhs, h =>
    have ⟨hl, hr⟩ := Bool.and_eq_true_iff.1 h
    ofJson?_binary (ofJson?_toJson lhs hl) (ofJson?_toJson rhs hr)
  | call _ args, h => ofJson?_call (ofJsonAll?_toJsonAll args h)
  | array items, h => by
    rw [toJson, ofJson?, ofJsonAll?_toJsonAll items h]
    rfl

/-- The same of some trees. -/
theorem ofJsonAll?_toJsonAll : ∀ es : List Expr, allFinite es →
    ofJsonAll? (toJsonAll es) = some es
  | [], _ => by
    rw [toJsonAll, ofJsonAll?]
  | e :: es, h => by
    obtain ⟨first, others⟩ := Bool.and_eq_true_iff.1 h
    rw [toJsonAll, ofJsonAll?, ofJson?_toJson e first, ofJsonAll?_toJsonAll es others]
    rfl

end

mutual

/-- The document of a tree has no number that is not finite. -/
theorem toJson_isFinite : ∀ e : Expr, e.toJson.isFinite
  | literal l => Bool.and_eq_true_iff.2 ⟨l.toJson_isFinite, rfl⟩
  | var _ => rfl
  | unary _ arg => by simp [toJson, Json.isFinite, Json.membersFinite, toJson_isFinite arg]
  | binary _ lhs rhs => by
    simp [toJson, Json.isFinite, Json.membersFinite, toJson_isFinite lhs, toJson_isFinite rhs]
  | call _ args => by
    simp [toJson, Json.isFinite, Json.membersFinite, toJsonAll_allFinite args]
  | array items => by
    simp [toJson, Json.isFinite, Json.membersFinite, toJsonAll_allFinite items]

/-- The same of some trees. -/
theorem toJsonAll_allFinite : ∀ es : List Expr, Json.allFinite (toJsonAll es)
  | [] => rfl
  | e :: es => Bool.and_eq_true_iff.2 ⟨toJson_isFinite e, toJsonAll_allFinite es⟩

end

variable {a b : Expr}

/-- **The canonical text identifies the tree.** Trees with finite constants have the same canonical
text only if they are the same, their constants bit for bit, and each is read back from its
document. So different trees with one fingerprint have different texts with one hash. -/
theorem canonicalText_eq_iff (ha : a.isFinite) (hb : b.isFinite) :
    (a.canonicalText = b.canonicalText ↔ a = b) ∧
      (a ≠ b → a.fingerprint = b.fingerprint →
        a.canonicalText ≠ b.canonicalText ∧
          Sha256.ofText a.canonicalText = Sha256.ofText b.canonicalText) ∧
      ofJson? a.toJson = some a := by
  have same : a.canonicalText = b.canonicalText → a = b := by
    intro texts
    have documents := Json.compact_inj (toJson_isFinite a) (toJson_isFinite b) texts
    have back := ofJson?_toJson a ha
    rw [documents, ofJson?_toJson b hb] at back
    exact (Option.some.inj back).symm
  refine ⟨⟨same, congrArg canonicalText⟩, fun ne hash => ⟨fun texts => ne (same texts), hash⟩, ?_⟩
  exact ofJson?_toJson a ha

/-- The hypotheses of `canonicalText_eq_iff` are satisfiable: a text that looks like the document of
a number, and this number. -/
theorem canonicalText_eq_iff_quoted :
    let a := literal (.string "\x7b\"Number\":1.0\x7d")
    let b := literal (.number 1.0)
    a.isFinite ∧ b.isFinite ∧ a.canonicalText ≠ b.canonicalText := by
  intro a b
  have finite : a.isFinite := rfl
  have finite' : b.isFinite := by decide +kernel
  refine ⟨finite, finite', fun texts => ?_⟩
  have same : Literal.string _ = .number 1.0 :=
    literal.inj ((canonicalText_eq_iff finite finite').1.1 texts)
  cases same

end Expr
end SurveyLogic
