/-
# Surveys are read back from their documents

Whatever a survey has of panels in panels, validators and triggers, its document describes it and
nothing else (`Survey.ofJson?_toJson_eq_some`). Each record is read field by field from what was
written:

| field | written | read back, for |
| --- | --- | --- |
| optional | `null` if absent | nothing that is given is written as `null` |
| of a rule or an effect | beside `type`, `message`, `expression` | none of them has such a name |
| value that is set | as it is, `null` too | `null` is a value of its own there |
| elements of an element | behind its other fields | no other field is called `elements` |

A number that is not finite would be written as `null` and read as absent, so the numbers have to be
finite. Objects among the values that are set have to be maps, in increasing order of the names.
-/

import SurveyLogic.Proofs.Value.RoundTrip
import SurveyLogic.Survey.Document

namespace SurveyLogic

namespace Record

variable {α : Type} {r : Record} {name : String} {read : Json → Option α} {write : α → Json}

/-- A field under another name does not show. -/
theorem lookup_cons_of_ne {key : String} (ne : name ≠ key) (j : Json) (r : Record) :
    List.lookup name ((key, j) :: r) = r.lookup name := by
  rw [List.lookup_cons, beq_eq_false_iff_ne.2 ne]

/-- A field that was written as `null` if it is absent is read back. -/
theorem optional?_ofOption {o : Option α} (found : r.lookup name = some (.ofOption write o))
    (back : ∀ a ∈ o, write a ≠ .null ∧ read (write a) = some a) :
    r.optional? name read = some o := by
  unfold optional?
  rw [found]
  cases o with
  | none => rfl
  | some a =>
    obtain ⟨full, same⟩ := back a rfl
    rw [Json.ofOption]
    split
    · rename_i absent
      cases absent
    · rename_i null
      exact absurd (Option.some.inj null) full
    · rename_i j _ here
      cases here
      rw [same]
      rfl

/-- A text that may be absent is read back. -/
theorem optional?_text {o : Option String} (found : r.lookup name = some (.ofOption .string o)) :
    r.optional? name Json.toText? = some o :=
  optional?_ofOption found fun _ _ => ⟨nofun, rfl⟩

/-- A truth value that may be absent is read back. -/
theorem optional?_bool {o : Option Bool} (found : r.lookup name = some (.ofOption .bool o)) :
    r.optional? name Json.toBool? = some o :=
  optional?_ofOption found fun _ _ => ⟨nofun, rfl⟩

/-- A count that may be absent is read back. -/
theorem optional?_nat {o : Option Nat} (found : r.lookup name = some (.ofOption .ofNat o)) :
    r.optional? name Json.toNat? = some o :=
  optional?_ofOption found fun _ _ => ⟨nofun, rfl⟩

/-- A bound that may be absent is read back if it is finite. -/
theorem optional?_float {o : Option Float} (found : r.lookup name = some (.ofOption .ofFloat o))
    (finite : o.all fun x => (Number.toBinary? x).isSome) :
    r.optional? name Json.toFloat? = some o := by
  refine optional?_ofOption found fun x mem => ?_
  subst mem
  rw [Json.ofFloat_of_isSome finite]
  exact ⟨nofun, rfl⟩

/-- A text that has to be there is read back. -/
theorem needed?_text {s : String} (found : r.lookup name = some (.string s)) :
    r.needed? name Json.toText? = some s := by
  rw [needed?, found]
  rfl

/-- A field that is there is read whatever its default is. -/
theorem field?_of {default a : α} {j : Json} (found : r.lookup name = some j)
    (back : read j = some a) : r.field? name read default = some a := by
  rw [field?, found]
  exact back

end Record

/-- A list is read back if each of its items is. -/
theorem Json.toList?_map {α : Type} {read : Json → Option α} {write : α → Json} {as : List α}
    (back : ∀ a ∈ as, read (write a) = some a) :
    toList? read (.array (as.map write)) = some as := by
  change (as.map write).mapM read = some as
  induction as with
  | nil => rfl
  | cons a as ih =>
    obtain ⟨first, others⟩ := List.forall_mem_cons.1 back
    rw [List.map_cons, List.mapM_cons, first, ih others]
    rfl

/-- Whether the bounds of a rule are finite. -/
def Rule.isFinite : Rule → Bool
  | numeric least most =>
    least.all (fun x => (Number.toBinary? x).isSome) &&
      most.all fun x => (Number.toBinary? x).isSome
  | _ => true

/-- Whether all numbers of an element are finite, those in it apart. -/
def Item.isFinite (i : Item) : Bool :=
  i.rateMin.all (fun x => (Number.toBinary? x).isSome) &&
    i.rateMax.all (fun x => (Number.toBinary? x).isSome) && i.validators.all (·.rule.isFinite)

/-! ### Validators -/

/-- A rule is read from any record that has its fields, whatever stands under other names. -/
theorem Rule.ofRecord?_of_lookup {rule : Rule} (finite : rule.isFinite) {r : Record}
    (same : ∀ name, name ∉ ["message", "type"] → r.lookup name = rule.fields.lookup name) :
    ofRecord? r rule.kind = some rule := by
  cases rule with
  | required => rfl
  | email => rfl
  | numeric least most =>
    obtain ⟨low, high⟩ := Bool.and_eq_true_iff.1 finite
    have least := Record.optional?_float (same "minValue" (by decide)) low
    have most := Record.optional?_float (same "maxValue" (by decide)) high
    simp [kind, ofRecord?, least, most]
  | text minLength maxLength allowDigits =>
    have shortest := Record.optional?_nat (o := minLength) (same "minLength" (by decide))
    have longest := Record.optional?_nat (o := maxLength) (same "maxLength" (by decide))
    have digits := Record.optional?_bool (o := allowDigits) (same "allowDigits" (by decide))
    simp [kind, ofRecord?, shortest, longest, digits]
  | regex pattern =>
    have found := Record.needed?_text (same "pattern" (by decide))
    simp [kind, ofRecord?, found]
  | expression source =>
    have found := Record.needed?_text (same "expression" (by decide))
    simp [kind, ofRecord?, found]
  | answerCount minCount maxCount =>
    have least := Record.optional?_nat (o := minCount) (same "minCount" (by decide))
    have most := Record.optional?_nat (o := maxCount) (same "maxCount" (by decide))
    simp [kind, ofRecord?, least, most]

namespace Validator

/-- The kind of a rule is one of those that are known. -/
theorem kind?_kind (rule : Rule) :
    Json.kind? Rule.kinds (.string rule.kind) = some rule.kind := by
  cases rule <;> rfl

/-- A validator is read from any record with its kind, its message and its rule. -/
theorem ofJson?_of_record {message : Option String} {rule : Rule} {r : Record}
    (typed : r.lookup "type" = some (.string rule.kind)) (found : message? r = some message)
    (read : Rule.ofRecord? r rule.kind = some rule) :
    ofJson? (.object r) = some ⟨message, rule⟩ := by
  simp [ofJson?, typed, kind?_kind, found, read]

/-- **A validator is read back from its document.** A rule has no field that could be taken for a
message, so a message that is left out stays absent. -/
theorem ofJson?_toJson {v : Validator} (finite : v.rule.isFinite) : ofJson? v.toJson = some v := by
  obtain ⟨message, rule⟩ := v
  have typed (name : String) (ne : name ∉ ["message", "type"]) :
      List.lookup name (("type", Json.string rule.kind) :: rule.fields) =
        rule.fields.lookup name :=
    Record.lookup_cons_of_ne (List.ne_of_not_mem_cons (List.not_mem_of_not_mem_cons ne)) _ _
  cases message with
  | none =>
    have absent : message? (("type", .string rule.kind) :: rule.fields) = some none := by
      cases rule <;> rfl
    exact ofJson?_of_record rfl absent (Rule.ofRecord?_of_lookup finite typed)
  | some text =>
    have given : message? (("message", .string text) :: ("type", .string rule.kind) ::
        rule.fields) = some (some text) := by
      cases rule <;> rfl
    refine ofJson?_of_record rfl given (Rule.ofRecord?_of_lookup finite fun name ne => ?_)
    exact (Record.lookup_cons_of_ne (List.ne_of_not_mem_cons ne) _ _).trans (typed name ne)

end Validator

/-! ### Elements and pages -/

/-- The fields of an element are read back, whatever elements stand in it. -/
theorem Item.ofRecord?_fields {i : Item} (finite : i.isFinite) (elements : Json) :
    ofRecord? (i.fields ++ [("elements", elements)]) = some i := by
  obtain ⟨bounds, rules⟩ := Bool.and_eq_true_iff.1 finite
  obtain ⟨low, high⟩ := Bool.and_eq_true_iff.1 bounds
  let r : Record := i.fields ++ [("elements", elements)]
  have validators : r.field? "validators" (Json.toList? Validator.ofJson?) [] =
      some i.validators := by
    refine Record.field?_of rfl (Json.toList?_map fun v mem => ?_)
    exact Validator.ofJson?_toJson (List.all_eq_true.1 rules v mem)
  have name : r.field? "name" Json.toText? "" = some i.name := Record.field?_of rfl rfl
  have kind : r.field? "type" Json.toText? "" = some i.kind := Record.field?_of rfl rfl
  have title : r.optional? "title" Json.toText? = some i.title := Record.optional?_text rfl
  have visibleIf : r.optional? "visibleIf" Json.toText? = some i.visibleIf :=
    Record.optional?_text rfl
  have enableIf : r.optional? "enableIf" Json.toText? = some i.enableIf := Record.optional?_text rfl
  have requiredIf : r.optional? "requiredIf" Json.toText? = some i.requiredIf :=
    Record.optional?_text rfl
  have isRequired : r.optional? "isRequired" Json.toBool? = some i.isRequired :=
    Record.optional?_bool rfl
  have visible : r.optional? "visible" Json.toBool? = some i.visible := Record.optional?_bool rfl
  have readOnly : r.optional? "readOnly" Json.toBool? = some i.readOnly := Record.optional?_bool rfl
  have expression : r.optional? "expression" Json.toText? = some i.expression :=
    Record.optional?_text rfl
  have inputType : r.optional? "inputType" Json.toText? = some i.inputType :=
    Record.optional?_text rfl
  have maxLength : r.optional? "maxLength" Json.toNat? = some i.maxLength :=
    Record.optional?_nat rfl
  have rateMin : r.optional? "rateMin" Json.toFloat? = some i.rateMin :=
    Record.optional?_float rfl low
  have rateMax : r.optional? "rateMax" Json.toFloat? = some i.rateMax :=
    Record.optional?_float rfl high
  change ofRecord? r = some i
  rw [ofRecord?, name, kind, title, visibleIf, enableIf, requiredIf, isRequired, visible, readOnly,
    expression, inputType, maxLength, rateMin, rateMax, validators]
  rfl

namespace Element

mutual

/-- Whether all numbers of an element and of those in it are finite. -/
def isFinite : Element → Bool
  | mk item elements => item.isFinite && allFinite elements

/-- Whether all numbers of some elements are finite. -/
def allFinite : List Element → Bool
  | [] => true
  | e :: es => isFinite e && allFinite es

end

/-- The elements in an element stand behind all other fields of it. -/
theorem amongMembers?_fields (i : Item) (elements : Json) :
    amongMembers? (i.fields ++ [("elements", elements)]) = listOfJson? elements := by
  simp [Item.fields, amongMembers?]

mutual

/-- **An element is read back from its document,** with all that nests in it. -/
theorem ofJson?_toJson : ∀ e : Element, e.isFinite → ofJson? e.toJson = some e
  | mk item elements, h => by
    obtain ⟨own, inside⟩ := Bool.and_eq_true_iff.1 h
    rw [toJson, ofJson?, Item.ofRecord?_fields own, amongMembers?_fields, listOfJson?,
      ofJsonAll?_toJsonAll elements inside]
    rfl

/-- Elements are read back from their documents. -/
theorem ofJsonAll?_toJsonAll : ∀ es : List Element, allFinite es →
    ofJsonAll? (toJsonAll es) = some es
  | [], _ => rfl
  | e :: es, h => by
    obtain ⟨first, others⟩ := Bool.and_eq_true_iff.1 h
    rw [toJsonAll, ofJsonAll?, ofJson?_toJson e first, ofJsonAll?_toJsonAll es others]
    rfl

end

end Element

/-- A page is read back from its document. -/
theorem Page.ofJson?_toJson {p : Page} (finite : Element.allFinite p.elements) :
    ofJson? p.toJson = some p := by
  let r : Record := [("name", .string p.name), ("title", .ofOption .string p.title),
    ("visibleIf", .ofOption .string p.visibleIf), ("visible", .ofOption .bool p.visible),
    ("elements", .array (Element.toJsonAll p.elements))]
  have name : r.field? "name" Json.toText? "" = some p.name := Record.field?_of rfl rfl
  have title : r.optional? "title" Json.toText? = some p.title := Record.optional?_text rfl
  have visibleIf : r.optional? "visibleIf" Json.toText? = some p.visibleIf :=
    Record.optional?_text rfl
  have visible : r.optional? "visible" Json.toBool? = some p.visible := Record.optional?_bool rfl
  have elements : r.field? "elements" Element.listOfJson? [] = some p.elements := by
    refine Record.field?_of rfl ?_
    rw [Element.listOfJson?, Element.ofJsonAll?_toJsonAll p.elements finite]
  have record : p.toJson.record? ["name", "title", "visibleIf", "visible", "elements"] = some r :=
    rfl
  rw [ofJson?, record, Option.bind_eq_bind, Option.bind_some, name, title, visibleIf, visible,
    elements]
  rfl

/-- A calculated value is read back from its document. -/
theorem CalculatedValue.ofJson?_toJson (c : CalculatedValue) : ofJson? c.toJson = some c := by
  rfl

/-! ### Triggers -/

/-- Whether the value that an effect sets has finite numbers only. -/
def Effect.isFinite : Effect → Bool
  | setValue _ value => value.isFinite
  | _ => true

/-- The objects in the value that an effect sets are in order. -/
def Effect.IsOrdered : Effect → Prop
  | setValue _ value => value.IsOrdered
  | _ => True

/-- An effect is read from any record that has its fields, whatever stands under other names. -/
theorem Effect.ofRecord?_of_lookup {effect : Effect} (finite : effect.isFinite)
    (ordered : effect.IsOrdered) {r : Record}
    (same : ∀ name, name ∉ ["expression", "type"] → r.lookup name = effect.fields.lookup name) :
    ofRecord? r effect.kind = some effect := by
  cases effect with
  | complete => rfl
  | setValue name value =>
    have target := Record.needed?_text (same "setToName" (by decide))
    have content : r.field? "setValue" (fun j => some (Value.ofJson j)) .null = some value :=
      Record.field?_of (same "setValue" (by decide))
        (congrArg some (Value.ofJson_toJson value finite ordered))
    simp [kind, ofRecord?, target, content]
  | copyValue name source =>
    have target := Record.needed?_text (same "setToName" (by decide))
    have origin := Record.needed?_text (same "fromName" (by decide))
    simp [kind, ofRecord?, target, origin]
  | skip target =>
    have found := Record.needed?_text (same "gotoName" (by decide))
    simp [kind, ofRecord?, found]
  | runExpression source name =>
    have found := Record.needed?_text (same "runExpression" (by decide))
    have target := Record.optional?_text (o := name) (same "setToName" (by decide))
    simp [kind, ofRecord?, found, target]
  | visible questions =>
    have listed : r.field? "questions" (Json.toList? Json.toText?) [] = some questions :=
      Record.field?_of (same "questions" (by decide)) (Json.toList?_map fun _ _ => rfl)
    simp [kind, ofRecord?, listed]

namespace Trigger

/-- The kind of an effect is one of those that are known. -/
theorem kind?_kind (effect : Effect) :
    Json.kind? Effect.kinds (.string effect.kind) = some effect.kind := by
  cases effect <;> rfl

/-- **A trigger is read back from its document.** -/
theorem ofJson?_toJson {t : Trigger} (finite : t.effect.isFinite) (ordered : t.effect.IsOrdered) :
    ofJson? t.toJson = some t := by
  obtain ⟨expression, effect⟩ := t
  let r : Record := ("expression", .string expression) :: ("type", .string effect.kind) ::
    effect.fields
  have source : r.field? "expression" Json.toText? "" = some expression := Record.field?_of rfl rfl
  have read : Effect.ofRecord? r effect.kind = some effect :=
    Effect.ofRecord?_of_lookup finite ordered fun name ne =>
      (Record.lookup_cons_of_ne (List.ne_of_not_mem_cons ne) _ _).trans
        (Record.lookup_cons_of_ne (List.ne_of_not_mem_cons (List.not_mem_of_not_mem_cons ne)) _ _)
  have typed : List.lookup "type" r = some (.string effect.kind) := rfl
  change ofJson? (.object r) = _
  simp [ofJson?, typed, kind?_kind, source, read]

end Trigger

/-! ### Surveys -/

namespace Survey

/-- Whether all numbers of a survey are finite: bounds, and those in values that are set. -/
def isFinite (s : Survey) : Bool :=
  s.pages.all (fun p => Element.allFinite p.elements) && s.triggers.all (·.effect.isFinite)

/-- The objects in all values that are set list their fields in increasing order of the names. -/
def IsOrdered (s : Survey) : Prop :=
  ∀ t ∈ s.triggers, t.effect.IsOrdered

/-- **A survey is read back from its document.** A value that a trigger sets is a tree of maps, so
its objects are in order. Its numbers and the bounds have to be finite, as others are written as
`null`. -/
theorem ofJson?_toJson_eq_some {s : Survey} (finite : s.isFinite) (ordered : s.IsOrdered) :
    ofJson? s.toJson = some s := by
  obtain ⟨bounds, values⟩ := Bool.and_eq_true_iff.1 finite
  let r : Record := [("pages", .array (s.pages.map Page.toJson)),
    ("calculatedValues", .array (s.calculatedValues.map CalculatedValue.toJson)),
    ("triggers", .array (s.triggers.map Trigger.toJson))]
  have pages : r.field? "pages" (Json.toList? Page.ofJson?) [] = some s.pages := by
    refine Record.field?_of rfl (Json.toList?_map fun p mem => ?_)
    exact Page.ofJson?_toJson (List.all_eq_true.1 bounds p mem)
  have calculatedValues : r.field? "calculatedValues" (Json.toList? CalculatedValue.ofJson?) [] =
      some s.calculatedValues :=
    Record.field?_of rfl (Json.toList?_map fun c _ => c.ofJson?_toJson)
  have triggers : r.field? "triggers" (Json.toList? Trigger.ofJson?) [] = some s.triggers := by
    refine Record.field?_of rfl (Json.toList?_map fun t mem => ?_)
    exact Trigger.ofJson?_toJson (List.all_eq_true.1 values t mem) (ordered t mem)
  have record : s.toJson.record? ["pages", "calculatedValues", "triggers"] = some r := rfl
  rw [ofJson?, record, Option.bind_eq_bind, Option.bind_some, pages, calculatedValues, triggers]
  rfl

/-- The hypotheses of `ofJson?_toJson_eq_some` are satisfiable: a panel in a panel with a bounded
question, and triggers, one of which sets an object. -/
theorem ofJson?_toJson_nested :
    let rating : Item := { name := "q", rateMin := some 1.0, validators := [
      { rule := .numeric none (some 5.0) }, { message := some "no", rule := .required }] }
    let panel : Item := { name := "p", kind := "panel" }
    let value : Value := .object [("a", .array [.null, .number 2.5]), ("b", .object [])]
    let s : Survey := {
      pages := [{ elements := [.mk panel [.mk panel [.mk rating []]]] }]
      calculatedValues := [{ name := "c", expression := "1" }]
      triggers := [⟨"true", .setValue "x" value⟩, ⟨"", .runExpression "f()" none⟩] }
    s.isFinite ∧ s.IsOrdered ∧ ofJson? s.toJson = some s := by
  intro rating panel value s
  have finite : s.isFinite := by decide +kernel
  have ordered : s.IsOrdered := by
    have first : value.IsOrdered := by
      refine ⟨?_, ⟨trivial, trivial, trivial⟩, ⟨.nil, trivial⟩, trivial⟩
      exact .cons (List.forall_mem_singleton.2 (by decide)) (List.pairwise_singleton _ _)
    exact List.forall_mem_cons.2 ⟨first, List.forall_mem_singleton.2 trivial⟩
  exact ⟨finite, ordered, ofJson?_toJson_eq_some finite ordered⟩

end Survey
end SurveyLogic
