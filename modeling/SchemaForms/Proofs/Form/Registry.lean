/-
What a form owes to the rules. The rules are asked about certain fields of certain
definitions, and their answers are put on the nodes of the form; they have no other part
in it. So for every schema there are a shape and a list of questions, one for each node,
such that the form under any registry is the shape with the answers of that registry
(`fields_filled`). No question is asked for a group or for the template of an array
without items.

How forms under different registries compare is then a matter of how their answers do:
rules in a row give their answers in a row, and rules in another order give the same
answers in another order. `fields_of_registries` says this of whole forms.
-/
import Mathlib.Data.List.Forall2
import SchemaForms.Proofs.Form.Nodes
import SchemaForms.Rule.Standard

set_option autoImplicit false

namespace SchemaForms

/-! ## Questions and answers -/

namespace Registry

/-- The rules of one registry and behind them those of another. -/
def followedBy (first second : Registry) : Registry :=
  { rules := first.rules ++ second.rules }

/-- What the rules answer when they are asked about a field of a definition; where they
are not asked there is no answer. -/
def answer (rules : Registry) : Option (String × Schema) → List Validator
  | none => []
  | some (name, definition) => rules.validators name definition

theorem answer_followedBy (first second : Registry) (question : Option (String × Schema)) :
    (first.followedBy second).answer question =
      first.answer question ++ second.answer question := by
  cases question with
  | none => rfl
  | some asked => exact List.filterMap_append

theorem answer_add (rules : Registry) (rule : Rule) (question : Option (String × Schema)) :
    ∃ more : Option Validator, (rules.add rule).answer question =
      rules.answer question ++ more.toList := by
  cases question with
  | none => exact ⟨none, rfl⟩
  | some asked =>
    refine ⟨rule.validator? asked.1 asked.2, ?_⟩
    simp only [answer, validators, add, List.filterMap_append, List.append_cancel_left_eq]
    cases h : rule.validator? asked.1 asked.2 <;> simp [h]

theorem answer_perm {first second : Registry} (h : first.rules.Perm second.rules)
    (question : Option (String × Schema)) :
    (first.answer question).Perm (second.answer question) := by
  cases question with
  | none => exact .refl _
  | some asked => exact h.filterMap _

end Registry

/-! ## Shapes filled with answers -/

open SchemaForms.Field

/-- The fields have the given shape, and on their nodes stand the answers of the rules to
the given questions. -/
structure Filled (rules : Registry) (shape : List Field)
    (questions : List (Option (String × Schema))) (fields : List Field) : Prop where
  bare : bareAll fields = shape
  validators : validatorsOf fields = questions.map rules.answer

namespace Filled

variable {rules : Registry} {shape others : List Field}
variable {questions more : List (Option (String × Schema))} {fields rest : List Field}

theorem nil : Filled rules [] [] [] := ⟨rfl, rfl⟩

theorem append (h : Filled rules shape questions fields) (hrest : Filled rules others more rest) :
    Filled rules (shape ++ others) (questions ++ more) (fields ++ rest) where
  bare := by rw [bareAll_append, h.bare, hrest.bare]
  validators := by rw [validatorsOf_append, h.validators, hrest.validators, List.map_append]

theorem control (name : String) (initial : Option Json) (question : Option (String × Schema)) :
    Filled rules [.control name initial []] [question]
      [.control name initial (rules.answer question)] :=
  ⟨rfl, rfl⟩

theorem group (name : String) (h : Filled rules shape questions fields) :
    Filled rules [.group name shape] (none :: questions) [.group name fields] where
  bare := by simp only [bareAll, Field.bare, h.bare]
  validators := by
    rw [validatorsOf, nodesOf_singleton, nodes, List.map_cons, List.map_cons, ← h.validators]
    rfl

theorem repeated {inner template : Field} (name : String) (count : Nat)
    (question : Option (String × Schema)) (h : Filled rules [inner] questions [template]) :
    Filled rules [.repeated name count inner []] (question :: questions)
      [.repeated name count template (rules.answer question)] where
  bare := by
    have hinner := h.bare
    simp only [bareAll, List.cons.injEq, and_true] at hinner
    simp only [bareAll, Field.bare, hinner]
  validators := by
    have htemplate := h.validators
    rw [validatorsOf, nodesOf_singleton] at htemplate ⊢
    rw [nodes, List.map_cons, List.map_cons, htemplate]
    rfl

end Filled

namespace Schema

/-- A property is a group of its fields or a value, and the rules do not decide which. -/
theorem entryField_filled {owner : Schema} {name : String} {property : Schema}
    (hfields : ∃ shape questions, ∀ (rules : Registry) (name : String),
      Filled rules shape questions (property.fields rules name).value)
    (hvalue : ∃ inner questions, ∀ rules : Registry,
      Filled rules [inner] questions [(valueField rules owner name property).value]) :
    ∃ inner questions, ∀ rules : Registry,
      Filled rules [inner] questions [entryField rules owner name property] := by
  simp only [entryField]
  split
  · obtain ⟨shape, questions, hchildren⟩ := hfields
    exact ⟨.group name shape, none :: questions, fun rules => (hchildren rules name).group name⟩
  · exact hvalue

mutual

/-- **The rules answer, and the schema asks.** What the fields of a definition are under
different rules differs in the answers alone. -/
theorem fields_filled : ∀ schema : Schema, ∃ shape questions, ∀ (rules : Registry) (name : String),
    Filled rules shape questions (schema.fields rules name).value
  | ⟨keywords, properties, items, allOf⟩ => by
    obtain ⟨shape, questions, hbranches⟩ := branchFields_filled allOf
    obtain ⟨others, more, hproperties⟩ :=
      propertyFields_filled ⟨keywords, properties, items, allOf⟩ properties
    refine ⟨shape ++ others, questions ++ more, fun rules name => ?_⟩
    simp only [fields, Logged.value_bind, Logged.value_pure]
    exact (hbranches rules name).append (hproperties rules)

theorem branchFields_filled : ∀ branches : List Schema, ∃ shape questions,
    ∀ (rules : Registry) (name : String),
      Filled rules shape questions (branchFields rules name branches).value
  | [] => ⟨[], [], fun _ _ => by rw [branchFields]; exact .nil⟩
  | branch :: rest => by
    obtain ⟨shape, questions, hfirst⟩ := fields_filled branch
    obtain ⟨others, more, hrest⟩ := branchFields_filled rest
    refine ⟨shape ++ others, questions ++ more, fun rules name => ?_⟩
    simp only [branchFields, Logged.value_bind, Logged.value_pure]
    exact (hfirst rules name).append (hrest rules name)

theorem propertyFields_filled (owner : Schema) : ∀ properties : List (String × Schema),
    ∃ shape questions, ∀ rules : Registry,
      Filled rules shape questions (propertyFields rules owner properties).value
  | [] => ⟨[], [], fun _ => by rw [propertyFields]; exact .nil⟩
  | (name, property) :: rest => by
    obtain ⟨inner, questions, hfirst⟩ :=
      entryField_filled (fields_filled property) (valueField_filled owner name property)
    obtain ⟨others, more, hrest⟩ := propertyFields_filled owner rest
    refine ⟨[inner] ++ others, questions ++ more, fun rules => ?_⟩
    rw [propertyFields_value, List.map_cons, ← propertyFields_value]
    exact (hfirst rules).append (hrest rules)

theorem valueField_filled (owner : Schema) (name : String) : ∀ property : Schema,
    ∃ inner questions, ∀ rules : Registry,
      Filled rules [inner] questions [(valueField rules owner name property).value]
  | ⟨keywords, properties, items, allOf⟩ => by
    cases harray : isArray ⟨keywords, properties, items, allOf⟩ with
    | true =>
      obtain ⟨inner, questions, htemplate⟩ := templateField_filled name items
      refine ⟨.repeated name (repeatCount name keywords.minItems).value inner [],
        some (name, owner) :: questions, fun rules => ?_⟩
      rw [valueField_of_isArray rules owner name harray]
      exact (htemplate rules).repeated name _ (some (name, owner))
    | false =>
      refine ⟨.control name keywords.initial [], [some (name, owner)], fun rules => ?_⟩
      rw [valueField_of_not_isArray rules owner name harray]
      exact .control name keywords.initial (some (name, owner))

theorem templateField_filled (name : String) : ∀ items : Option Schema,
    ∃ inner questions, ∀ rules : Registry,
      Filled rules [inner] questions [(templateField rules name items).value]
  | none => by
    refine ⟨.control name none [], [none], fun rules => ?_⟩
    rw [templateField_none]
    exact .control name none none
  | some item => by
    simp only [templateField_some]
    exact entryField_filled (fields_filled item) (valueField_filled (wrapping name item) name item)

end

end Schema

/-! ## Forms under different rules -/

/-- How the forms of one schema under all registries hang together. -/
structure RegistryLaws (form : Registry → List Field) : Prop where
  /-- Rules do not decide about names, kinds, nesting, numbers of copies and defaults. -/
  shape : ∀ first second, bareAll (form first) = bareAll (form second)
  controlCount : ∀ first second, controlCountOf (form first) = controlCountOf (form second)
  /-- Under two registries in a row the form is the one of that shape which has, on each
  node, the validators under the first and then those under the second. -/
  followedBy : ∀ first second fields, fields = form (first.followedBy second) ↔
    bareAll fields = bareAll (form first) ∧
      validatorsOf fields =
        List.zipWith (· ++ ·) (validatorsOf (form first)) (validatorsOf (form second))
  /-- A rule at the end appends at most one validator on each node. -/
  add : ∀ rules rule, List.Forall₂
    (fun before after => ∃ more : Option Validator, after = before ++ more.toList)
    (validatorsOf (form rules)) (validatorsOf (form (rules.add rule)))
  /-- Rules in another order give the validators of each node in another order. -/
  perm : ∀ first second, first.rules.Perm second.rules →
    List.Forall₂ List.Perm (validatorsOf (form first)) (validatorsOf (form second))

/-- Forms that are one shape with the answers to one list of questions obey the laws. -/
theorem RegistryLaws.of_filled {form : Registry → List Field} {shape : List Field}
    {questions : List (Option (String × Schema))}
    (h : ∀ rules, Filled rules shape questions (form rules)) : RegistryLaws form where
  shape first second := (h first).bare.trans (h second).bare.symm
  controlCount first second := by
    rw [← controlCountOf_bareAll (form first), ← controlCountOf_bareAll (form second),
      (h first).bare, (h second).bare]
  followedBy first second fields := by
    have hvalidators : validatorsOf (form (first.followedBy second)) =
        List.zipWith (· ++ ·) (validatorsOf (form first)) (validatorsOf (form second)) := by
      rw [(h first).validators, (h second).validators, (h _).validators, List.zipWith_map,
        List.zipWith_self]
      exact List.map_congr_left fun question _ => Registry.answer_followedBy first second question
    have hshape : bareAll (form (first.followedBy second)) = bareAll (form first) :=
      (h _).bare.trans (h first).bare.symm
    constructor
    · rintro rfl
      exact ⟨hshape, hvalidators⟩
    · rintro ⟨hbare, hnodes⟩
      exact eq_of_bareAll (hbare.trans hshape.symm) (hnodes.trans hvalidators.symm)
  add rules rule := by
    rw [(h rules).validators, (h _).validators, List.forall₂_map_left_iff,
      List.forall₂_map_right_iff, List.forall₂_same]
    exact fun question _ => Registry.answer_add rules rule question
  perm first second hperm := by
    rw [(h first).validators, (h second).validators, List.forall₂_map_left_iff,
      List.forall₂_map_right_iff, List.forall₂_same]
    exact fun question _ => Registry.answer_perm hperm question

/-- An array without items has a bare control for its template. -/
theorem Schema.entryField_of_items_none (rules : Registry) (owner : Schema) (name : String)
    {array : Schema} (hobject : array.isObject = false) (harray : array.isArray = true)
    (hitems : array.items = none) :
    entryField rules owner name array = .repeated name (repeatCount name array.minItems).value
      (.control name none []) (rules.validators name owner) := by
  rw [entryField, hobject, if_neg Bool.false_ne_true, valueField_of_isArray rules owner name harray,
    hitems, templateField_none]

/-- **Rules contribute validators and nothing else.** The forms of a schema under all
registries hang together as the laws say; and under every registry the template of an
array without items, at any depth, is a control without validators. -/
theorem fields_of_registries (schema : Schema) (name : String) :
    RegistryLaws (fun rules => (schema.fields rules name).value) ∧
    ∀ position key owner array, schema.Compiles .definition position →
      Schema.at? position schema = some array →
      schema.settingAt .definition position = .entry key owner →
      array.isObject = false → array.isArray = true → array.items = none →
        ∀ rules, ∃ count validators,
          Part.at? position schema (.block (schema.fields rules name).value) =
            some (.entry (.repeated key count (.control key none []) validators)) := by
  constructor
  · obtain ⟨shape, questions, hfilled⟩ := schema.fields_filled
    exact .of_filled fun rules => hfilled rules name
  · intro position key owner array hcompiles hat hsetting hobject harray hitems rules
    have hpart := Schema.part_at rules hcompiles hat
    rw [hsetting, Schema.part, Schema.part, Schema.fields_value_congr rules "" name,
      Schema.entryField_of_items_none rules owner key hobject harray hitems] at hpart
    exact ⟨_, _, hpart⟩

/-- A required array that does not say what its entries are, inside a group. -/
def tagged : Schema :=
  { properties := [("labels",
      { required := ["tags"]
        properties := [("tags", { type := some (.single "array"), minItems := some 2 })] })] }

theorem fields_of_registries_tagged :
    (∃ count validators, Part.at? [.property "labels", .property "tags"] tagged
      (.block (tagged.fields .standard "").value) =
        some (.entry (.repeated "tags" count (.control "tags" none []) validators))) ∧
    List.Forall₂ List.Perm
      (validatorsOf (tagged.fields { rules := [.required, .minItems] } "").value)
      (validatorsOf (tagged.fields { rules := [.minItems, .required] } "").value) := by
  obtain ⟨hlaws, hbare⟩ := fields_of_registries tagged ""
  refine ⟨?_, hlaws.perm _ _ (.swap _ _ _)⟩
  exact hbare [.property "labels", .property "tags"] "tags" _ _
    ⟨rfl, _, rfl, rfl, _, rfl, trivial⟩ rfl rfl rfl rfl rfl .standard

end SchemaForms
