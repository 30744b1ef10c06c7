/-
What the standard rules put on a form.

Each of them gives validators of one kind, no two of one kind, and they are asked in one
order; so on every node the kinds stand in that order, each once at most
(`kinds_sublist`). Whether a field is required is asked of one definition only: the one
that has the property. Neither the definition around it, nor a branch beside it, nor the
schema whose branch it is has a say. The items of an array are the property of a
definition that requires nothing, so no template is ever required.
-/
import Mathlib.Data.List.Forall2
import SchemaForms.Proofs.Form.Nodes
import SchemaForms.Rule.Standard

set_option autoImplicit false

namespace SchemaForms

open SchemaForms.Field

/-! ## Kinds of validators -/

/-- What a validator checks, its bound apart. -/
inductive Validator.Kind where
  | required
  | pattern
  | minLength
  | maxLength
  | min
  | max
  | minItems
  | maxItems
  | email
  | custom
deriving DecidableEq

def Validator.kind : Validator → Kind
  | required => .required
  | pattern _ => .pattern
  | minLength _ => .minLength
  | maxLength _ => .maxLength
  | min _ => .min
  | max _ => .max
  | minItems _ => .minItems
  | maxItems _ => .maxItems
  | email => .email
  | custom _ => .custom

/-- The kinds that the standard rules give, in the order of the rules. -/
def Validator.Kind.standard : List Kind :=
  [required, pattern, minLength, maxLength, min, max, minItems, maxItems, email]

/-- All validators of the rule are of the one kind. -/
def Rule.Gives (rule : Rule) (kind : Validator.Kind) : Prop :=
  ∀ field definition validator, rule.validator? field definition = some validator →
    validator.kind = kind

/-- A rule that looks at the property alone gives what it finds there. -/
theorem Rule.Gives.of_property {name : String} {find? : Schema → Option Validator}
    {kind : Validator.Kind}
    (h : ∀ property validator, find? property = some validator → validator.kind = kind) :
    Rule.Gives
      { name, validator? := fun field definition => (definition.property? field).bind find? }
      kind := by
  intro field definition validator hvalidator
  obtain ⟨property, -, hfind⟩ := Option.bind_eq_some_iff.1 hvalidator
  exact h property validator hfind

theorem gives_standard : List.Forall₂ Rule.Gives Rule.standard Validator.Kind.standard := by
  refine .cons ?required (.cons ?pattern (.cons ?minLength (.cons ?maxLength (.cons ?minimum
    (.cons ?maximum (.cons ?minItems (.cons ?maxItems (.cons ?email .nil))))))))
  case required =>
    intro field definition validator h
    simp only [Rule.required, Option.ite_none_right_eq_some, Option.some.injEq] at h
    rw [← h.2]
    rfl
  case email =>
    refine .of_property fun property validator h => ?_
    simp only [Option.ite_none_right_eq_some, Option.some.injEq] at h
    rw [← h.2]
    rfl
  case minItems | maxItems =>
    refine .of_property fun property validator h => ?_
    simp only [Option.ite_none_right_eq_some, Option.map_eq_some_iff] at h
    obtain ⟨-, bound, -, rfl⟩ := h
    rfl
  all_goals
    refine .of_property fun property validator h => ?_
    obtain ⟨bound, -, rfl⟩ := Option.map_eq_some_iff.1 h
    rfl

/-- Rules of given kinds give validators whose kinds are among these, in their order. -/
theorem kinds_sublist {rules : List Rule} {kinds : List Validator.Kind}
    (h : List.Forall₂ Rule.Gives rules kinds) (field : String) (definition : Schema) :
    ((rules.filterMap fun rule => rule.validator? field definition).map
      Validator.kind).Sublist kinds := by
  induction h with
  | nil => exact .slnil
  | @cons rule kind rules kinds hrule _ ih =>
    cases hvalidator : rule.validator? field definition with
    | none =>
      simp only [List.filterMap_cons, hvalidator]
      exact ih.cons kind
    | some validator =>
      simp only [List.filterMap_cons, hvalidator, List.map_cons, hrule _ _ _ hvalidator]
      exact ih.cons_cons kind

/-! ## Required fields -/

/-- **A field is required when its definition lists it.** The validator stands in front
then, and there is no second one, however often the field is listed. -/
theorem validators_standard (field : String) (definition : Schema) :
    ∃ others, .required ∉ others ∧
      Registry.standard.validators field definition =
        if field ∈ definition.required then .required :: others else others := by
  refine ⟨Rule.standard.tail.filterMap fun rule => rule.validator? field definition, ?_, ?_⟩
  · -- The rules behind the first give other kinds.
    intro hmem
    have htail : List.Forall₂ Rule.Gives Rule.standard.tail Validator.Kind.standard.tail := by
      cases gives_standard with
      | cons _ htail => exact htail
    have hkind := (kinds_sublist htail field definition).subset (List.mem_map_of_mem hmem)
    revert hkind
    decide
  · have hrequired : definition.isRequired field = decide (field ∈ definition.required) :=
      List.contains_eq_mem field definition.required
    by_cases h : field ∈ definition.required
    · rw [if_pos h]
      simp only [Registry.validators, Registry.standard, Rule.standard, List.filterMap_cons,
        Rule.required, hrequired, h, decide_true, if_true, List.tail_cons]
    · rw [if_neg h]
      simp only [Registry.validators, Registry.standard, Rule.standard, List.filterMap_cons,
        Rule.required, hrequired, h, decide_false, Bool.false_eq_true, if_false, List.tail_cons]

theorem required_mem_standard_iff (field : String) (definition : Schema) :
    .required ∈ Registry.standard.validators field definition ↔ field ∈ definition.required := by
  obtain ⟨others, hothers, heq⟩ := validators_standard field definition
  rw [heq]
  by_cases h : field ∈ definition.required <;> simp [h, hothers]

/-- The entries of an array are never required. -/
theorem required_notMem_templateField (name : String) (items : Option Schema) :
    .required ∉ (Schema.templateField .standard name items).value.validators := by
  cases items with
  | none =>
    rw [Schema.templateField_none, Field.validators]
    exact List.not_mem_nil
  | some item =>
    rw [Schema.templateField_some, Schema.entryField]
    split
    · exact List.not_mem_nil
    · rw [Schema.validators_valueField, required_mem_standard_iff]
      exact List.not_mem_nil

/-! ## On whole forms -/

/-- What holds of every field that is made under the standard rules. -/
theorem Schema.Made.standard {node : Field} (h : Schema.Made .standard node) :
    (node.validators.map Validator.kind).Sublist Validator.Kind.standard ∧
      ∀ key count template validators, node = .repeated key count template validators →
        .required ∉ template.validators := by
  cases h with
  | group | missing =>
    refine ⟨List.nil_sublist _, ?_⟩
    intro key count template validators hnode
    cases hnode
  | value owner name property =>
    rw [Schema.validators_valueField]
    refine ⟨kinds_sublist gives_standard name owner, ?_⟩
    intro key count template validators hnode
    cases harray : property.isArray with
    | true =>
      rw [Schema.valueField_of_isArray .standard owner name harray] at hnode
      obtain ⟨rfl, rfl, rfl, rfl⟩ := Field.repeated.inj hnode
      exact required_notMem_templateField name property.items
    | false =>
      rw [Schema.valueField_of_not_isArray .standard owner name harray] at hnode
      cases hnode

/-- **The validators of the standard rules, over the whole form.** On every node they
stand in the order of the rules, one of each kind at most; a group has none, and the
template of an array is never required. The field that a property gets, in whatever
definition the walker goes into, is a group if the property is an object; if not, it is
required exactly when that definition itself lists it, and then once and in front. -/
theorem validators_of_standard_rules (schema : Schema) (name : String) :
    (∀ node ∈ nodesOf (schema.fields .standard name).value,
      (node.validators.map Validator.kind).Sublist Validator.Kind.standard ∧
      (∀ key children, node = .group key children → node.validators = []) ∧
      ∀ key count template validators, node = .repeated key count template validators →
        .required ∉ template.validators) ∧
    ∀ position key owner property, schema.Compiles .definition (position ++ [.property key]) →
      Schema.at? position schema = some owner → owner.property? key = some property →
        ∃ field, Part.at? (position ++ [.property key]) schema
            (.block (schema.fields .standard name).value) = some (.entry field) ∧
          field.name = key ∧
          (property.isObject = true → ∃ children, field = .group key children) ∧
          (property.isObject = false →
            (.required ∈ field.validators ↔ key ∈ owner.required) ∧
            (key ∈ owner.required →
              ∃ others, field.validators = .required :: others ∧ .required ∉ others)) := by
  constructor
  · intro node hnode
    obtain ⟨hkinds, htemplate⟩ := (Schema.made_of_mem_nodes .standard name hnode).standard
    refine ⟨hkinds, ?_, htemplate⟩
    rintro key children rfl
    rfl
  · intro position key owner property hcompiles howner hproperty
    have hplace := Schema.part_property .standard name hcompiles howner hproperty
    -- At the place stands what is made for the property with its definition for owner.
    rw [Schema.entryField] at hplace
    split at hplace
    · rename_i hobject
      refine ⟨_, hplace, rfl, fun _ => ⟨_, rfl⟩, fun hnot => ?_⟩
      rw [hobject] at hnot
      cases hnot
    · rename_i hobject
      refine ⟨_, hplace, Schema.name_valueField .standard owner key property,
        fun hyes => absurd hyes hobject, fun _ => ?_⟩
      rw [Schema.validators_valueField]
      refine ⟨required_mem_standard_iff key owner, fun hmem => ?_⟩
      obtain ⟨others, hothers, heq⟩ := validators_standard key owner
      rw [if_pos hmem] at heq
      exact ⟨others, heq, hothers⟩

/-- An order with lines, each of which lists its article twice as required. -/
def order : Schema :=
  { required := ["note"]
    properties := [("lines",
      { type := some (.single "array")
        items := some
          { required := ["article", "article"]
            properties := [("note", {}), ("article", { minLength := some 1 })] } })] }

theorem validators_of_standard_rules_order :
    (∃ field, Part.at? [.property "lines", .items, .property "article"] order
        (.block (order.fields .standard "order").value) = some (.entry field) ∧
      ∃ others, field.validators = .required :: others ∧ .required ∉ others) ∧
    ∃ field, Part.at? [.property "lines", .items, .property "note"] order
        (.block (order.fields .standard "order").value) = some (.entry field) ∧
      .required ∉ field.validators := by
  obtain ⟨-, hproperty⟩ := validators_of_standard_rules order "order"
  constructor
  · obtain ⟨field, hplace, -, -, hrequired⟩ :=
      hproperty [.property "lines", .items] "article" _ { minLength := some 1 }
        ⟨rfl, _, rfl, rfl, _, rfl, rfl, _, rfl, trivial⟩ rfl rfl
    exact ⟨field, hplace, (hrequired rfl).2 (by decide)⟩
  · obtain ⟨field, hplace, -, -, hrequired⟩ :=
      hproperty [.property "lines", .items] "note" _ {}
        ⟨rfl, _, rfl, rfl, _, rfl, rfl, _, rfl, trivial⟩ rfl rfl
    exact ⟨field, hplace, fun hmem => absurd ((hrequired rfl).1.1 hmem) (by decide)⟩

end SchemaForms
