/-
How many copies an array gets, and what its validators say about the number of its entries.

Both come from the bounds of one schema, but not on one way. The walker takes the number of
copies from the property that it has come to; the rules look a property up by its name, and
they ask again whether it is an array. That the two ways meet is for three reasons. The
properties of one definition have different names, so looking up finds the property that the
walker has come to (`Schema.Distinct.property?`). The items of an array are looked up in a
definition made for them, where they are the only property. And both ways ask one question,
whether the type says array, behind the question whether the schema is an object: a type may
say both, and then there is a group and neither copies nor validators.

`BoundsAgree` is what follows for a single field, and `repeats_agree_with_bounds` says it of
every field at every depth. The limit on copies holds under any rules, for rules have no part
in counting.
-/
import SchemaForms.Proofs.Rule.Standard
import SchemaForms.Proofs.Schema.Distinct

set_option autoImplicit false

namespace SchemaForms

open SchemaForms.Field

/-! ## Counting copies -/

/-- An array gets as many copies as it must have entries, one if it does not say, and never
more than the limit. -/
theorem value_repeatCount (field : String) (minItems : Option Nat) :
    (repeatCount field minItems).value = min (minItems.getD 1) repeatLimit := by
  unfold repeatCount
  by_cases hlimit : repeatLimit < minItems.getD 1
  · rw [if_pos hlimit, Nat.min_eq_right (Nat.le_of_lt hlimit)]
    rfl
  · rw [if_neg hlimit, Nat.min_eq_left (Nat.le_of_not_lt hlimit)]
    rfl

/-! ## Validators of one kind

The standard rules give validators of different kinds, so a validator among their answers
comes from the one rule of its kind. -/

theorem mem_answers_iff {rules : List Rule} {kinds : List Validator.Kind}
    (hgives : List.Forall₂ Rule.Gives rules kinds) (hkinds : kinds.Nodup) {rule : Rule}
    {validator : Validator} (hrule : (rule, validator.kind) ∈ rules.zip kinds)
    (field : String) (definition : Schema) :
    validator ∈ rules.filterMap (fun rule => rule.validator? field definition) ↔
      rule.validator? field definition = some validator := by
  constructor
  · intro hmem
    induction hgives with
    | nil => cases hrule
    | @cons first kind rules kinds hfirst hrest ih =>
      obtain ⟨hnew, hkinds⟩ := List.nodup_cons.1 hkinds
      rw [List.zip_cons_cons, List.mem_cons] at hrule
      rw [List.mem_filterMap] at hmem
      obtain ⟨asked, hasked, hanswer⟩ := hmem
      rcases hrule with heq | hrule
      · obtain ⟨rfl, hkind⟩ := Prod.mk.inj heq
        rcases List.mem_cons.1 hasked with rfl | hasked
        · exact hanswer
        · -- A rule further behind would give the kind of the first one again.
          have hmem : validator ∈ rules.filterMap fun rule => rule.validator? field definition :=
            List.mem_filterMap.2 ⟨asked, hasked, hanswer⟩
          have hagain := (kinds_sublist hrest field definition).subset (List.mem_map_of_mem hmem)
          exact absurd (hkind ▸ hagain) hnew
      · rcases List.mem_cons.1 hasked with rfl | hasked
        · -- The first rule gives its own kind, and that is not the one further behind.
          have hkind : validator.kind = kind := hfirst field definition validator hanswer
          exact absurd (hkind ▸ (List.of_mem_zip hrule).2) hnew
        · exact ih hkinds hrule (List.mem_filterMap.2 ⟨asked, hasked, hanswer⟩)
  · intro hanswer
    exact List.mem_filterMap.2 ⟨rule, (List.of_mem_zip hrule).1, hanswer⟩

/-- A lower bound on entries is the bound of the array that is looked up. -/
theorem minItems_mem_standard_iff {field : String} {definition property : Schema} {n : Nat}
    (hproperty : definition.property? field = some property) :
    .minItems n ∈ Registry.standard.validators field definition ↔
      property.isArray = true ∧ property.minItems = some n := by
  have hrule : (Rule.minItems, Validator.Kind.minItems) ∈
      Rule.standard.zip Validator.Kind.standard := by
    simp [Rule.standard, Validator.Kind.standard]
  rw [Registry.validators, Registry.standard,
    mem_answers_iff gives_standard (by decide) hrule field definition]
  simp only [Rule.minItems, hproperty, Option.bind_some, Option.ite_none_right_eq_some,
    Option.map_eq_some_iff, Validator.minItems.injEq, exists_eq_right]

/-- An upper bound on entries is the bound of the array that is looked up. -/
theorem maxItems_mem_standard_iff {field : String} {definition property : Schema} {n : Nat}
    (hproperty : definition.property? field = some property) :
    .maxItems n ∈ Registry.standard.validators field definition ↔
      property.isArray = true ∧ property.maxItems = some n := by
  have hrule : (Rule.maxItems, Validator.Kind.maxItems) ∈
      Rule.standard.zip Validator.Kind.standard := by
    simp [Rule.standard, Validator.Kind.standard]
  rw [Registry.validators, Registry.standard,
    mem_answers_iff gives_standard (by decide) hrule field definition]
  simp only [Rule.maxItems, hproperty, Option.bind_some, Option.ite_none_right_eq_some,
    Option.map_eq_some_iff, Validator.maxItems.injEq, exists_eq_right]

/-! ## One field -/

/-- What a field is and what its validators say about the number of entries: a control says
nothing about it, and a repeated field has at most one lower bound and as many copies as it
says, within the limit, or one copy if there is none. -/
def Field.BoundsAgree : Field → Prop
  | control _ _ validators => ∀ n, .minItems n ∉ validators ∧ .maxItems n ∉ validators
  | group _ _ => True
  | repeated _ count _ validators =>
    (validators.map Validator.kind).count .minItems ≤ 1 ∧
      (∀ n, .minItems n ∈ validators → count = min n repeatLimit) ∧
      ((∀ n, .minItems n ∉ validators) → count = 1)

/-- The field of a property agrees with its validators if the rules find the property. -/
theorem boundsAgree_valueField {owner property : Schema} {name : String}
    (hproperty : owner.property? name = some property) :
    (Schema.valueField .standard owner name property).value.BoundsAgree := by
  cases harray : property.isArray with
  | false =>
    rw [Schema.valueField_of_not_isArray .standard owner name harray]
    intro n
    rw [minItems_mem_standard_iff hproperty, maxItems_mem_standard_iff hproperty, harray]
    simp only [Bool.false_eq_true, false_and, not_false_eq_true, and_self]
  | true =>
    rw [Schema.valueField_of_isArray .standard owner name harray, value_repeatCount]
    refine ⟨?_, ?_, ?_⟩
    · have hkinds := (kinds_sublist gives_standard name owner).count_le Validator.Kind.minItems
      exact Nat.le_trans hkinds (by decide)
    · intro n hmem
      obtain ⟨-, hbound⟩ := (minItems_mem_standard_iff hproperty).1 hmem
      rw [hbound, Option.getD_some]
    · intro hnone
      cases hbound : property.minItems with
      | some n =>
        exact absurd ((minItems_mem_standard_iff hproperty).2 ⟨harray, hbound⟩) (hnone n)
      | none => rfl

namespace Schema

/-! ## Every field -/

theorem inherited_distinct : Inherited Distinct where
  branch h hbranch := h.branch hbranch
  property h hproperty := h.property hproperty
  items h hitem := h.items hitem
  wrapping name h := h.wrapping name

theorem boundsAgree_ofMade : OfMade .standard Distinct BoundsAgree where
  group _ _ := trivial
  value howner hproperty := boundsAgree_valueField (howner.property? hproperty)
  missing _ := fun _ => ⟨List.not_mem_nil, List.not_mem_nil⟩

/-- No field has more copies than the limit, whatever the rules are. -/
theorem Made.count_le {rules : Registry} {node : Field} (h : Made rules node) {name : String}
    {count : Nat} {template : Field} {validators : List Validator}
    (hnode : node = .repeated name count template validators) : count ≤ repeatLimit := by
  cases h with
  | group | missing => cases hnode
  | value owner key property =>
    cases harray : property.isArray with
    | false =>
      rw [valueField_of_not_isArray rules owner key harray] at hnode
      cases hnode
    | true =>
      rw [valueField_of_isArray rules owner key harray, value_repeatCount] at hnode
      obtain ⟨-, rfl, -, -⟩ := Field.repeated.inj hnode
      exact Nat.min_le_right _ _

/-- The schema that the walker takes up as an entry is the one its owner has under the key. -/
theorem property?_of_settingAt {position : List SchemaStep} {setting : Setting}
    {schema inner owner : Schema} {key : String}
    (hfirst : ∀ key owner, setting = .entry key owner → owner.property? key = some schema)
    (hat : Schema.at? position schema = some inner)
    (h : schema.settingAt setting position = .entry key owner) :
    owner.property? key = some inner := by
  induction position generalizing setting schema with
  | nil =>
    obtain rfl := Option.some.inj hat
    exact hfirst key owner h
  | cons step rest ih =>
    obtain ⟨next, hnext, hrest⟩ := Option.bind_eq_some_iff.1 hat
    rw [settingAt, hnext] at h
    refine ih (fun key' owner' hentry => ?_) hrest h
    cases step with
    | branch index => cases hentry
    | property name =>
      obtain ⟨rfl, rfl⟩ := Setting.entry.inj hentry
      exact hnext
    | items =>
      cases setting with
      | definition => cases hentry
      | entry name around =>
        obtain ⟨rfl, rfl⟩ := Setting.entry.inj hentry
        simp only [property?, wrapping, Keyed.get?, List.lookup_cons, beq_self_eq_true]

end Schema

/-! ## The statement -/

/-- **The number of copies and the validators agree at every depth.** Under any rules no field
has more copies than the limit. Under the standard rules, in the form of a schema whose
properties have different names wherever they stand, every field at any depth has copies as
its validators say, and no control has a bound on entries. Wherever the walker comes to an
array that is no object, as a property or as the items of another array, it makes a repeated
field, the bound that it was declared with is what its validator says, however great it is,
and the number of copies is that bound within the limit. -/
theorem repeats_agree_with_bounds (schema : Schema) (name : String) :
    (∀ rules, ∀ node ∈ nodesOf (schema.fields rules name).value,
      ∀ key count template validators, node = .repeated key count template validators →
        count ≤ repeatLimit) ∧
    (schema.Distinct → ∀ node ∈ nodesOf (schema.fields .standard name).value, node.BoundsAgree) ∧
    ∀ position key owner array, schema.Compiles .definition position →
      Schema.at? position schema = some array →
      schema.settingAt .definition position = .entry key owner →
      array.isObject = false → array.isArray = true →
        ∃ template validators,
          Part.at? position schema (.block (schema.fields .standard name).value) =
            some (.entry (.repeated key (min (array.minItems.getD 1) repeatLimit) template
              validators)) ∧
          (∀ n, .minItems n ∈ validators ↔ array.minItems = some n) ∧
          ∀ n, .maxItems n ∈ validators ↔ array.maxItems = some n := by
  refine ⟨?_, ?_, ?_⟩
  · intro rules node hnode key count template validators hrepeated
    exact (Schema.made_of_mem_nodes rules name hnode).count_le hrepeated
  · intro hdistinct
    exact Schema.boundsAgree_ofMade.nodes Schema.inherited_distinct name hdistinct
  · intro position key owner array hcompiles hat hsetting hobject harray
    have hproperty : owner.property? key = some array :=
      Schema.property?_of_settingAt (by intro _ _ hentry; cases hentry) hat hsetting
    have htaken : schema.TakenUp position key owner array := ⟨hcompiles, hat, hsetting⟩
    have hpart := htaken.part_eq_repeated .standard hobject harray name
    rw [value_repeatCount] at hpart
    refine ⟨_, _, hpart, ?_, ?_⟩
    · intro n
      rw [minItems_mem_standard_iff hproperty, harray]
      simp only [true_and]
    · intro n
      rw [maxItems_mem_standard_iff hproperty, harray]
      simp only [true_and]

/-- A row of a grid, with more cells than there will be copies. A cell is no array, and its
bound on entries means nothing. -/
def row : Schema :=
  { type := some (.single "array")
    minItems := some 1000
    items := some { type := some (.single "string"), minItems := some 2 } }

/-- A grid of at most three rows, which may also be missing. -/
def grid : Schema :=
  .wrapping "cells"
    { type := some (.union ["array", "null"]), maxItems := some 3, items := some row }

theorem distinct_grid : grid.Distinct :=
  .wrapping (.of_items rfl rfl rfl (.of_items rfl rfl rfl (.of_leaf rfl rfl rfl))) "cells"

theorem repeats_agree_with_bounds_grid :
    (∀ node ∈ nodesOf (grid.fields .standard "grid").value, node.BoundsAgree) ∧
    ∃ template validators,
      Part.at? [.property "cells", .items] grid (.block (grid.fields .standard "grid").value) =
        some (.entry (.repeated "cells" 100 template validators)) ∧
      .minItems 1000 ∈ validators := by
  obtain ⟨-, hnodes, hplace⟩ := repeats_agree_with_bounds grid "grid"
  refine ⟨hnodes distinct_grid, ?_⟩
  obtain ⟨template, validators, hpart, hmin, -⟩ :=
    hplace [.property "cells", .items] "cells" _ row
      ⟨rfl, _, rfl, rfl, _, rfl, trivial⟩ rfl rfl rfl rfl
  exact ⟨template, validators, hpart, (hmin 1000).2 rfl⟩

end SchemaForms
