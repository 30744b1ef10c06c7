/-
Composition. A definition with branches may be regrouped: a branch that has branches of
its own gives way to those, followed by what is left of it. This may be done in any list
of branches, at the top or inside properties, items or other branches (`exists_regroups`),
and as often as one likes, and nothing about the form changes, nor about what is told on
the way.

Two things could go wrong, and each has its part here. Rules are shown the definition
around a field, and that definition has been changed. But the standard rules read the
required names and what each property says about its own value, and regrouping touches
neither (`Alike`, `shallow_standard`). And whether a schema becomes a group may depend on
its having branches at all. But a list with a branch in it never becomes empty.

So the argument is that of a congruence: a branch and its parts are interchangeable, and
what holds schemas that are interchangeable is interchangeable itself. Carried on as long
as there is something to regroup, a definition falls into parts without branches, and its
fields are theirs, one part after the other.
-/
import Mathlib.Logic.Relation
import SchemaForms.Proofs.Form.Place
import SchemaForms.Rule.Standard

set_option autoImplicit false

namespace SchemaForms

open Relation (ReflTransGen)

theorem Logged.ext {α : Type} {a b : Logged α} (hvalue : a.value = b.value)
    (hevents : a.events = b.events) : a = b := by
  cases a
  cases b
  congr

namespace Schema

/-! ## Regrouping -/

/-- The branches of a branch, and then the branch without them. -/
def apart (branch : Schema) : List Schema :=
  branch.allOf ++ [{ branch with allOf := [] }]

/-- One branch, somewhere in the schema, gives way to its parts. -/
inductive Regroups : Schema → Schema → Prop where
  | here (schema : Schema) (before : List Schema) (branch : Schema) (after : List Schema) :
      Regroups { schema with allOf := before ++ branch :: after }
        { schema with allOf := before ++ (branch.apart ++ after) }
  | branch (schema : Schema) (before after : List Schema) {branch other : Schema}
      (inner : Regroups branch other) :
      Regroups { schema with allOf := before ++ branch :: after }
        { schema with allOf := before ++ other :: after }
  | property (schema : Schema) (before : List (String × Schema)) (name : String)
      (after : List (String × Schema)) {property other : Schema}
      (inner : Regroups property other) :
      Regroups { schema with properties := before ++ (name, property) :: after }
        { schema with properties := before ++ (name, other) :: after }
  | items (schema : Schema) {item other : Schema} (inner : Regroups item other) :
      Regroups { schema with items := some item } { schema with items := some other }

/-- A list around the element at an index. -/
theorem split_of_getElem? {α : Type} {list : List α} {index : Nat} {a : α}
    (h : list[index]? = some a) :
    ∃ before after, list = before ++ a :: after ∧ before.length = index := by
  obtain ⟨hlt, rfl⟩ := List.getElem?_eq_some_iff.1 h
  refine ⟨list.take index, list.drop (index + 1), ?_, List.length_take_of_le (Nat.le_of_lt hlt)⟩
  rw [← List.drop_eq_getElem_cons hlt, List.take_append_drop]

/-- What happens one step further in is seen from outside. -/
theorem Regroups.outward {schema inner other : Schema} {step : SchemaStep}
    (h : Regroups inner other) (hinner : schema.step? step = some inner) :
    ∃ whole, Regroups schema whole ∧ whole.step? step = some other := by
  obtain ⟨keywords, properties, items, allOf⟩ := schema
  cases step with
  | branch index =>
    obtain ⟨before, after, rfl, rfl⟩ := split_of_getElem? hinner
    refine ⟨_, .branch ⟨keywords, properties, items, []⟩ before after h, ?_⟩
    simp only [step?, List.getElem?_append_right (Nat.le_refl _), Nat.sub_self,
      List.getElem?_cons_zero]
  | property name =>
    obtain ⟨before, after, rfl, hnew⟩ := List.lookup_eq_some_iff.1 hinner
    refine ⟨_, .property ⟨keywords, [], items, allOf⟩ before name after h, ?_⟩
    exact List.lookup_eq_some_iff.2 ⟨before, after, rfl, hnew⟩
  | items =>
    obtain rfl := hinner
    exact ⟨_, .items ⟨keywords, properties, none, allOf⟩ h, rfl⟩

/-- **Every branch can give way**, in whatever list of branches it stands and wherever the
list stands in the schema. -/
theorem exists_regroups {position : List SchemaStep} {schema owner branch : Schema}
    {before after : List Schema} (howner : Schema.at? position schema = some owner)
    (hbranch : owner.allOf = before ++ branch :: after) :
    ∃ other, Regroups schema other ∧ Schema.at? position other =
      some { owner with allOf := before ++ (branch.apart ++ after) } := by
  induction position generalizing schema with
  | nil =>
    obtain rfl := Option.some.inj howner
    obtain ⟨keywords, properties, items, allOf⟩ := schema
    obtain rfl : allOf = before ++ branch :: after := hbranch
    exact ⟨_, .here ⟨keywords, properties, items, []⟩ before branch after, rfl⟩
  | cons step rest ih =>
    obtain ⟨inner, hinner, hrest⟩ := Option.bind_eq_some_iff.1 howner
    obtain ⟨other, hregroups, hother⟩ := ih hrest
    obtain ⟨whole, hwhole, hstep⟩ := hregroups.outward hinner
    exact ⟨whole, hwhole, by rw [Schema.at?, hstep]; exact hother⟩

/-! ## Regrouping until there is nothing left

A branch that has given way is left without branches, so there comes an end to regrouping.
The parts of a schema are what its branches have become by then, and they can be read off
it at once. -/

mutual

/-- The schema in parts that have no branches: those of its branches in order, and then
what is its own. -/
def parts : Schema → List Schema
  | ⟨keywords, properties, items, allOf⟩ => partsOf allOf ++ [⟨keywords, properties, items, []⟩]

def partsOf : List Schema → List Schema
  | [] => []
  | branch :: rest => parts branch ++ partsOf rest

end

theorem parts_eq (schema : Schema) :
    schema.parts = partsOf schema.allOf ++ [{ schema with allOf := [] }] := by
  obtain ⟨keywords, properties, items, allOf⟩ := schema
  rw [parts]

theorem partsOf_eq_flatMap (branches : List Schema) :
    partsOf branches = branches.flatMap parts := by
  induction branches with
  | nil => rw [partsOf, List.flatMap_nil]
  | cons branch rest ih => rw [partsOf, List.flatMap_cons, ih]

mutual

theorem allOf_of_mem_parts {part : Schema} : ∀ {schema : Schema}, part ∈ schema.parts →
    part.allOf = []
  | ⟨keywords, properties, items, allOf⟩, h => by
    rw [parts, List.mem_append, List.mem_singleton] at h
    rcases h with h | rfl
    · exact allOf_of_mem_partsOf h
    · rfl

theorem allOf_of_mem_partsOf {part : Schema} : ∀ {branches : List Schema},
    part ∈ partsOf branches → part.allOf = []
  | [], h => by
    rw [partsOf] at h
    cases h
  | branch :: rest, h => by
    rw [partsOf, List.mem_append] at h
    rcases h with h | h
    · exact allOf_of_mem_parts h
    · exact allOf_of_mem_partsOf h

end

mutual

/-- Regrouping, carried on, takes a branch to its parts, whatever stands around it. -/
theorem regroups_parts (schema : Schema) : ∀ (branch : Schema) (before after : List Schema),
    ReflTransGen Regroups { schema with allOf := before ++ branch :: after }
      { schema with allOf := before ++ (branch.parts ++ after) }
  | ⟨keywords, properties, items, allOf⟩, before, after => by
    -- The branch gives way, and then its own branches do, in the place where it was.
    have hfirst := Regroups.here schema before ⟨keywords, properties, items, allOf⟩ after
    have hrest := regroups_partsOf schema allOf before
      (⟨keywords, properties, items, []⟩ :: after)
    rw [apart, List.append_assoc, List.singleton_append] at hfirst
    rw [parts, List.append_assoc, List.singleton_append]
    exact .head hfirst hrest

theorem regroups_partsOf (schema : Schema) : ∀ (branches before after : List Schema),
    ReflTransGen Regroups { schema with allOf := before ++ (branches ++ after) }
      { schema with allOf := before ++ (partsOf branches ++ after) }
  | [], before, after => by
    rw [partsOf]
  | branch :: rest, before, after => by
    have hfirst := regroups_parts schema branch before (rest ++ after)
    have hrest := regroups_partsOf schema rest (before ++ branch.parts) after
    rw [List.append_assoc, List.append_assoc] at hrest
    rw [partsOf, List.append_assoc]
    exact hfirst.trans hrest

end

/-! ## What rules see -/

/-- The definitions require the same names, and their properties say the same about their
own values. -/
structure Alike (owner other : Schema) : Prop where
  required : other.required = owner.required
  keywords : ∀ name,
    (other.property? name).map toKeywords = (owner.property? name).map toKeywords

/-- What the schema says about its own value, apart from the names that it requires. -/
def valueKeywords (schema : Schema) : Keywords :=
  { schema.toKeywords with required := [] }

/-- What is looked up in a property is the same where properties say the same about it. -/
theorem bind_property?_congr {α β : Type} {owner other : Schema} {name : String}
    {say : Schema → β} (h : (other.property? name).map say = (owner.property? name).map say)
    {look : Schema → Option α}
    (hlook : ∀ property found : Schema, say found = say property → look found = look property) :
    (other.property? name).bind look = (owner.property? name).bind look := by
  cases howner : owner.property? name with
  | none =>
    rw [howner, Option.map_none, Option.map_eq_none_iff] at h
    rw [h]
  | some property =>
    rw [howner, Option.map_some, Option.map_eq_some_iff] at h
    obtain ⟨found, hother, hsame⟩ := h
    rw [hother, Option.bind_some, Option.bind_some, hlook property found hsame]

/-- A property with the same keywords may take the place of another. -/
theorem map_get?_replace (before after : List (String × Schema)) (name : String)
    {property other : Schema} (h : other.toKeywords = property.toKeywords) (key : String) :
    (Keyed.get? (before ++ (name, other) :: after) key).map toKeywords =
      (Keyed.get? (before ++ (name, property) :: after) key).map toKeywords := by
  unfold Keyed.get?
  rw [List.lookup_append, List.lookup_append, List.lookup_cons, List.lookup_cons]
  cases List.lookup key before with
  | some found => rfl
  | none =>
    split
    · rw [Option.none_or, Option.none_or, Option.map_some, Option.map_some, h]
    · rfl

end Schema

/-- The rules cannot tell definitions apart that are alike. -/
def Registry.Shallow (rules : Registry) : Prop :=
  ∀ {owner other : Schema}, owner.Alike other → ∀ name,
    rules.validators name other = rules.validators name owner

/-- **The standard rules ask a definition two things about a field**: whether it requires the
field, and what the property of that name says about its own value. -/
theorem validators_standard_congr {owner other : Schema} {name : String}
    (hrequired : other.isRequired name = owner.isRequired name)
    (hproperty : (other.property? name).map Schema.valueKeywords =
      (owner.property? name).map Schema.valueKeywords) :
    Registry.standard.validators name other = Registry.standard.validators name owner := by
  refine List.filterMap_congr fun rule hrule => ?_
  simp only [Registry.standard, Rule.standard, List.mem_cons, List.not_mem_nil, or_false] at hrule
  rcases hrule with rfl | rfl | rfl | rfl | rfl | rfl | rfl | rfl | rfl
  · simp only [Rule.required, hrequired]
  -- All others read one keyword of the property, some after a look at its type.
  all_goals
    refine Schema.bind_property?_congr hproperty fun property found hsame => ?_
    simp only [Schema.valueKeywords, Keywords.mk.injEq] at hsame
    have harray : found.isArray = property.isArray := by
      rw [Schema.isArray, Schema.isArray, hsame.1]
    simp only [hsame, harray]

theorem shallow_standard : Registry.standard.Shallow := by
  intro owner other halike name
  refine validators_standard_congr ?_ ?_
  · rw [Schema.isRequired, Schema.isRequired, halike.required]
  · have hkeywords := congrArg (Option.map fun keywords : Keywords =>
      { keywords with required := [] }) (halike.keywords name)
    rw [Option.map_map, Option.map_map] at hkeywords
    exact hkeywords

namespace Schema

variable {rules : Registry}

/-! ## The walker, one list at a time -/

/-- A property or the items of an array, as the walker takes them up. -/
def entry (rules : Registry) (owner : Schema) (name : String) (property : Schema) :
    Logged Field :=
  if property.isObject then do
    let children ← fields rules name property
    return .group name children
  else
    valueField rules owner name property

theorem fields_eq (name : String) (schema : Schema) :
    schema.fields rules name = (do
      let inherited ← branchFields rules name schema.allOf
      let own ← propertyFields rules schema schema.properties
      Logged.tell (schema.dangling.map (.danglingRequired name))
      return inherited ++ own) := by
  obtain ⟨keywords, properties, items, allOf⟩ := schema
  rw [fields]

theorem propertyFields_cons (owner : Schema) (name : String) (property : Schema)
    (rest : List (String × Schema)) :
    propertyFields rules owner ((name, property) :: rest) = (do
      let first ← entry rules owner name property
      let others ← propertyFields rules owner rest
      return first :: others) := by
  rw [propertyFields, entry]
  split
  · refine Logged.ext rfl ?_
    simp only [Logged.events_bind, Logged.value_bind, Logged.events_pure, Logged.value_pure,
      List.nil_append, List.append_nil]
  · rfl

/-- A definition made for one property has it. -/
theorem property?_wrapping (key : String) (property : Schema) :
    (wrapping key property).property? key = some property := by
  simp [property?, wrapping, Keyed.get?]

theorem templateField_entry (name : String) (item : Schema) :
    templateField rules name (some item) = entry rules (.wrapping name item) name item := by
  rw [templateField]
  rfl

theorem branchFields_append (name : String) (as bs : List Schema) :
    branchFields rules name (as ++ bs) = (do
      let first ← branchFields rules name as
      let others ← branchFields rules name bs
      return first ++ others) := by
  induction as with
  | nil =>
    rw [branchFields, List.nil_append]
    refine Logged.ext rfl ?_
    simp only [Logged.events_bind, Logged.events_pure, List.nil_append, List.append_nil]
  | cons branch rest ih =>
    rw [List.cons_append, branchFields, branchFields, ih]
    refine Logged.ext ?_ ?_
    · simp only [Logged.value_bind, Logged.value_pure, List.append_assoc]
    · simp only [Logged.events_bind, Logged.events_pure, List.append_nil, List.append_assoc,
        Logged.value_bind]

/-- A field that is no group is compiled from the keywords and the items of its schema. -/
theorem valueField_of_items {schema other : Schema}
    (hkeywords : other.toKeywords = schema.toKeywords)
    (hitems : ∀ name, templateField rules name other.items = templateField rules name schema.items)
    (owner : Schema) (name : String) :
    valueField rules owner name other = valueField rules owner name schema := by
  obtain ⟨keywords, properties, items, allOf⟩ := schema
  obtain ⟨keywords', properties', items', allOf'⟩ := other
  obtain rfl : keywords' = keywords := hkeywords
  rw [valueField, valueField, hitems name]
  rfl

/-- Properties are compiled the same in definitions that are alike. -/
theorem valueField_alike (hrules : rules.Shallow) {owner other : Schema} (h : owner.Alike other)
    (name : String) (property : Schema) :
    valueField rules other name property = valueField rules owner name property := by
  obtain ⟨keywords, properties, items, allOf⟩ := property
  rw [valueField, valueField, hrules h name]

theorem propertyFields_alike (hrules : rules.Shallow) {owner other : Schema}
    (h : owner.Alike other) (properties : List (String × Schema)) :
    propertyFields rules other properties = propertyFields rules owner properties := by
  induction properties with
  | nil => rw [propertyFields, propertyFields]
  | cons property rest ih =>
    obtain ⟨name, schema⟩ := property
    rw [propertyFields_cons, propertyFields_cons, ih, entry, entry, valueField_alike hrules h]

/-! ## Schemas that stand for one another -/

/-- The schemas compile to the same in every place: as a definition or a branch, and as an
entry of any definition. -/
structure Interchangeable (rules : Registry) (schema other : Schema) : Prop where
  keywords : other.toKeywords = schema.toKeywords
  isObject : other.isObject = schema.isObject
  fields : ∀ name, other.fields rules name = schema.fields rules name
  value : ∀ owner name,
    valueField rules owner name other = valueField rules owner name schema

namespace Interchangeable

variable {schema other : Schema}

theorem refl (schema : Schema) : Interchangeable rules schema schema where
  keywords := rfl
  isObject := rfl
  fields _ := rfl
  value _ _ := rfl

theorem trans {last : Schema} (h : Interchangeable rules schema other)
    (hlast : Interchangeable rules other last) : Interchangeable rules schema last where
  keywords := hlast.keywords.trans h.keywords
  isObject := hlast.isObject.trans h.isObject
  fields name := (hlast.fields name).trans (h.fields name)
  value owner name := (hlast.value owner name).trans (h.value owner name)

theorem entry (h : Interchangeable rules schema other) (owner : Schema) (name : String) :
    Schema.entry rules owner name other = Schema.entry rules owner name schema := by
  rw [Schema.entry, Schema.entry, h.isObject, h.fields, h.value]

theorem propertyFields (h : Interchangeable rules schema other) (owner : Schema)
    (before : List (String × Schema)) (name : String) (after : List (String × Schema)) :
    Schema.propertyFields rules owner (before ++ (name, other) :: after) =
      Schema.propertyFields rules owner (before ++ (name, schema) :: after) := by
  induction before with
  | nil =>
    rw [List.nil_append, List.nil_append, propertyFields_cons, propertyFields_cons,
      h.entry owner name]
  | cons first rest ih =>
    obtain ⟨key, property⟩ := first
    rw [List.cons_append, List.cons_append, propertyFields_cons, propertyFields_cons, ih]

/-- Lists of branches that compile to the same, with at least one branch each. -/
theorem allOf (hrules : rules.Shallow) (schema : Schema) {branches others : List Schema}
    (hbranches : branches ≠ []) (hothers : others ≠ [])
    (hfields : ∀ name, branchFields rules name others = branchFields rules name branches) :
    Interchangeable rules { schema with allOf := branches } { schema with allOf := others } where
  keywords := rfl
  isObject := by
    simp only [Schema.isObject, List.isEmpty_eq_false_iff.2 hbranches,
      List.isEmpty_eq_false_iff.2 hothers]
  fields name := by
    have halike : Alike { schema with allOf := branches } { schema with allOf := others } :=
      ⟨rfl, fun _ => rfl⟩
    rw [fields_eq, fields_eq, hfields name, propertyFields_alike hrules halike]
    rfl
  value := valueField_of_items rfl fun _ => rfl

/-- A branch that stands for another may take its place. -/
theorem branch (hrules : rules.Shallow) (schema : Schema) (before after : List Schema)
    {branch other : Schema} (h : Interchangeable rules branch other) :
    Interchangeable rules { schema with allOf := before ++ branch :: after }
      { schema with allOf := before ++ other :: after } := by
  refine allOf hrules schema (List.append_ne_nil_of_right_ne_nil before (List.cons_ne_nil _ _))
    (List.append_ne_nil_of_right_ne_nil before (List.cons_ne_nil _ _)) ?_
  intro name
  rw [branchFields_append, branchFields_append, branchFields, branchFields, h.fields name]

/-- A branch may give way to its parts. -/
theorem here (hrules : rules.Shallow) (schema : Schema) (before : List Schema)
    (branch : Schema) (after : List Schema) :
    Interchangeable rules { schema with allOf := before ++ branch :: after }
      { schema with allOf := before ++ (branch.apart ++ after) } := by
  have hparts : branch.apart ≠ [] :=
    List.append_ne_nil_of_right_ne_nil _ (List.cons_ne_nil _ _)
  refine allOf hrules schema (List.append_ne_nil_of_right_ne_nil before (List.cons_ne_nil _ _))
    (List.append_ne_nil_of_right_ne_nil before (List.append_ne_nil_of_left_ne_nil hparts after)) ?_
  intro name
  have halike : branch.Alike { branch with allOf := [] } := ⟨rfl, fun _ => rfl⟩
  -- What is left of the branch compiles its own properties, and then tells what dangles.
  have hfields : branchFields rules name branch.apart = branch.fields rules name := by
    rw [apart, branchFields_append, branchFields, branchFields, fields_eq name branch, fields_eq,
      branchFields, propertyFields_alike hrules halike]
    refine Logged.ext ?_ ?_
    · simp only [Logged.value_bind, Logged.value_pure, List.nil_append, List.append_nil]
    · simp only [Logged.events_bind, Logged.events_pure, Logged.events_tell, List.nil_append,
        List.append_nil]
      rfl
  rw [branchFields_append, branchFields_append, branchFields_append, branchFields, hfields]

/-- A property that stands for another may take its place. -/
theorem property (hrules : rules.Shallow) (schema : Schema)
    (before : List (String × Schema)) (name : String) (after : List (String × Schema))
    {property other : Schema} (h : Interchangeable rules property other) :
    Interchangeable rules { schema with properties := before ++ (name, property) :: after }
      { schema with properties := before ++ (name, other) :: after } where
  keywords := rfl
  isObject := by
    -- There is a property either way, so what counts as an object is the same.
    have hempty : ∀ property, (before ++ (name, property) :: after).isEmpty = false := by
      intro property
      exact List.isEmpty_eq_false_iff.2
        (List.append_ne_nil_of_right_ne_nil before (List.cons_ne_nil _ _))
    simp only [Schema.isObject, hempty]
  fields form := by
    -- Rules look properties up by name, and the two say the same under every name.
    have halike : Alike { schema with properties := before ++ (name, property) :: after }
        { schema with properties := before ++ (name, other) :: after } :=
      ⟨rfl, map_get?_replace before after name h.keywords⟩
    have hdangling : dangling { schema with properties := before ++ (name, other) :: after } =
        dangling { schema with properties := before ++ (name, property) :: after } := by
      unfold dangling Keyed.has
      simp only [List.any_append, List.any_cons]
    rw [fields_eq, fields_eq, propertyFields_alike hrules halike, h.propertyFields, hdangling]
  value := valueField_of_items rfl fun _ => rfl

/-- Items that stand for others may take their place. -/
theorem items (hrules : rules.Shallow) (schema : Schema) {item other : Schema}
    (h : Interchangeable rules item other) :
    Interchangeable rules { schema with items := some item }
      { schema with items := some other } where
  keywords := rfl
  isObject := rfl
  fields name := by
    have halike : Alike { schema with items := some item } { schema with items := some other } :=
      ⟨rfl, fun _ => rfl⟩
    rw [fields_eq, fields_eq, propertyFields_alike hrules halike]
    rfl
  value := by
    refine valueField_of_items rfl fun name => ?_
    -- The definition that the rules see around the items is made from the items.
    have halike : Alike (wrapping name item) (wrapping name other) :=
      ⟨rfl, map_get?_replace [] [] name h.keywords⟩
    rw [templateField_entry, templateField_entry, h.entry, Schema.entry, Schema.entry,
      valueField_alike hrules halike]

end Interchangeable

/-- **One regrouping, in any place, leaves a schema that stands for the first.** -/
theorem Regroups.interchangeable (hrules : rules.Shallow) {schema other : Schema}
    (h : Regroups schema other) : Interchangeable rules schema other := by
  induction h with
  | here schema before branch after => exact .here hrules schema before branch after
  | branch schema before after _ ih => exact ih.branch hrules schema before after
  | property schema before name after _ ih => exact ih.property hrules schema before name after
  | items schema _ ih => exact ih.items hrules schema

/-- Any number of regroupings. -/
theorem interchangeable_of_regroups (hrules : rules.Shallow) {schema other : Schema}
    (h : ReflTransGen Regroups schema other) : Interchangeable rules schema other := by
  induction h with
  | refl => exact .refl schema
  | tail _ hlast ih => exact ih.trans (hlast.interchangeable hrules)

/-! ## Parts -/

theorem branchFields_singleton (name : String) (branch : Schema) :
    (branchFields rules name [branch]).value = (branch.fields rules name).value := by
  simp only [branchFields, Logged.value_bind, Logged.value_pure, List.append_nil]

theorem branchFields_value_flatMap (name : String) (branches : List Schema) :
    (branchFields rules name branches).value =
      branches.flatMap fun branch => (branch.fields rules name).value := by
  induction branches with
  | nil => rw [branchFields, List.flatMap_nil]; rfl
  | cons branch rest ih =>
    rw [List.flatMap_cons, ← ih]
    simp only [branchFields, Logged.value_bind, Logged.value_pure]

/-- A schema as the only branch of a definition, and that definition regrouped until there
is nothing left to regroup. -/
theorem fields_value_parts (hrules : rules.Shallow) (name : String) (schema : Schema) :
    (schema.fields rules name).value =
      schema.parts.flatMap fun part => (part.fields rules name).value := by
  -- A schema with no properties of its own compiles to the fields of its branches.
  have hrun := regroups_parts {} schema [] []
  have hsame := (interchangeable_of_regroups hrules hrun).fields name
  have hvalue := congrArg Logged.value hsame
  simp only [List.nil_append, List.append_nil, fields_value, List.map_nil] at hvalue
  rw [branchFields_singleton, branchFields_value_flatMap] at hvalue
  exact hvalue.symm

end Schema

/-! ## The statement -/

/-- **Grouping branches makes no difference, at any depth.** Any branch, in the list of
branches of any schema at any position, can give way to its parts. Under the standard rules,
a schema in which branches have given way, one or many and wherever they stand, compiles to
the same fields and tells the same on the way. The fields of a schema are those of its parts,
which have no branches: first the parts of its branches, in order, and then what is its own. -/
theorem fields_of_composition (schema : Schema) (name : String) :
    (∀ position owner before branch after, Schema.at? position schema = some owner →
      owner.allOf = before ++ branch :: after →
        ∃ other, Schema.Regroups schema other ∧ Schema.at? position other =
          some { owner with allOf := before ++ (branch.apart ++ after) }) ∧
    (∀ other, ReflTransGen Schema.Regroups schema other →
      other.fields .standard name = schema.fields .standard name) ∧
    (schema.fields .standard name).value =
      schema.parts.flatMap (fun part => (part.fields .standard name).value) ∧
    schema.parts = schema.allOf.flatMap Schema.parts ++ [{ schema with allOf := [] }] ∧
    ∀ part ∈ schema.parts, part.allOf = [] := by
  refine ⟨?_, ?_, ?_, ?_, ?_⟩
  · intro position owner before branch after howner hbranch
    exact Schema.exists_regroups howner hbranch
  · intro other hregroups
    exact (Schema.interchangeable_of_regroups shallow_standard hregroups).fields name
  · exact Schema.fields_value_parts shallow_standard name schema
  · rw [← Schema.partsOf_eq_flatMap, Schema.parts_eq]
  · intro part hpart
    exact Schema.allOf_of_mem_parts hpart

/-- An address that takes its street over from another schema. -/
def address : Schema where
  required := ["zip"]
  properties := [("zip", { pattern := some "^[0-9]+$" })]
  allOf := [.wrapping "street" { maxLength := some 100 }]

/-- A list of places, each of which is made from the given schemas. -/
def placesOf (branches : List Schema) : Schema :=
  .wrapping "places" { type := some (.single "array"), items := some { allOf := branches } }

theorem fields_of_composition_places :
    ReflTransGen Schema.Regroups (placesOf [address]) (placesOf address.apart) ∧
    (placesOf address.apart).fields .standard "places" =
      (placesOf [address]).fields .standard "places" := by
  have hitems : Schema.Regroups { allOf := [address] } { allOf := address.apart } :=
    .here {} [] address []
  have hregroups : ReflTransGen Schema.Regroups (placesOf [address]) (placesOf address.apart) :=
    .single (.property {} [] "places" [] (.items { type := some (.single "array") } hitems))
  obtain ⟨-, hsame, -⟩ := fields_of_composition (placesOf [address]) "places"
  exact ⟨hregroups, hsame _ hregroups⟩

end SchemaForms
