/-
Properties of one schema have different names. Nothing in the type of a schema says so, but
every schema that is decoded from a value with distinct keys has it at every depth
(`distinct_of_ofJson`), because a property is decoded for each member of an object and named
for its key.

Where names could repeat, going through the properties of a schema and looking a property up
by its name would be two things: the walker does the first, the rules do the second.
-/
import SchemaForms.Proofs.Schema.Position

set_option autoImplicit false

namespace SchemaForms

/-- Wherever a schema stands inside the schema, its properties have different names. -/
def Schema.Distinct (schema : Schema) : Prop :=
  ∀ position inner, Schema.at? position schema = some inner → Keyed.Distinct inner.properties

namespace Schema.Distinct

variable {schema : Schema}

theorem properties (h : schema.Distinct) : Keyed.Distinct schema.properties :=
  h [] schema rfl

/-- What stands one step further in has distinct names as well. -/
theorem step? (h : schema.Distinct) {step : SchemaStep} {inner : Schema}
    (hinner : schema.step? step = some inner) : inner.Distinct := by
  intro position found hfound
  refine h (step :: position) found ?_
  rw [Schema.at?, hinner]
  exact hfound

theorem branch (h : schema.Distinct) {branch : Schema} (hbranch : branch ∈ schema.allOf) :
    branch.Distinct := by
  obtain ⟨index, hindex⟩ := List.getElem?_of_mem hbranch
  have hstep : schema.step? (.branch index) = some branch := hindex
  exact h.step? hstep

/-- A property that the walker comes by is the one that the rules find under its name. -/
theorem property? (h : schema.Distinct) {name : String} {property : Schema}
    (hproperty : (name, property) ∈ schema.properties) :
    schema.property? name = some property :=
  h.properties.get?_of_mem hproperty

theorem property (h : schema.Distinct) {name : String} {property : Schema}
    (hproperty : (name, property) ∈ schema.properties) : property.Distinct := by
  have hstep : schema.step? (.property name) = some property := h.property? hproperty
  exact h.step? hstep

theorem items (h : schema.Distinct) {item : Schema} (hitem : schema.items = some item) :
    item.Distinct := by
  have hstep : schema.step? .items = some item := hitem
  exact h.step? hstep

/-- A schema has distinct names when its own properties have, and what stands in it does. -/
theorem intro (hproperties : Keyed.Distinct schema.properties)
    (hinside : ∀ step inner, schema.step? step = some inner → inner.Distinct) :
    schema.Distinct := by
  intro position inner hinner
  cases position with
  | nil =>
    obtain rfl := Option.some.inj hinner
    exact hproperties
  | cons step rest =>
    obtain ⟨next, hnext, hrest⟩ := Option.bind_eq_some_iff.1 hinner
    exact hinside step next hnext rest inner hrest

/-- It does when the properties, the items and the branches do. -/
theorem of_inside (hproperties : Keyed.Distinct schema.properties)
    (hinside : ∀ name property, (name, property) ∈ schema.properties → property.Distinct)
    (hitems : ∀ item, schema.items = some item → item.Distinct)
    (hbranches : ∀ branch ∈ schema.allOf, branch.Distinct) : schema.Distinct := by
  refine .intro hproperties ?_
  intro step inner hinner
  cases step with
  | branch index => exact hbranches inner (List.mem_of_getElem? hinner)
  | property name => exact hinside name inner (Keyed.mem_of_get? hinner)
  | items => exact hitems inner hinner

/-- A schema without properties and branches has distinct names when its items have. -/
theorem of_value (hproperties : schema.properties = []) (hbranches : schema.allOf = [])
    (hitems : ∀ item, schema.items = some item → item.Distinct) : schema.Distinct := by
  refine .of_inside (by rw [hproperties]; exact Keyed.distinct_nil) ?_ hitems ?_
  · intro name property hmem
    rw [hproperties] at hmem
    exact absurd hmem List.not_mem_nil
  · intro branch hmem
    rw [hbranches] at hmem
    exact absurd hmem List.not_mem_nil

theorem of_leaf (hproperties : schema.properties = []) (hbranches : schema.allOf = [])
    (hitems : schema.items = none) : schema.Distinct := by
  refine of_value hproperties hbranches fun item hitem => ?_
  rw [hitems] at hitem
  cases hitem

theorem of_items (hproperties : schema.properties = []) (hbranches : schema.allOf = [])
    {item : Schema} (hitems : schema.items = some item) (h : item.Distinct) :
    schema.Distinct := by
  refine of_value hproperties hbranches fun other hother => ?_
  obtain rfl := Option.some.inj (hitems.symm.trans hother)
  exact h

/-- The only property of a definition has no other beside it. -/
theorem wrapping (h : schema.Distinct) (name : String) :
    (Schema.wrapping name schema).Distinct := by
  refine .of_inside (List.pairwise_singleton _ name) ?_ ?_ ?_
  · intro other property hmem
    obtain ⟨-, rfl⟩ := Prod.mk.inj (List.mem_singleton.1 hmem)
    exact h
  · intro item hitem
    cases hitem
  · intro branch hbranch
    exact absurd hbranch List.not_mem_nil

end Schema.Distinct

/-! ## Decoded schemas -/

namespace Decode

variable {value : Json} {decoded inner : Schema}

/-- A schema inside a decoded one is decoded from a value inside its value. -/
theorem schema_of_step? (hkeyed : value.WellKeyed) (h : schema value = .ok decoded)
    {step : SchemaStep} (hinner : decoded.step? step = some inner) :
    ∃ below, below.WellKeyed ∧ schema below = .ok inner := by
  cases hslot : value.field? schemaRecord.keys step.field.key with
  | none =>
    -- A field that is missing leaves nothing to step to.
    have hempty := schema_field_missing h step.field hslot
    cases step with
    | branch index =>
      have hallOf : decoded.allOf = [] := hempty
      rw [Schema.step?, hallOf] at hinner
      cases hinner
    | property name =>
      have hproperties : decoded.properties = [] := hempty
      rw [Schema.step?, Schema.property?, hproperties] at hinner
      cases hinner
    | items =>
      have hitems : decoded.items = none := hempty
      rw [Schema.step?, hitems] at hinner
      cases hinner
  | some slot =>
    have hslotKeyed : slot.WellKeyed := hkeyed.field? hslot
    have hfield := schema_field hkeyed h step.field hslot
    cases step with
    | branch index =>
      have hdecoded : schemaSequence slot = .ok decoded.allOf := hfield
      cases slot with
      | array values =>
        rcases getElem?_of_forall₂ (forall₂_of_schemaList hdecoded) index with
          ⟨-, hnone⟩ | ⟨below, found, hbelow, hfound, hok⟩
        · rw [Schema.step?, hnone] at hinner
          cases hinner
        · obtain rfl := Option.some.inj (hfound.symm.trans hinner)
          rw [Json.WellKeyed, Json.wellKeyedItems_iff] at hslotKeyed
          exact ⟨below, hslotKeyed below (List.mem_of_getElem? hbelow), hok⟩
      | _ => cases hdecoded
    | property name =>
      have hdecoded : schemaMap slot = .ok decoded.properties := hfield
      cases slot with
      | object members =>
        rcases Keyed.get?_of_forall₂ (fun value inner => schema value = .ok inner)
            (forall₂_of_namedSchemas hdecoded) name with
          ⟨-, hnone⟩ | ⟨below, found, hbelow, hfound, hok⟩
        · rw [Schema.step?, Schema.property?, hnone] at hinner
          cases hinner
        · obtain rfl := Option.some.inj (hfound.symm.trans hinner)
          rw [Json.WellKeyed] at hslotKeyed
          exact ⟨below, hslotKeyed.2.get? hbelow, hok⟩
      | _ => cases hdecoded
    | items =>
      have hdecoded : optional schema slot = .ok decoded.items := hfield
      by_cases hnull : slot = .null
      · subst hnull
        have hitems : decoded.items = none := (Except.ok.inj hdecoded).symm
        rw [Schema.step?, hitems] at hinner
        cases hinner
      · obtain ⟨found, hfound, hok⟩ := optional_ok hdecoded hnull
        obtain rfl := Option.some.inj (hfound.symm.trans hinner)
        exact ⟨slot, hslotKeyed, hok⟩

/-- A schema at a position of a decoded one is decoded from a value as well. -/
theorem schema_of_at? {position : List SchemaStep} (hkeyed : value.WellKeyed)
    (h : schema value = .ok decoded) (hinner : Schema.at? position decoded = some inner) :
    ∃ below, below.WellKeyed ∧ schema below = .ok inner := by
  induction position generalizing value decoded with
  | nil =>
    obtain rfl := Option.some.inj hinner
    exact ⟨value, hkeyed, h⟩
  | cons step rest ih =>
    obtain ⟨next, hnext, hrest⟩ := Option.bind_eq_some_iff.1 hinner
    obtain ⟨below, hbelow, hdecoded⟩ := schema_of_step? hkeyed h hnext
    exact ih hbelow hdecoded hrest

/-- The properties of a decoded schema are named for the keys of an object. -/
theorem distinct_properties (hkeyed : value.WellKeyed) (h : schema value = .ok decoded) :
    Keyed.Distinct decoded.properties := by
  cases hslot : value.field? schemaRecord.keys "properties" with
  | none =>
    rw [show decoded.properties = [] from schema_field_missing h .properties hslot]
    exact Keyed.distinct_nil
  | some slot =>
    have hdecoded : schemaMap slot = .ok decoded.properties :=
      schema_field hkeyed h .properties hslot
    have hslotKeyed : slot.WellKeyed := hkeyed.field? hslot
    cases slot with
    | object members =>
      rw [Json.WellKeyed] at hslotKeyed
      rw [Keyed.Distinct, keys_namedSchemas hdecoded]
      exact hslotKeyed.1
    | _ => cases hdecoded

end Decode

/-- **A decoded schema has distinct names at every depth.** -/
theorem Schema.distinct_of_ofJson {value : Json} {schema : Schema} (hkeyed : value.WellKeyed)
    (h : Schema.ofJson value = .ok schema) : schema.Distinct := by
  intro position inner hinner
  obtain ⟨below, hbelow, hdecoded⟩ := Decode.schema_of_at? hkeyed h hinner
  exact Decode.distinct_properties hbelow hdecoded

end SchemaForms
