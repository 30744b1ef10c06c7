/-
Where schemas stand inside a schema: in the branches of `allOf`, under the names of
properties, and as the items of an array. A position is a list of such steps, and it can
be followed in three places: in a decoded schema (`Schema.at?`), in the value that a
schema is decoded from (`Json.schemaAt?`), and in the raw value before references are
replaced (`Json.openAt?`), where no step goes into a reference.

Replacing references turns the third into the second, and decoding turns the second into
the first: `Expands.openAt?` and `schema_at`. So what a reference in some position
stands for is, after both, the schema in that position.
-/
import SchemaForms.Proofs.Reference.Substitution
import SchemaForms.Proofs.Schema.Field

set_option autoImplicit false

namespace SchemaForms

open Decode

/-! ## Positions -/

/-- One step from a schema to a schema inside it. -/
inductive SchemaStep where
  | branch (index : Nat)
  | property (name : String)
  | items
deriving DecidableEq

namespace SchemaStep

/-- The field of the schema that the step goes through. -/
def field : SchemaStep → SchemaField
  | branch _ => .allOf
  | property _ => .properties
  | items => .items

/-- From the value of that field to the value of the schema inside. -/
def inside? : SchemaStep → Json → Option Json
  | branch index, .array values => values[index]?
  | property name, .object members => Keyed.get? members name
  | items, value => some value
  | _, _ => none

end SchemaStep

/-- The schema one step further in. -/
def Schema.step? (schema : Schema) : SchemaStep → Option Schema
  | .branch index => schema.allOf[index]?
  | .property name => schema.property? name
  | .items => schema.items

/-- The schema at a position. -/
def Schema.at? : List SchemaStep → Schema → Option Schema
  | [], schema => some schema
  | step :: rest, schema => (schema.step? step).bind (Schema.at? rest)

namespace Json

/-- The value one step further in. -/
def schemaStep? (value : Json) (step : SchemaStep) : Option Json :=
  (value.field? schemaRecord.keys step.field.key).bind step.inside?

/-- The value at a position. -/
def schemaAt? : List SchemaStep → Json → Option Json
  | [], value => some value
  | step :: rest, value => (value.schemaStep? step).bind (schemaAt? rest)

/-- The value itself, if it can be gone into. -/
def enter? (value : Json) : Option Json :=
  if value.isReference then none else some value

/-- The value of a field of a record that is no reference. -/
def openField? (value : Json) (keys : List String) (key : String) : Option Json :=
  value.enter?.bind (·.field? keys key)

/-- The value one step further in, no reference being gone into on the way. -/
def openStep? (value : Json) (step : SchemaStep) : Option Json :=
  match step, value.openField? schemaRecord.keys step.field.key with
  | .items, slot => slot
  | step, some slot => slot.enter?.bind step.inside?
  | _, none => none

/-- The value at a position, no reference being gone into on the way; one may stand at
the end. -/
def openAt? : List SchemaStep → Json → Option Json
  | [], value => some value
  | step :: rest, value => (value.openStep? step).bind (openAt? rest)

end Json

/-! ## From the raw value to the value with references replaced -/

namespace Json

variable {root value result below : Json}

theorem enter?_eq_some {entered : Json} (h : value.enter? = some entered) :
    value.isReference = false ∧ entered = value := by
  unfold enter? at h
  split at h
  · cases h
  · rename_i hplain
    exact ⟨Bool.eq_false_iff.2 hplain, (Option.some.inj h).symm⟩

theorem Expands.field? (h : Expands root value result) {keys : List String} {key : String}
    (hbelow : value.openField? keys key = some below) :
    ∃ result', result.field? keys key = some result' ∧ Expands root below result' := by
  obtain ⟨entered, hentered, hfield⟩ := Option.bind_eq_some_iff.1 hbelow
  obtain ⟨hplain, rfl⟩ := enter?_eq_some hentered
  cases entered with
  | array items =>
    obtain ⟨results, rfl, hitems⟩ := h.of_array
    exact hitems.getElem? hfield
  | object members =>
    obtain ⟨results, rfl, hmembers⟩ := h.of_object (referenceOf?_of_not_isReference hplain)
    exact hmembers.get? hfield
  | null => cases hfield
  | bool => cases hfield
  | number => cases hfield
  | string => cases hfield

theorem Expands.inside? {step : SchemaStep} (hstep : step ≠ .items)
    (h : Expands root value result) (hplain : value.isReference = false)
    (hbelow : step.inside? value = some below) :
    ∃ result', step.inside? result = some result' ∧ Expands root below result' := by
  cases step with
  | branch index =>
    cases value with
    | array items =>
      obtain ⟨results, rfl, hitems⟩ := h.of_array
      exact hitems.getElem? hbelow
    | _ => cases hbelow
  | property name =>
    cases value with
    | object members =>
      obtain ⟨results, rfl, hmembers⟩ := h.of_object (referenceOf?_of_not_isReference hplain)
      exact hmembers.get? hbelow
    | _ => cases hbelow
  | items => exact (hstep rfl).elim

theorem Expands.openStep? {step : SchemaStep} (h : Expands root value result)
    (hbelow : value.openStep? step = some below) :
    ∃ result', result.schemaStep? step = some result' ∧ Expands root below result' := by
  unfold Json.openStep? at hbelow
  split at hbelow
  · obtain ⟨result', hresult', hexpands⟩ := h.field? hbelow
    exact ⟨result', by rw [schemaStep?, hresult']; rfl, hexpands⟩
  · rename_i slot hitems hslot
    obtain ⟨entered, hentered, hinside⟩ := Option.bind_eq_some_iff.1 hbelow
    obtain ⟨hplain, rfl⟩ := enter?_eq_some hentered
    obtain ⟨slot', hslot', hexpands⟩ := h.field? hslot
    obtain ⟨result', hresult', hexpands⟩ := hexpands.inside? hitems hplain hinside
    exact ⟨result', by rw [schemaStep?, hslot']; exact hresult', hexpands⟩
  · cases hbelow

/-- What stands at an open position has its expansion at the same position. -/
theorem Expands.openAt? {position : List SchemaStep} (h : Expands root value result)
    (hbelow : Json.openAt? position value = some below) :
    ∃ result', schemaAt? position result = some result' ∧ Expands root below result' := by
  induction position generalizing value result with
  | nil =>
    obtain rfl := Option.some.inj hbelow
    exact ⟨result, rfl, h⟩
  | cons step rest ih =>
    obtain ⟨next, hnext, hrest⟩ := Option.bind_eq_some_iff.1 hbelow
    obtain ⟨next', hnext', hexpands⟩ := h.openStep? hnext
    obtain ⟨result', hresult', hexpands⟩ := ih hexpands hrest
    exact ⟨result', by rw [schemaAt?, hnext']; exact hresult', hexpands⟩

end Json

/-! ## From the value to the decoded schema -/

theorem Json.WellKeyed.field? {value below : Json} (h : value.WellKeyed) {keys : List String}
    {key : String} (hbelow : value.field? keys key = some below) : below.WellKeyed := by
  cases value with
  | array items =>
    rw [WellKeyed] at h
    exact wellKeyedItems_iff.1 h _ (List.mem_of_getElem? hbelow)
  | object members =>
    rw [WellKeyed] at h
    exact h.2.get? hbelow
  | null => cases hbelow
  | bool => cases hbelow
  | number => cases hbelow
  | string => cases hbelow

theorem Json.WellKeyed.schemaStep? {value below : Json} (h : value.WellKeyed)
    {step : SchemaStep} (hbelow : value.schemaStep? step = some below) : below.WellKeyed := by
  obtain ⟨slot, hslot, hinside⟩ := Option.bind_eq_some_iff.1 hbelow
  have hkeyed : slot.WellKeyed := h.field? hslot
  cases step with
  | branch index =>
    cases slot with
    | array items =>
      rw [WellKeyed] at hkeyed
      exact wellKeyedItems_iff.1 hkeyed _ (List.mem_of_getElem? hinside)
    | _ => cases hinside
  | property name =>
    cases slot with
    | object members =>
      rw [WellKeyed] at hkeyed
      exact hkeyed.2.get? hinside
    | _ => cases hinside
  | items =>
    obtain rfl := Option.some.inj hinside
    exact hkeyed

namespace Json

theorem WellKeyed.schemaAt? {position : List SchemaStep} {value below : Json}
    (h : value.WellKeyed) (hbelow : Json.schemaAt? position value = some below) :
    below.WellKeyed := by
  induction position generalizing value with
  | nil =>
    obtain rfl := Option.some.inj hbelow
    exact h
  | cons step rest ih =>
    obtain ⟨next, hnext, hrest⟩ := Option.bind_eq_some_iff.1 hbelow
    exact ih (h.schemaStep? hnext) hrest

theorem schemaAt?_append {position : List SchemaStep} {step : SchemaStep} {value below : Json}
    (h : schemaAt? (position ++ [step]) value = some below) :
    ∃ above, schemaAt? position value = some above ∧ above.schemaStep? step = some below := by
  induction position generalizing value with
  | nil =>
    obtain ⟨found, hfound, hbelow⟩ := Option.bind_eq_some_iff.1 h
    obtain rfl := Option.some.inj hbelow
    exact ⟨value, rfl, hfound⟩
  | cons first rest ih =>
    obtain ⟨next, hnext, hrest⟩ := Option.bind_eq_some_iff.1 h
    obtain ⟨above, habove, hstep⟩ := ih hrest
    exact ⟨above, by rw [schemaAt?, hnext]; exact habove, hstep⟩

end Json

namespace Decode

theorem namedSchemas_get? {members : List (String × Json)} {schemas : List (String × Schema)}
    (h : namedSchemas members = .ok schemas) {name : String} {value : Json}
    (hvalue : Keyed.get? members name = some value) :
    ∃ inner, Keyed.get? schemas name = some inner ∧ schema value = .ok inner := by
  have hmembers := forall₂_of_namedSchemas h
  rcases Keyed.get?_of_forall₂ (fun value inner => schema value = .ok inner) hmembers name with
    ⟨hnone, -⟩ | ⟨found, inner, hfound, hinner, hdecoded⟩
  · rw [hnone] at hvalue
    cases hvalue
  · obtain rfl := Option.some.inj (hfound.symm.trans hvalue)
    exact ⟨inner, hinner, hdecoded⟩

theorem schemaList_getElem? {values : List Json} {schemas : List Schema} {index : Nat}
    (h : schemaList index values = .ok schemas) {i : Nat} {value : Json}
    (hvalue : values[i]? = some value) :
    ∃ inner, schemas[i]? = some inner ∧ schema value = .ok inner := by
  rcases getElem?_of_forall₂ (forall₂_of_schemaList h) i with
    ⟨hnone, -⟩ | ⟨found, inner, hfound, hinner, hdecoded⟩
  · rw [hnone] at hvalue
    cases hvalue
  · obtain rfl := Option.some.inj (hfound.symm.trans hvalue)
    exact ⟨inner, hinner, hdecoded⟩

/-- What a schema holds one step further in, given what the value holds there. Null is
the one value that may stand for a missing schema. -/
def Inner (step : SchemaStep) (value : Json) (inner : Option Schema) : Prop :=
  ∀ below, step.inside? value = some below → below ≠ .null →
    ∃ found, inner = some found ∧ schema below = .ok found

/-- What the field of a step is decoded to holds the schema that the step leads to. -/
theorem inner_of_decode {decoded : Schema} {step : SchemaStep} {value : Json}
    (h : step.field.decode value = .ok (step.field.get decoded)) :
    Inner step value (decoded.step? step) := by
  intro below hbelow hnull
  cases step with
  | branch index =>
    have hdecoded : schemaSequence value = .ok decoded.allOf := h
    cases value with
    | array values => exact schemaList_getElem? hdecoded hbelow
    | _ => cases hbelow
  | property name =>
    have hdecoded : schemaMap value = .ok decoded.properties := h
    cases value with
    | object members => exact namedSchemas_get? hdecoded hbelow
    | _ => cases hbelow
  | items =>
    have hdecoded : optional schema value = .ok decoded.items := h
    obtain rfl := Option.some.inj hbelow
    exact optional_ok hdecoded hnull

theorem schema_step {source below : Json} {decoded : Schema} {step : SchemaStep}
    (hkeyed : source.WellKeyed) (h : schema source = .ok decoded)
    (hbelow : source.schemaStep? step = some below) (hnull : below ≠ .null) :
    ∃ found, decoded.step? step = some found ∧ schema below = .ok found := by
  obtain ⟨slot, hslot, hinside⟩ := Option.bind_eq_some_iff.1 hbelow
  exact inner_of_decode (schema_field hkeyed h step.field hslot) below hinside hnull

/-- **Decoding commutes with positions.** A value at a position of what a schema was
decoded from decodes to the schema at that position. -/
theorem schema_at {source below : Json} {decoded : Schema} {position : List SchemaStep}
    (hkeyed : source.WellKeyed) (h : schema source = .ok decoded)
    (hbelow : Json.schemaAt? position source = some below) (hnull : below ≠ .null) :
    ∃ found, Schema.at? position decoded = some found ∧ schema below = .ok found := by
  induction position generalizing source decoded with
  | nil =>
    obtain rfl := Option.some.inj hbelow
    exact ⟨decoded, rfl, h⟩
  | cons step rest ih =>
    obtain ⟨next, hnext, hrest⟩ := Option.bind_eq_some_iff.1 hbelow
    -- Null has nothing inside, so it can only stand at the end.
    have hnextNull : next ≠ .null := by
      rintro rfl
      cases rest with
      | nil => exact hnull (Option.some.inj hrest).symm
      | cons _ _ => cases hrest
    obtain ⟨inner, hinner, hdecoded⟩ := schema_step hkeyed h hnext hnextNull
    obtain ⟨found, hfound, hbelow⟩ := ih (hkeyed.schemaStep? hnext) hdecoded hrest
    exact ⟨found, by rw [Schema.at?, hinner]; exact hfound, hbelow⟩

end Decode

end SchemaForms
