/-
The fields of a schema, one by one. What is written to a field of a schema depends on the
value of the field alone: it is decoded, whatever is known about the other fields, and the
result takes the place of what the field held (`schemaField_eq`). What was written can be
read back, and no other field sees it (`get_set_self`, `get_set_of_ne`).

So every field is a part of the record of schemas, and a schema that was decoded has in each
field what the value has there (`schema_field`).
-/
import SchemaForms.Proofs.Schema.Record

set_option autoImplicit false

namespace SchemaForms

namespace Decode

/-! ## Contents of fields -/

namespace SchemaField

/-- What a field holds. -/
def Content : SchemaField → Type
  | type => Option TypeKeyword
  | format => Option String
  | pattern => Option String
  | minLength => Option Nat
  | maxLength => Option Nat
  | minimum => Option Number
  | maximum => Option Number
  | minItems => Option Nat
  | maxItems => Option Nat
  | initial => Option Json
  | required => List String
  | properties => Keyed Schema
  | items => Option Schema
  | allOf => List Schema

/-- What the field of a schema holds. -/
def get : (field : SchemaField) → Schema → field.Content
  | type => (·.type)
  | format => (·.format)
  | pattern => (·.pattern)
  | minLength => (·.minLength)
  | maxLength => (·.maxLength)
  | minimum => (·.minimum)
  | maximum => (·.maximum)
  | minItems => (·.minItems)
  | maxItems => (·.maxItems)
  | initial => (·.initial)
  | required => (·.required)
  | properties => (·.properties)
  | items => (·.items)
  | allOf => (·.allOf)

/-- The schema with another content in the field. -/
def set : (field : SchemaField) → Schema → field.Content → Schema
  | type => fun schema content => { schema with type := content }
  | format => fun schema content => { schema with format := content }
  | pattern => fun schema content => { schema with pattern := content }
  | minLength => fun schema content => { schema with minLength := content }
  | maxLength => fun schema content => { schema with maxLength := content }
  | minimum => fun schema content => { schema with minimum := content }
  | maximum => fun schema content => { schema with maximum := content }
  | minItems => fun schema content => { schema with minItems := content }
  | maxItems => fun schema content => { schema with maxItems := content }
  | initial => fun schema content => { schema with initial := content }
  | required => fun schema content => { schema with required := content }
  | properties => fun schema content => { schema with properties := content }
  | items => fun schema content => { schema with items := content }
  | allOf => fun schema content => { schema with allOf := content }

/-- **What was written is read.** -/
theorem get_set_self (field : SchemaField) (schema : Schema) (content : field.Content) :
    field.get (field.set schema content) = content := by
  cases field <;> rfl

/-- **Another field does not see it.** -/
theorem get_set_of_ne {field other : SchemaField} (h : other ≠ field) (schema : Schema)
    (content : field.Content) : other.get (field.set schema content) = other.get schema := by
  cases field <;> cases other <;> first | rfl | exact (h rfl).elim

end SchemaField

/-! ## Decoding a field -/

/-- Schemas in an array, where one is wanted. -/
def schemaSequence : Json → Except DecodeError (List Schema)
  | .array values => schemaList 0 values
  | other => wrong other .sequence

/-- Decodes what a field holds. -/
def SchemaField.decode : (field : SchemaField) → Json → Except DecodeError field.Content
  | type => optional typeKeyword
  | format => optional text
  | pattern => optional text
  | minLength => optional count
  | maxLength => optional count
  | minimum => optional number
  | maximum => optional number
  | minItems => optional count
  | maxItems => optional count
  | initial => fun value => .ok (initialValue value)
  | required => fun value => .ok (requiredNames value)
  | properties => schemaMap
  | items => optional schema
  | allOf => schemaSequence

/-- The field of a value without schemas in it. -/
theorem schemaField_eq_plainField (sofar : Schema) {field : SchemaField} (value : Json)
    (hproperties : field ≠ .properties) (hitems : field ≠ .items) (hallOf : field ≠ .allOf) :
    schemaField sofar field value = plainField sofar field value := by
  cases value with
  | object members =>
    unfold schemaField
    split
    · exact (hproperties rfl).elim
    · exact (hitems rfl).elim
    · rfl
  | array values =>
    unfold schemaField
    split
    · exact (hitems rfl).elim
    · exact (hallOf rfl).elim
    · rfl
  | _ => rw [schemaField] <;> simp

/-- **A field is decoded by itself, and written.** -/
theorem schemaField_eq (sofar : Schema) (field : SchemaField) (value : Json) :
    schemaField sofar field value = do return field.set sofar (← field.decode value) := by
  cases field with
  | properties =>
    cases value with
    | object members =>
      simp only [schemaField, SchemaField.decode, schemaMap]
      cases namedSchemas members <;> rfl
    | array values => rw [schemaField] <;> first | rfl | simp
    | _ => rw [schemaField] <;> first | rfl | simp
  | items =>
    cases value with
    | object members =>
      simp only [schemaField, SchemaField.decode, optional, schema]
      cases schemaMembers {} members <;> rfl
    | array values =>
      simp only [schemaField, SchemaField.decode, optional, schema]
      cases schemaValues {} values.length 0 values <;> rfl
    | _ => rw [schemaField] <;> first | rfl | simp
  | allOf =>
    cases value with
    | array values =>
      simp only [schemaField, SchemaField.decode, schemaSequence]
      cases schemaList 0 values <;> rfl
    | object members => rw [schemaField] <;> first | rfl | simp
    | _ => rw [schemaField] <;> first | rfl | simp
  | _ =>
    refine (schemaField_eq_plainField sofar value ?_ ?_ ?_).trans rfl <;> simp

/-! ## The fields of a decoded schema -/

theorem SchemaField.mem_declared (field : SchemaField) : field ∈ declared := by
  cases field <;> decide

/-- Each field is a part of the record of schemas. -/
theorem schemaRecord_field (field : SchemaField) :
    schemaRecord.PartOf field.get field.key
      (fun sofar value => schemaField sofar field value)
      (fun value content => field.decode value = .ok content) where
  distinct := by decide
  declared := List.mem_map.2 ⟨field, field.mem_declared, rfl⟩
  written := by
    intro sofar value result h
    rw [schemaField_eq] at h
    exact Record.written_of_set field.set field.get_set_self h
  kept := by
    intro other write' hmem hother sofar value result h
    obtain ⟨written, -, heq⟩ := List.mem_map.1 hmem
    obtain ⟨rfl, rfl⟩ := Prod.mk.inj heq
    simp only [schemaField_eq] at h
    have hne : field ≠ written := fun hfield => hother (by rw [hfield])
    exact Record.kept_of_set written.set (SchemaField.get_set_of_ne hne) h

/-- **A decoded schema has in each field what the value has there.** -/
theorem schema_field {value slot : Json} {decoded : Schema} (hkeyed : value.WellKeyed)
    (h : schema value = .ok decoded) (field : SchemaField)
    (hslot : value.field? schemaRecord.keys field.key = some slot) :
    field.decode slot = .ok (field.get decoded) := by
  rw [schema_eq_decode] at h
  exact Record.decode_field (schemaRecord_field field) hkeyed hslot h

/-- Where the value has nothing it has what an empty schema has. -/
theorem schema_field_missing {value : Json} {decoded : Schema} (h : schema value = .ok decoded)
    (field : SchemaField) (hslot : value.field? schemaRecord.keys field.key = none) :
    field.get decoded = field.get {} := by
  rw [schema_eq_decode] at h
  exact Record.decode_missing (schemaRecord_field field) hslot h

end Decode

end SchemaForms
