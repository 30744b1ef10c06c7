/-
From a value to a document. Decoding goes depth first in document order and stops at the
first problem. A record, that is a document, its components, its info or a schema, is
given as an object, whose members with other keys play no part, or as an array that
lists the fields in their declared order and may end early.

Null stands for a missing field where the field is a single value; it is an error where
a field is a collection, and for a schema itself. The list of required names cannot be
wrong: anything but an array of texts means that nothing is required.

The recursion follows the value. A field of a schema that holds schemas itself is taken
apart by the shape of its value in `schemaField`; a value of any other shape goes to
`plainField`, which knows what each field accepts besides.
-/
import SchemaForms.Schema.Basic
import SchemaForms.Schema.DecodeError

set_option autoImplicit false

namespace SchemaForms

namespace Decode

/-! ## Single values -/

/-- A problem of the wrong kind, right here. -/
def wrong {α : Type} (found : Json) (wanted : Wanted) : Except DecodeError α :=
  .error (.here (.wrongKind found wanted))

/-- A field that may be null. -/
def optional {α : Type} (decode : Json → Except DecodeError α) :
    Json → Except DecodeError (Option α)
  | .null => .ok none
  | value =>
    match decode value with
    | .ok a => .ok (some a)
    | .error e => .error e

def text : Json → Except DecodeError String
  | .string s => .ok s
  | other => wrong other .text

def number : Json → Except DecodeError Number
  | .number n => .ok n
  | other => wrong other .number

/-- A count is an integer that is not negative; a double is none, whatever its value. -/
def count : Json → Except DecodeError Nat
  | .number (.integer n fits) =>
    if 0 ≤ n then .ok n.toNat
    else .error (.here (.negative (.number (.integer n fits)) .count))
  | other => wrong other .count

/-- The texts of an array that holds nothing else. -/
def allTexts? : List Json → Option (List String)
  | [] => some []
  | .string s :: rest => (allTexts? rest).map (s :: ·)
  | _ => none

def typeKeyword : Json → Except DecodeError TypeKeyword
  | .string s => .ok (.single s)
  | .array items =>
    match allTexts? items with
    | some names => .ok (.union names)
    | none => .error (.here .noType)
  | _ => .error (.here .noType)

/-- The required names; nothing but an array of texts gives any. -/
def requiredNames : Json → List String
  | .array items => (allTexts? items).getD []
  | _ => []

/-- A default value; null is none. -/
def initialValue : Json → Option Json
  | .null => none
  | value => some value

/-! ## Fields of a schema -/

/-- The fields of a schema. -/
inductive SchemaField where
  | type
  | format
  | pattern
  | minLength
  | maxLength
  | minimum
  | maximum
  | minItems
  | maxItems
  | initial
  | required
  | properties
  | items
  | allOf
deriving DecidableEq

namespace SchemaField

/-- The key of the field. -/
def key : SchemaField → String
  | type => "type"
  | format => "format"
  | pattern => "pattern"
  | minLength => "minLength"
  | maxLength => "maxLength"
  | minimum => "minimum"
  | maximum => "maximum"
  | minItems => "minItems"
  | maxItems => "maxItems"
  | initial => "default"
  | required => "required"
  | properties => "properties"
  | items => "items"
  | allOf => "allOf"

/-- The fields in declared order. -/
def declared : List SchemaField :=
  [type, format, pattern, minLength, maxLength, minimum, maximum, minItems, maxItems,
    initial, required, properties, items, allOf]

/-- The field with a key. -/
def ofKey? (key : String) : Option SchemaField :=
  declared.find? (·.key == key)

end SchemaField

/-- Writes a field whose value holds no schemas. -/
def plainField (schema : Schema) (field : SchemaField) (value : Json) :
    Except DecodeError Schema :=
  match field with
  | .type => do return { schema with type := ← optional typeKeyword value }
  | .format => do return { schema with format := ← optional text value }
  | .pattern => do return { schema with pattern := ← optional text value }
  | .minLength => do return { schema with minLength := ← optional count value }
  | .maxLength => do return { schema with maxLength := ← optional count value }
  | .minimum => do return { schema with minimum := ← optional number value }
  | .maximum => do return { schema with maximum := ← optional number value }
  | .minItems => do return { schema with minItems := ← optional count value }
  | .maxItems => do return { schema with maxItems := ← optional count value }
  | .initial => .ok { schema with initial := initialValue value }
  | .required => .ok { schema with required := requiredNames value }
  | .properties => wrong value .map
  | .items =>
    match value with
    | .null => .ok { schema with items := none }
    | value => wrong value .schema
  | .allOf => wrong value .sequence

/-! ## Schemas -/

mutual

/-- A schema. -/
def schema : Json → Except DecodeError Schema
  | .object members => schemaMembers {} members
  | .array values => schemaValues {} values.length 0 values
  | other => wrong other .schema

/-- Goes through the members of a schema that is an object. -/
def schemaMembers (sofar : Schema) : List (String × Json) → Except DecodeError Schema
  | [] => .ok sofar
  | (key, value) :: rest =>
    match SchemaField.ofKey? key with
    | none => schemaMembers sofar rest
    | some field =>
      match within (.key key) (schemaField sofar field value) with
      | .ok sofar => schemaMembers sofar rest
      | .error e => .error e

/-- Goes through the values of a schema that is an array of `count` values, from the one
at `index` on. -/
def schemaValues (sofar : Schema) (count index : Nat) : List Json → Except DecodeError Schema
  | [] => .ok sofar
  | value :: rest =>
    match SchemaField.declared[index]? with
    | none => .error (.here (.tooMany count))
    | some field =>
      match within (.index index) (schemaField sofar field value) with
      | .ok sofar => schemaValues sofar count (index + 1) rest
      | .error e => .error e

/-- Writes a field of a schema. -/
def schemaField (sofar : Schema) (field : SchemaField) : Json → Except DecodeError Schema
  | .object members =>
    match field with
    | .properties =>
      match namedSchemas members with
      | .ok properties => .ok { sofar with properties }
      | .error e => .error e
    | .items =>
      match schemaMembers {} members with
      | .ok items => .ok { sofar with items := some items }
      | .error e => .error e
    | field => plainField sofar field (.object members)
  | .array values =>
    match field with
    | .items =>
      match schemaValues {} values.length 0 values with
      | .ok items => .ok { sofar with items := some items }
      | .error e => .error e
    | .allOf =>
      match schemaList 0 values with
      | .ok allOf => .ok { sofar with allOf }
      | .error e => .error e
    | field => plainField sofar field (.array values)
  | value => plainField sofar field value

/-- Schemas by name. -/
def namedSchemas : List (String × Json) → Except DecodeError (List (String × Schema))
  | [] => .ok []
  | (name, value) :: rest =>
    match within (.key name) (schema value) with
    | .error e => .error e
    | .ok first =>
      match namedSchemas rest with
      | .ok others => .ok ((name, first) :: others)
      | .error e => .error e

/-- Schemas in a list, the first of which is the one at `index`. -/
def schemaList (index : Nat) : List Json → Except DecodeError (List Schema)
  | [] => .ok []
  | value :: rest =>
    match within (.index index) (schema value) with
    | .error e => .error e
    | .ok first =>
      match schemaList (index + 1) rest with
      | .ok others => .ok (first :: others)
      | .error e => .error e

end

/-- Schemas by name, where an object is wanted. -/
def schemaMap : Json → Except DecodeError (Keyed Schema)
  | .object members => namedSchemas members
  | other => wrong other .map

/-! ## Other records -/

/-- How a record is decoded: its fields in declared order, each with its key and with
what writes it. -/
structure Record (α : Type) where
  wanted : Wanted
  fields : List (String × (α → Json → Except DecodeError α))

namespace Record

variable {α : Type}

/-- Goes through the members of a record that is an object. -/
def members (record : Record α) (sofar : α) : List (String × Json) → Except DecodeError α
  | [] => .ok sofar
  | (key, value) :: rest =>
    match record.fields.lookup key with
    | none => members record sofar rest
    | some write =>
      match within (.key key) (write sofar value) with
      | .ok sofar => members record sofar rest
      | .error e => .error e

/-- Goes through the values of a record that is an array of `count` values, from the one
at `index` on. -/
def values (record : Record α) (sofar : α) (count index : Nat) :
    List Json → Except DecodeError α
  | [] => .ok sofar
  | value :: rest =>
    match record.fields[index]? with
    | none => .error (.here (.tooMany count))
    | some (_, write) =>
      match within (.index index) (write sofar value) with
      | .ok sofar => values record sofar count (index + 1) rest
      | .error e => .error e

/-- A record, begun with nothing known. -/
def decode (record : Record α) (empty : α) : Json → Except DecodeError α
  | .object entries => record.members empty entries
  | .array entries => record.values empty entries.length 0 entries
  | other => wrong other record.wanted

end Record

def infoRecord : Record Info where
  wanted := .info
  fields := [("title", fun info value => do return { info with title := ← optional text value })]

def componentsRecord : Record Components where
  wanted := .components
  fields :=
    [("schemas", fun parts value => do
        return { parts with schemas := ← optional schemaMap value })]

def documentRecord : Record Document where
  wanted := .document
  fields :=
    [("definitions", fun document value => do
        return { document with definitions := ← optional schemaMap value }),
      ("components", fun document value => do
        return { document with components := ← optional (componentsRecord.decode {}) value }),
      ("info", fun document value => do
        return { document with info := ← optional (infoRecord.decode {}) value })]

end Decode

/-- Decodes a schema. -/
def Schema.ofJson (value : Json) : Except DecodeError Schema :=
  Decode.schema value

/-- Decodes a document. -/
def Document.ofJson (value : Json) : Except DecodeError Document :=
  Decode.documentRecord.decode {} value

end SchemaForms
