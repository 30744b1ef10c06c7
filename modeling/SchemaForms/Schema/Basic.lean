/-
Schemas and the documents that hold them, as far as forms are made from them. A schema
has keywords that speak about its own value and three places for schemas inside it:
properties, items, and the branches of `allOf`. Every keyword is optional, and a keyword
that is not listed here plays no part.

Named schemas and properties are keyed lists in document order, because forms and fields
appear in that order.
-/
import SchemaForms.Json.Basic

set_option autoImplicit false

namespace SchemaForms

/-! ## Schemas -/

/-- The `type` keyword: one name, or a list of names. -/
inductive TypeKeyword where
  | single (name : String)
  | union (names : List String)
deriving DecidableEq

/-- Is the name one of the declared types? -/
def TypeKeyword.declares (type : TypeKeyword) (name : String) : Bool :=
  match type with
  | single declared => declared == name
  | union declared => declared.contains name

/-- What a schema says about its own value. -/
structure Keywords where
  type : Option TypeKeyword := none
  format : Option String := none
  pattern : Option String := none
  minLength : Option Nat := none
  maxLength : Option Nat := none
  minimum : Option Number := none
  maximum : Option Number := none
  minItems : Option Nat := none
  maxItems : Option Nat := none
  /-- The value under `default`; null counts as none. -/
  initial : Option Json := none
  /-- Names of mandatory properties, as listed, repeats included. -/
  required : List String := []

/-- A schema: a named definition, a property, the items of an array, or a branch. -/
structure Schema extends Keywords where
  properties : List (String × Schema) := []
  items : Option Schema := none
  allOf : List Schema := []

namespace Schema

/-- A definition whose only property is the given one. -/
def wrapping (name : String) (property : Schema) : Schema :=
  { properties := [(name, property)] }

def property? (schema : Schema) (name : String) : Option Schema :=
  Keyed.get? schema.properties name

def isRequired (schema : Schema) (name : String) : Bool :=
  schema.required.contains name

def isArray (schema : Schema) : Bool :=
  schema.type.any (·.declares "array")

/-- Does the schema become a group of fields? One that says it is an object does, and one
that says nothing about its type does when it has properties or branches. -/
def isObject (schema : Schema) : Bool :=
  match schema.type with
  | some type => type.declares "object"
  | none => !schema.properties.isEmpty || !schema.allOf.isEmpty

/-- The required names that no property has, as listed. -/
def dangling (schema : Schema) : List String :=
  schema.required.filter fun name => !Keyed.has schema.properties name

end Schema

/-! ## Documents -/

/-- The part of a document that holds named schemas in the newer notation. -/
structure Components where
  schemas : Option (Keyed Schema) := none

/-- What a document says about itself. -/
structure Info where
  title : Option String := none

/-- A document, references replaced. -/
structure Document where
  definitions : Option (Keyed Schema) := none
  components : Option Components := none
  info : Option Info := none

end SchemaForms
