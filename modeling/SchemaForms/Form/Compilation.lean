/-
From schemas to forms. The fields of a definition are those of its branches, in listed
order, and then those of its own properties. A property that is an object becomes a
group of the fields of its own schema, an array becomes a repeated field, anything else
a control. Names that occur in several branches occur as often among the fields.

The walk goes down a schema through three kinds of lists, and each has its function, so
that the recursion is on the schema itself. The items of an array are taken as if they
were the only property of a definition that requires nothing: that definition, and not
the one around the array, is what the rules see.

Rules contribute validators and nothing else. Which fields there are, in which order and
with how many copies, depends on the schema alone.
-/
import SchemaForms.Event
import SchemaForms.Naming
import SchemaForms.Rule.Basic

set_option autoImplicit false

namespace SchemaForms

/-- The greatest number of copies of a template. A greater bound of the schema still
becomes a validator. -/
def repeatLimit : Nat := 100

/-- How many copies of its template an array gets: as many as it must have entries, one
if it does not say. -/
def repeatCount (field : String) (minItems : Option Nat) : Logged Nat := do
  let declared := minItems.getD 1
  if repeatLimit < declared then
    Logged.tell [.repeatLimit field declared repeatLimit]
    return repeatLimit
  else
    return declared

namespace Schema

mutual

/-- The fields of a definition. -/
def fields (rules : Registry) (name : String) : Schema → Logged (List Field)
  | ⟨keywords, properties, items, allOf⟩ => do
    let inherited ← branchFields rules name allOf
    let own ← propertyFields rules ⟨keywords, properties, items, allOf⟩ properties
    Logged.tell ((dangling ⟨keywords, properties, items, allOf⟩).map (.danglingRequired name))
    return inherited ++ own

/-- The fields of the branches of a definition. -/
def branchFields (rules : Registry) (name : String) : List Schema → Logged (List Field)
  | [] => return []
  | branch :: rest => do
    let first ← fields rules name branch
    let others ← branchFields rules name rest
    return first ++ others

/-- The fields of the properties of a definition. -/
def propertyFields (rules : Registry) (definition : Schema) :
    List (String × Schema) → Logged (List Field)
  | [] => return []
  | (name, property) :: rest => do
    let first ←
      if property.isObject then do
        let children ← fields rules name property
        pure (.group name children)
      else
        valueField rules definition name property
    let others ← propertyFields rules definition rest
    return first :: others

/-- The field of a property that is no group. -/
def valueField (rules : Registry) (definition : Schema) (name : String) :
    Schema → Logged Field
  | ⟨keywords, properties, items, allOf⟩ => do
    let validators := rules.validators name definition
    if isArray ⟨keywords, properties, items, allOf⟩ then
      let template ← templateField rules name items
      let count ← repeatCount name keywords.minItems
      return .repeated name count template validators
    else
      return .control name keywords.initial validators

/-- The template for the entries of an array. -/
def templateField (rules : Registry) (name : String) : Option Schema → Logged Field
  | none => do
    Logged.tell [.noItems name]
    return .control name none []
  | some item =>
    if item.isObject then do
      let children ← fields rules name item
      return .group name children
    else
      valueField rules (wrapping name item) name item

end

/-- The field of a definition with the given name, as a control or a repeated field. A
name that no property has still gets a control, with what the rules say about it. -/
def field (rules : Registry) (name : String) (definition : Schema) : Logged Field :=
  match definition.property? name with
  | none => return .control name none (rules.validators name definition)
  | some property => valueField rules definition name property

end Schema

/-- The form of a named definition. -/
def Form.ofDefinition (rules : Registry) (name : String) (definition : Schema) :
    Logged Form := do
  let fields ← definition.fields rules name
  Logged.tell [.compiledDefinition name fields.length]
  return { definition := name, identifier := Naming.formIdentifier name, fields }

/-- The forms of named definitions. -/
def Form.ofDefinitions (rules : Registry) : List (String × Schema) → Logged (List Form)
  | [] => return []
  | (name, definition) :: rest => do
    let first ← Form.ofDefinition rules name definition
    let others ← Form.ofDefinitions rules rest
    return first :: others

end SchemaForms
