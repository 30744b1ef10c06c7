/-
Rules and their order. A rule looks at one field of a definition and contributes at most
one validator; it cannot fail, and a keyword or property that is missing simply gives
nothing. A registry is a list of rules, and a field gets their contributions in the
order of the list.
-/
import SchemaForms.Form.Basic
import SchemaForms.Schema.Basic
import SchemaForms.Text.Quoted

set_option autoImplicit false

namespace SchemaForms

/-- What one field of a definition is checked for. -/
structure Rule where
  name : String := "custom"
  /-- The validator for the named field of a definition, if the rule has one. -/
  validator? : String → Schema → Option Validator

/-- The rules in force, in order. -/
structure Registry where
  rules : List Rule

namespace Registry

/-- No rules at all. -/
def empty : Registry :=
  { rules := [] }

/-- The registry with one more rule at the end. -/
def add (registry : Registry) (rule : Rule) : Registry :=
  { rules := registry.rules ++ [rule] }

def names (registry : Registry) : List String :=
  registry.rules.map Rule.name

/-- The names of the rules as one text, each in quotation marks. -/
def text (registry : Registry) : String :=
  "[" ++ ", ".intercalate (registry.names.map Text.quoted) ++ "]"

/-- The validators of a field, in the order of the rules. -/
def validators (registry : Registry) (field : String) (definition : Schema) : List Validator :=
  registry.rules.filterMap fun rule => rule.validator? field definition

end Registry

end SchemaForms
