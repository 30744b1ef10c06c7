/-
The standard rules, one for each keyword that constrains a value. Their order is the
order in which their validators appear in generated code. The bounds on the number of
items mean something on arrays alone, so their rules look at nothing else.
-/
import SchemaForms.Rule.Basic

set_option autoImplicit false

namespace SchemaForms

namespace Rule

def required : Rule where
  name := "required"
  validator? field definition := if definition.isRequired field then some .required else none

def pattern : Rule where
  name := "pattern"
  validator? field definition :=
    (definition.property? field).bind fun property => property.pattern.map .pattern

def minLength : Rule where
  name := "minLength"
  validator? field definition :=
    (definition.property? field).bind fun property => property.minLength.map .minLength

def maxLength : Rule where
  name := "maxLength"
  validator? field definition :=
    (definition.property? field).bind fun property => property.maxLength.map .maxLength

def minimum : Rule where
  name := "minimum"
  validator? field definition :=
    (definition.property? field).bind fun property => property.minimum.map .min

def maximum : Rule where
  name := "maximum"
  validator? field definition :=
    (definition.property? field).bind fun property => property.maximum.map .max

def minItems : Rule where
  name := "minItems"
  validator? field definition :=
    (definition.property? field).bind fun property =>
      if property.isArray then property.minItems.map .minItems else none

def maxItems : Rule where
  name := "maxItems"
  validator? field definition :=
    (definition.property? field).bind fun property =>
      if property.isArray then property.maxItems.map .maxItems else none

def email : Rule where
  name := "email"
  validator? field definition :=
    (definition.property? field).bind fun property =>
      if property.format = some "email" then some .email else none

/-- The standard rules in order. -/
def standard : List Rule :=
  [required, pattern, minLength, maxLength, minimum, maximum, minItems, maxItems, email]

end Rule

/-- The registry of the standard rules. -/
def Registry.standard : Registry :=
  { rules := Rule.standard }

end SchemaForms
