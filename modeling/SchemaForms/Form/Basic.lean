/-
Forms, independent of the library that will show them. A form is a tree of fields. A
control is a single input; a group stands for a nested object; a repeated field stands
for an array and holds one template, of which a number of copies will be rendered.

Validators sit on controls and on repeated fields. Groups have none.
-/
import SchemaForms.Json.Basic

set_option autoImplicit false

namespace SchemaForms

/-- A condition on the value of a field. -/
inductive Validator where
  | required
  /-- A regular expression, as the schema has it. -/
  | pattern (expression : String)
  | minLength (bound : Nat)
  | maxLength (bound : Nat)
  | min (bound : Number)
  | max (bound : Number)
  /-- A lower bound on the number of entries. -/
  | minItems (bound : Nat)
  /-- An upper bound on the number of entries. -/
  | maxItems (bound : Nat)
  | email
  /-- An expression that is rendered as it stands. -/
  | custom (expression : String)
deriving DecidableEq

/-- One entry of a form. -/
inductive Field where
  | control (name : String) (initial : Option Json) (validators : List Validator)
  | group (name : String) (children : List Field)
  | repeated (name : String) (count : Nat) (template : Field) (validators : List Validator)

namespace Field

def name : Field → String
  | control name _ _ => name
  | group name _ => name
  | repeated name _ _ _ => name

/-- The validators on the field itself. -/
def validators : Field → List Validator
  | control _ _ validators => validators
  | group _ _ => []
  | repeated _ _ _ validators => validators

mutual

/-- How many controls the field holds, a template counted once. -/
def controlCount : Field → Nat
  | control _ _ _ => 1
  | group _ children => controlCountOf children
  | repeated _ _ template _ => controlCount template

def controlCountOf : List Field → Nat
  | [] => 0
  | field :: rest => controlCount field + controlCountOf rest

end

end Field

/-- The form of a named definition. -/
structure Form where
  /-- The name of the definition as the document has it. -/
  definition : String
  /-- The constant that holds the form. -/
  identifier : String
  fields : List Field

def Form.controlCount (form : Form) : Nat :=
  Field.controlCountOf form.fields

/-- How many controls the forms hold together. -/
def Form.totalControls (forms : List Form) : Nat :=
  forms.foldr (fun form total => form.controlCount + total) 0

end SchemaForms
