/-
Forms as Angular reactive forms. A form becomes one exported constant; groups, arrays
and controls become constructor calls, nested as the fields are and indented by two
blanks a level. The copies of a repeated field are all the same text.

Three kinds of text from outside end up in the source. Names and texts are quoted, and
quoting escapes what would end or break the literal. Other values are their JSON text.
Patterns stand between slashes as they are, and an expression of a custom rule stands
alone as it is.
-/
import SchemaForms.Json.Printer
import SchemaForms.Naming
import SchemaForms.Render.Basic

set_option autoImplicit false

namespace SchemaForms.Angular

/-! ## Literals -/

/-- A character inside single quotes. -/
def escape (c : Char) : List Char :=
  match c with
  | '\\' => ['\\', '\\']
  | '\'' => ['\\', '\'']
  | '\n' => ['\\', 'n']
  | '\r' => ['\\', 'r']
  | c => [c]

/-- A text in single quotes. -/
def quote (s : String) : String :=
  String.ofList ('\'' :: s.toList.flatMap escape ++ ['\''])

/-- A name as the key of an entry. -/
def propertyKey (name : String) : String :=
  if Naming.isIdentifier name then name else quote name

/-- A default value. -/
def literal : Json → String
  | .string s => quote s
  | value => value.render

/-! ## Validators -/

/-- The text of a validator. Bounds on the number of entries are bounds on the length of
an array. -/
def validator : Validator → String
  | .required => "Validators.required"
  | .pattern expression => "Validators.pattern(/" ++ expression ++ "/)"
  | .minLength bound => "Validators.minLength(" ++ toString bound ++ ")"
  | .maxLength bound => "Validators.maxLength(" ++ toString bound ++ ")"
  | .min bound => "Validators.min(" ++ bound.text ++ ")"
  | .max bound => "Validators.max(" ++ bound.text ++ ")"
  | .minItems bound => "Validators.minLength(" ++ toString bound ++ ")"
  | .maxItems bound => "Validators.maxLength(" ++ toString bound ++ ")"
  | .email => "Validators.email"
  | .custom expression => expression

def validators (list : List Validator) : String :=
  "[" ++ ", ".intercalate (list.map validator) ++ "]"

/-! ## Fields -/

/-- The blanks in front of a line. -/
def indent (level : Nat) : String :=
  String.ofList (List.replicate (2 * level) ' ')

/-- A control. -/
def control (initial : Option Json) (list : List Validator) : String :=
  "new FormControl(" ++ (initial.map literal).getD "null" ++ ", " ++ validators list ++ ")"

/-- An array whose entries are all the same. -/
def array (level count : Nat) (entry : String) (list : List Validator) : String :=
  let entries :=
    if count = 0 then ""
    else
      "\n" ++ ",\n".intercalate (List.replicate count (indent (level + 1) ++ entry)) ++
        "\n" ++ indent level
  let conditions := if list.isEmpty then "" else ", " ++ validators list
  "new FormArray([" ++ entries ++ "]" ++ conditions ++ ")"

/-- A group with the given entries. -/
def group (level : Nat) (entries : List String) : String :=
  if entries.isEmpty then "new FormGroup(\x7b\x7d)"
  else "new FormGroup(\x7b\n" ++ ",\n".intercalate entries ++ "\n" ++ indent level ++ "\x7d)"

mutual

/-- A field as an expression that begins on a line of the given level. -/
def expression (level : Nat) : Field → String
  | .control _ initial list => control initial list
  | .group _ children => group level (entries (level + 1) children)
  | .repeated _ count template list =>
    array level count (expression (level + 1) template) list

/-- Fields as the entries of a group. -/
def entries (level : Nat) : List Field → List String
  | [] => []
  | field :: rest =>
    (indent level ++ propertyKey field.name ++ ": " ++ expression level field) ::
      entries level rest

end

/-! ## Files -/

/-- A form as an exported constant. -/
def form (form : Form) : String :=
  "export const " ++ form.identifier ++ " = " ++ group 0 (entries 1 form.fields) ++ ";\n"

/-- What a form needs to be known. -/
def header : String :=
  "import \x7b FormGroup, FormControl, Validators, FormArray \x7d from '@angular/forms';\n"

/-- Rendering as Angular reactive forms. -/
def renderer : Renderer :=
  { extension := "ts", header, form }

end SchemaForms.Angular
