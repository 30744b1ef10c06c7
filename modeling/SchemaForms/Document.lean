/-
What is made from a document as a whole: its forms, one for each named schema and in the
order of the document, and a name for the file they go to.

The named schemas are those under `definitions`, and those under `components` when there
are none of the first. A document with neither has no forms, and that is a failure; an
empty collection counts as none.
-/
import SchemaForms.Failure
import SchemaForms.Form.Compilation
import SchemaForms.Schema.Basic
import SchemaForms.Text.Blank

set_option autoImplicit false

namespace SchemaForms

namespace Document

/-! ## Named schemas -/

/-- The named schemas, unless there are none. -/
def nonempty? (schemas : Option (Keyed Schema)) : Option (Keyed Schema) :=
  schemas.filter fun schemas => !schemas.isEmpty

/-- The named schemas that forms are made from. -/
def schemas? (document : Document) : Option (Keyed Schema) :=
  match nonempty? document.definitions with
  | some schemas => some schemas
  | none => nonempty? (document.components.bind Components.schemas)

/-- The names of the schemas that forms are made from, in order. -/
def definitionNames (document : Document) : Except Failure (List String) :=
  match document.schemas? with
  | some schemas => .ok schemas.keys
  | none => .error .noSchemas

/-- The forms of the document. -/
def forms (rules : Registry) (document : Document) : Except Failure (Logged (List Form)) :=
  match document.schemas? with
  | none => .error .noSchemas
  | some schemas => .ok do
    Logged.tell [.compilingDocument schemas.length]
    Form.ofDefinitions rules schemas

/-! ## Title and file name -/

/-- The title, unless it is blank. -/
def title? (document : Document) : Option String :=
  (document.info.bind Info.title).filter fun title => !title.toList.all Text.isBlank

/-- The file name that the title suggests; a title without words suggests none. -/
def fileName? (document : Document) (extension : String) : Option String :=
  match document.title? with
  | none => none
  | some title =>
    let stem := Naming.camelCase title
    if stem = "" then none else some (stem ++ "." ++ extension)

end Document

end SchemaForms
