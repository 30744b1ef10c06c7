/-
What can go wrong between a specification and its generated files. A failure is a cause
with the names that belong to it; its message, its code and its advice are functions of
it. Nothing in here decides whether something went wrong.
-/
import SchemaForms.FileSystem.OsError
import SchemaForms.FileSystem.Path
import SchemaForms.Reference
import SchemaForms.Schema.DecodeError

set_option autoImplicit false

namespace SchemaForms

/-- Why a specification could not be loaded. -/
inductive LoadFault where
  /-- The text is not in the notation it should be in. -/
  | malformed
  /-- The value is no document. -/
  | undecodable (error : DecodeError)
  /-- What is there could not be read. -/
  | unreadable (error : OsError)
  /-- The file holds bytes that are no text. -/
  | notText
  /-- There is no way to an address on the web. -/
  | unreachable

def LoadFault.message : LoadFault → String
  | malformed => "malformed document"
  | undecodable error => error.message
  | unreadable error => error.message
  | notText => "stream did not contain valid UTF-8"
  | unreachable => "unreachable address"

/-- Why a generated file could not be written. -/
inductive WriteFault where
  /-- Its name leads out of the output directory, or names no file in it. -/
  | leavesDirectory
  | refused (error : OsError)

def WriteFault.message : WriteFault → String
  | leavesDirectory => "generated file name must stay inside the output directory"
  | refused error => error.message

inductive Failure where
  /-- The document holds no schemas. -/
  | noSchemas
  | load (source : String) (fault : LoadFault)
  | reference (error : ReferenceError)
  | write (path : Path) (fault : WriteFault)

namespace Failure

def unresolved (reference why : String) : String :=
  "Cannot resolve reference '" ++ reference ++ "': " ++ why

def message : Failure → String
  | noSchemas => "Cannot find schemas/definitions"
  | load source fault => "Failed to load spec '" ++ source ++ "': " ++ fault.message
  | reference (.external r) => unresolved r "external references are not supported"
  | reference (.missing r) => unresolved r "no such location in the document"
  | reference (.cyclic chain) =>
    "Cyclic reference detected: " ++ " -> ".intercalate chain
  | write path fault => "Failed to write file '" ++ path.text ++ "': " ++ fault.message

/-- The stable name of a kind of failure. -/
def code : Failure → String
  | noSchemas => "formgen::compile::schema_location"
  | load _ _ => "formgen::load::spec_load_failed"
  | reference (.external _) => "formgen::load::unresolved_reference"
  | reference (.missing _) => "formgen::load::unresolved_reference"
  | reference (.cyclic _) => "formgen::load::cyclic_reference"
  | write _ _ => "formgen::io::write_error"

/-- Advice, where there is any. -/
def help? : Failure → Option String
  | noSchemas =>
    some ("OpenAPI v2 documents declare 'definitions', " ++
      "OpenAPI v3 documents declare 'components.schemas'")
  | load _ _ =>
    some ("The input must be a file path or an http(s) URL " ++
      "to an OpenAPI v2/v3 document in JSON or YAML")
  | reference (.cyclic _) =>
    some "Self-referencing schemas cannot be expanded into a finite form"
  | reference _ =>
    some "Only local references such as '#/components/schemas/Pet' are supported"
  | write _ _ => none

end Failure

end SchemaForms
