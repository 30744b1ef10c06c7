/-
From the text of a specification to a document: the text is read into a value, the
references in the value are replaced, and the result is decoded. The first of the three
that fails decides the failure. A location that does not tell the notation has its text
tried as JSON first, and as YAML if it is none.
-/
import SchemaForms.Document
import SchemaForms.Json.Reader
import SchemaForms.Schema.Decode
import SchemaForms.Spec.Format
import SchemaForms.Yaml.Reader

set_option autoImplicit false

namespace SchemaForms

/-- Reads a text in the given notation. -/
def Format.read? (format : Format) (text : String) : Option Json :=
  match format with
  | json => Json.read? text
  | yaml => Yaml.read? text
  | unknown =>
    match Json.read? text with
    | some value => some value
    | none => Yaml.read? text

namespace Spec

/-- The document in a value. -/
def ofValue (location : String) (value : Json) : Except Failure Document :=
  match value.inlineReferences with
  | .error e => .error (.reference e)
  | .ok value =>
    match Document.ofJson value with
    | .error e => .error (.load location (.undecodable e))
    | .ok document => .ok document

/-- The document in a text; the location tells the notation and names the text. -/
def parse (location text : String) : Except Failure (Logged Document) :=
  match (Format.detect location).read? text with
  | none => .error (.load location .malformed)
  | some value =>
    match ofValue location value with
    | .error e => .error e
    | .ok document => .ok do
      let definitions := (document.schemas?.map List.length).getD 0
      Logged.tell [.specParsed location definitions]
      return document

end Spec

end SchemaForms
