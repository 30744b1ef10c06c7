/-
When two documents say the same. Named schemas and properties may come in any order, and
so may the members of a default value; everything listed, required names and branches
among it, has to agree in order. A part that is present but empty differs from one that
is missing.
-/
import SchemaForms.Schema.Basic

set_option autoImplicit false

namespace SchemaForms

/-- Both missing, or both present and related. -/
def sameOption {α β : Type} (same : α → β → Bool) : Option α → Option β → Bool
  | none, none => true
  | some a, some b => same a b
  | _, _ => false

/-- The same keywords, numbers and default values compared as values. -/
def Keywords.same (a b : Keywords) : Bool :=
  a.type == b.type && a.format == b.format && a.pattern == b.pattern &&
    a.minLength == b.minLength && a.maxLength == b.maxLength &&
    sameOption Number.sameValue a.minimum b.minimum &&
    sameOption Number.sameValue a.maximum b.maximum &&
    a.minItems == b.minItems && a.maxItems == b.maxItems &&
    sameOption Json.sameValue a.initial b.initial && a.required == b.required

namespace Schema

mutual

/-- The same schema, the order of properties apart. -/
def same : Schema → Schema → Bool
  | ⟨keywords, properties, items, allOf⟩, other =>
    keywords.same other.toKeywords &&
      (properties.length == other.properties.length &&
        sameNamed properties other.properties) &&
      sameItems items other.items && sameList allOf other.allOf

/-- Every named schema has a counterpart. -/
def sameNamed : List (String × Schema) → List (String × Schema) → Bool
  | [], _ => true
  | (name, schema) :: rest, others =>
    (match Keyed.get? others name with
      | some other => same schema other
      | none => false) && sameNamed rest others

def sameItems : Option Schema → Option Schema → Bool
  | none, none => true
  | some schema, some other => same schema other
  | _, _ => false

def sameList : List Schema → List Schema → Bool
  | [], [] => true
  | schema :: rest, other :: others => same schema other && sameList rest others
  | _, _ => false

end

/-- The same named schemas in any order. -/
def sameKeyed (a b : Keyed Schema) : Bool :=
  a.length == b.length && sameNamed a b

end Schema

/-- The same document. -/
def Document.same (a b : Document) : Bool :=
  sameOption Schema.sameKeyed a.definitions b.definitions &&
    sameOption (fun a b => sameOption Schema.sameKeyed a.schemas b.schemas)
      a.components b.components &&
    sameOption (fun (a b : Info) => a.title == b.title) a.info b.info

end SchemaForms
