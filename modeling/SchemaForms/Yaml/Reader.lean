/-
Reading a YAML text that holds at most one document: its glyphs, their tokens, the tree
of nodes these describe, and the value the tree stands for. A text without a document
is null.
-/
import SchemaForms.Yaml.Outline
import SchemaForms.Yaml.Value

set_option autoImplicit false

namespace SchemaForms.Yaml

/-- How deep sequences and mappings may nest. -/
def maxDepth : Nat := 128

/-- The value in a text. -/
def read? (text : String) : Option Json := do
  let glyphs ← glyphs? text
  let tokens ← tokens? glyphs
  let root ← Node.ofTokens? maxDepth tokens
  root.value? maxDepth

end SchemaForms.Yaml
