/-
The Unicode property `White_Space`. A title that holds nothing else counts as
missing.
-/
import SchemaForms.Text.CharTable

set_option autoImplicit false

namespace SchemaForms.Text

/-- The intervals of the property `White_Space`. -/
def blankTable : CharTable :=
  [(0x9, 0xD), (0x20, 0x20), (0x85, 0x85), (0xA0, 0xA0), (0x1680, 0x1680), (0x2000, 0x200A),
   (0x2028, 0x2029), (0x202F, 0x202F), (0x205F, 0x205F), (0x3000, 0x3000)]

/-- Is the character white space? -/
def isBlank (c : Char) : Bool :=
  blankTable.contains c.toNat

end SchemaForms.Text
