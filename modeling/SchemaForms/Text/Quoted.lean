/-
A text inside a message, in quotation marks, with nothing invisible left in it. The
quotation mark, the backslash and the usual controls have escapes of one letter; every
other character without a glyph of its own, and every mark that would merge with the
character before it, is written as its code point between braces.
-/
import SchemaForms.Text.Unprintable
import SchemaForms.Text.Combining

set_option autoImplicit false

namespace SchemaForms.Text

/-- The code point of a character in hexadecimal digits between braces. -/
def codePoint (c : Char) : List Char :=
  '\\' :: 'u' :: '{' :: Nat.toDigits 16 c.toNat ++ ['}']

/-- A character made visible. -/
def visible (c : Char) : List Char :=
  match c with
  | '\x00' => ['\\', '0']
  | '\t' => ['\\', 't']
  | '\n' => ['\\', 'n']
  | '\r' => ['\\', 'r']
  | '"' => ['\\', '"']
  | '\\' => ['\\', '\\']
  | ' ' => [' ']
  | c => if isCombining c || isUnprintable c then codePoint c else [c]

/-- A text in quotation marks with every character made visible. -/
def quoted (s : String) : String :=
  String.ofList ('"' :: s.toList.flatMap visible ++ ['"'])

end SchemaForms.Text
