/-
From the names a document uses to the names generated code uses. A definition called
`pet-store item` becomes the constant `petStoreItemForm`, and a property keeps its name,
bare where that is an identifier and quoted where it is not.

The work is in finding words. A name is cut at every character that is neither letter
nor number, and inside a run of such characters before a capital that follows a small
letter or a digit, or that ends a row of capitals because a small letter comes next:
`XMLHttpRequest2go` has the words `XML`, `Http`, `Request2go`. Cutting is done on lists
of characters in one pass that carries the word under construction, so that what joins
and what cuts can be read off one definition.
-/
import SchemaForms.Text.Alphabetic
import SchemaForms.Text.Numeric
import SchemaForms.Text.Lowercase
import SchemaForms.Text.Uppercase
import SchemaForms.Text.CaseMap

set_option autoImplicit false

namespace SchemaForms.Naming

open Text

/-! ## Words -/

/-- Letters and numbers of any script make up words. -/
def isWordChar (c : Char) : Bool :=
  isAlphabetic c || isNumeric c

/-- Does the capital `c` begin a word, standing between `before` and `rest`? -/
def beginsWord (before c : Char) (rest : List Char) : Bool :=
  isUppercase c &&
    (isLowercase before || before.isDigit || (isUppercase before && rest.head?.any isLowercase))

/-- The word under construction, held backwards, if there is one. -/
def finished : List Char → List (List Char)
  | [] => []
  | word => [word.reverse]

/-- Cuts a text into words, given the word under construction, held backwards. -/
def wordsAfter (word : List Char) : List Char → List (List Char)
  | [] => finished word
  | c :: rest =>
    if !isWordChar c then
      finished word ++ wordsAfter [] rest
    else if word.head?.any (beginsWord · c rest) then
      finished word ++ wordsAfter [c] rest
    else
      wordsAfter (c :: word) rest

/-- The words of a text. -/
def words (s : List Char) : List (List Char) :=
  wordsAfter [] s

/-! ## Camel case -/

/-- The word with its first character in upper case. -/
def capitalize : List Char → List Char
  | [] => []
  | c :: rest => upper c ++ rest

/-- The words run together in lower case, all but the first capitalised. -/
def joinCamel : List (List Char) → List Char
  | [] => []
  | first :: others => lowercase first ++ others.flatMap fun word => capitalize (lowercase word)

/-- The name in camel case: `Foo bar_baz` becomes `fooBarBaz`. -/
def camelCase (name : String) : String :=
  String.ofList (joinCamel (words name.toList))

/-- The constant that holds the form of a definition: `Pet` becomes `petForm`. -/
def formIdentifier (definition : String) : String :=
  camelCase definition ++ "Form"

/-! ## Identifiers -/

/-- May an identifier begin with the character? -/
def isIdentifierStart (c : Char) : Bool :=
  isAlphabetic c || c == '_' || c == '$'

/-- May an identifier go on with the character? -/
def isIdentifierPart (c : Char) : Bool :=
  isWordChar c || c == '_' || c == '$'

/-- Can the name stand as a property key without quotes? -/
def isIdentifier (name : String) : Bool :=
  match name.toList with
  | [] => false
  | first :: rest => isIdentifierStart first && rest.all isIdentifierPart

end SchemaForms.Naming
