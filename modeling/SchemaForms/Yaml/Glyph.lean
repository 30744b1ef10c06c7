/-
The text of a YAML stream as glyphs. A glyph is a character together with the line and
the column it stands in, because indentation gives the text its structure. The four line
breaks of one or two characters that mean the same have become line feeds; the two
separators of Unicode break lines too, but are kept, since scalars do not fold them. A
byte order mark is a glyph like any other and takes a column.

The end of the text is the end of the list. Wherever a blank is asked for, the end will
do as well.
-/

set_option autoImplicit false

namespace SchemaForms.Yaml

/-- A character at its place. -/
structure Glyph where
  char : Char
  /-- How many bytes of the text come before it. -/
  offset : Nat
  line : Nat
  column : Nat

/-! ## Characters -/

/-- May the character occur in a stream at all? -/
def isAllowed (c : Char) : Bool :=
  let n := c.toNat
  n == 0x9 || n == 0xA || n == 0xD || (0x20 ≤ n && n ≤ 0x7E) || n == 0x85 ||
    (0xA0 ≤ n && n ≤ 0xD7FF) || (0xE000 ≤ n && n ≤ 0xFFFD) || 0x10000 ≤ n

def byteOrderMark : Char := Char.ofNat 0xFEFF

/-- Does the character end a line, once breaks have been made alike? -/
def isBreak (c : Char) : Bool :=
  c == '\n' || c.toNat == 0x2028 || c.toNat == 0x2029

def isBlank (c : Char) : Bool :=
  c == ' ' || c == '\t'

/-- May the character occur in the name of an anchor or a tag handle? -/
def isNameChar (c : Char) : Bool :=
  c.isAlphanum || c == '_' || c == '-'

/-- Do the characters end a word: a blank, a break, or the end of the text? -/
def endsWord : List Glyph → Bool
  | [] => true
  | g :: _ => isBlank g.char || isBreak g.char

/-- Is the first glyph the given character? -/
def beginsWith (c : Char) : List Glyph → Bool
  | [] => false
  | g :: _ => g.char == c

/-- Passes the blanks and the comment up to the end of a line, and the break there;
anything else is an error. -/
def endLine? (s : List Glyph) : Option (List Glyph) :=
  let s := s.dropWhile fun g => isBlank g.char
  let s := if beginsWith '#' s then s.dropWhile fun g => !isBreak g.char else s
  match s with
  | [] => some []
  | g :: rest => if isBreak g.char then some rest else none

/-! ## From text -/

/-- Characters from a place on. -/
def place (offset line column : Nat) : List Char → List Glyph
  | [] => []
  | '\r' :: '\n' :: rest =>
    ⟨'\n', offset, line, column⟩ :: place (offset + 2) (line + 1) 0 rest
  | c :: rest =>
    let next := offset + c.utf8Size
    if c == '\r' || c == '\n' || c.toNat == 0x85 then
      ⟨'\n', offset, line, column⟩ :: place next (line + 1) 0 rest
    else if isBreak c then
      ⟨c, offset, line, column⟩ :: place next (line + 1) 0 rest
    else
      ⟨c, offset, line, column⟩ :: place next line (column + 1) rest

/-- The glyphs of a text, if all its characters are allowed. -/
def glyphs? (text : String) : Option (List Glyph) :=
  let characters := text.toList
  if characters.all isAllowed then some (place 0 0 0 characters) else none

/-! ## Marks of documents -/

/-- Are these three characters at the beginning of a line, and a word of their own? -/
def isMark (c : Char) : List Glyph → Bool
  | a :: b :: d :: rest =>
    a.column == 0 && a.char == c && b.char == c && d.char == c && endsWord rest
  | _ => false

/-- Does a document begin here? -/
def atDocumentStart (s : List Glyph) : Bool :=
  isMark '-' s

/-- Does a document end here? -/
def atDocumentEnd (s : List Glyph) : Bool :=
  isMark '.' s

end SchemaForms.Yaml
