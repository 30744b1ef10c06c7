/-
Tags, and the directives that give them meaning. A tag has a handle and a suffix; which
tag it is follows from what the handle stands for in the document. A tag in angle
brackets has no handle and is already what it says, and so is a lone exclamation mark.

Suffixes are written in the characters of addresses, where a percent sign escapes a
byte. A tag is a sequence of bytes, and each is kept as the character of that number.
The escapes for one character have the shape that UTF-8 gives it, but nothing asks
whether they are UTF-8. A zero byte ends the part of a tag that it stands in.

A tag that begins with an exclamation mark belongs to the document, as long as what
follows can be read as UTF-8.
-/
import SchemaForms.Text.Digits
import SchemaForms.Yaml.Glyph
import SchemaForms.Yaml.Token

set_option autoImplicit false

namespace SchemaForms.Yaml

/-! ## Addresses -/

/-- May the character occur in an address? Some only may in one that has marks around
it. -/
def isAddressChar (enclosed : Bool) (c : Char) : Bool :=
  isNameChar c || ";/?:@&=+$.!~*'()".toList.contains c || (enclosed && ",[]".toList.contains c)

/-- How many more bytes belong to a character whose first byte this is. -/
def bytesAfter? (byte : Nat) : Option Nat :=
  if byte < 0x80 then some 0
  else if byte / 0x20 = 0b110 then some 1
  else if byte / 0x10 = 0b1110 then some 2
  else if byte / 0x08 = 0b11110 then some 3
  else none

/-- Does the byte go on with a character? -/
def isLaterByte (byte : Nat) : Bool :=
  byte / 0x40 == 0b10

/-- Goes on with an address: what was taken is reversed, and so many escaped bytes are
still to come. -/
def addressFrom (enclosed : Bool) (taken : List Char) (missing : Nat) :
    List Glyph → Option (List Char × List Glyph)
  | [] => if missing = 0 then some (taken.reverse, []) else none
  | g :: rest =>
    if g.char == '%' then
      match rest with
      | a :: b :: rest =>
        match Text.natural? 16 [a.char, b.char] with
        | none => none
        | some byte =>
          match missing with
          | 0 =>
            match bytesAfter? byte with
            | some missing => addressFrom enclosed (Char.ofNat byte :: taken) missing rest
            | none => none
          | missing + 1 =>
            if isLaterByte byte then
              addressFrom enclosed (Char.ofNat byte :: taken) missing rest
            else none
      | _ => none
    else if missing ≠ 0 then none
    else if isAddressChar enclosed g.char then
      addressFrom enclosed (g.char :: taken) 0 rest
    else some (taken.reverse, g :: rest)

/-- Reads an address of at least one character. -/
def address? (enclosed : Bool) (s : List Glyph) : Option (List Char × List Glyph) :=
  match addressFrom enclosed [] 0 s with
  | some ([], _) => none
  | result => result

/-- The bytes of an address up to the first zero. -/
def beforeZero (address : List Char) : List Char :=
  address.takeWhile (· ≠ '\x00')

/-! ## Names -/

/-- The characters of a name, and the glyphs after them. -/
def spanName (s : List Glyph) : List Char × List Glyph :=
  ((s.takeWhile fun g => isNameChar g.char).map Glyph.char,
    s.dropWhile fun g => isNameChar g.char)

/-- Reads the name of an anchor or an alias. -/
def anchorName? (s : List Glyph) : Option (List Char × List Glyph) :=
  match spanName s with
  | ([], _) => none
  | (name, rest) =>
    if endsWord rest || "?:,]\x7d%@`".toList.any (beginsWith · rest) then some (name, rest)
    else none

/-! ## Tags -/

/-- Reads a tag after its exclamation mark, without looking at what follows it. -/
def tagText? (s : List Glyph) : Option (Token × List Glyph) := do
  if beginsWith '<' s then
    let (suffix, rest) ← address? true s.tail
    if beginsWith '>' rest then some (.tag [] (beforeZero suffix), rest.tail) else none
  else
    let (name, after) := spanName s
    if beginsWith '!' after then
      let (suffix, rest) ← address? false after.tail
      some (.tag ('!' :: name ++ ['!']) (beforeZero suffix), rest)
    else
      let (others, rest) ← addressFrom false [] 0 after
      match beforeZero (name ++ others) with
      | [] => some (.tag [] ['!'], rest)
      | suffix => some (.tag ['!'] suffix, rest)

/-- Reads a tag after its exclamation mark; in flow style a comma may follow it
directly. -/
def tag? (inFlow : Bool) (s : List Glyph) : Option (Token × List Glyph) := do
  let (tag, rest) ← tagText? s
  if endsWord rest || (inFlow && beginsWith ',' rest) then some (tag, rest) else none

/-- Can bytes be read as UTF-8? -/
def isReadable (bytes : List Char) : Bool :=
  (String.fromUTF8? (bytes.map fun byte => byte.toNat.toUInt8).toByteArray).isSome

/-- Is the tag one of the document's own? -/
def isOwnTag : List Char → Bool
  | '!' :: rest => isReadable rest
  | _ => false

/-- The handles that have a meaning unless a directive gives them another. -/
def standardHandles : List (List Char × List Char) :=
  [("!".toList, "!".toList), ("!!".toList, "tag:yaml.org,2002:".toList)]

/-! ## Directives -/

def dropBlanks (s : List Glyph) : List Glyph :=
  s.dropWhile fun g => isBlank g.char

/-- Reads one part of a version: up to nine digits. -/
def versionPart? (s : List Glyph) : Option (Nat × List Glyph) := do
  let digits := s.takeWhile fun g => g.char.isDigit
  if 9 < digits.length then none
  else some (← Text.natural? 10 (digits.map Glyph.char), s.drop digits.length)

/-- Reads the version that a directive declares. -/
def versionDirective? (s : List Glyph) : Option (Token × List Glyph) := do
  let (major, rest) ← versionPart? (dropBlanks s)
  if beginsWith '.' rest then
    let (minor, rest) ← versionPart? rest.tail
    some (.version major minor, rest)
  else none

/-- Reads the handle that a directive declares. -/
def declaredHandle? (s : List Glyph) : Option (List Char × List Glyph) :=
  if beginsWith '!' s then
    let (name, rest) := spanName s.tail
    if beginsWith '!' rest then some ('!' :: name ++ ['!'], rest.tail)
    else if name.isEmpty then some (['!'], rest)
    else none
  else none

/-- Reads a handle and its meaning. -/
def handleDirective? (s : List Glyph) : Option (Token × List Glyph) := do
  let (handle, rest) ← declaredHandle? (dropBlanks s)
  match rest with
  | [] => none
  | g :: _ =>
    if isBlank g.char then
      let (meaning, rest) ← address? true (dropBlanks rest)
      if endsWord rest then some (.handle handle (beforeZero meaning), rest) else none
    else none

/-- Reads a directive after its percent sign, and the end of its line. -/
def directive? (s : List Glyph) : Option (Token × List Glyph) := do
  let (name, rest) := spanName s
  if endsWord rest then
    let (token, rest) ←
      if name = "YAML".toList then versionDirective? rest
      else if name = "TAG".toList then handleDirective? rest
      else none
    some (token, ← endLine? rest)
  else none

end SchemaForms.Yaml
