/-
Quoted scalars. Single quotes keep everything but line breaks, which are folded, and a
doubled quote, which stands for one. Double quotes know escapes besides, and an escaped
line break joins two lines without a blank. Neither may hold a mark between documents.
-/
import SchemaForms.Text.Digits
import SchemaForms.Yaml.Glyph
import SchemaForms.Yaml.Scalar.Gap

set_option autoImplicit false

namespace SchemaForms.Yaml

/-! ## Single quotes -/

/-- Goes on with a scalar in single quotes: what was taken is reversed, and a gap
follows it. -/
def singleQuotedFrom (taken : List Char) (gap : Gap) :
    List Glyph → Option (String × List Glyph)
  | [] => none
  | g :: rest =>
    if atDocumentStart (g :: rest) || atDocumentEnd (g :: rest) then none
    else if isBlank g.char then singleQuotedFrom taken (gap.addBlank g.char) rest
    else if isBreak g.char then singleQuotedFrom taken (gap.addBreak g.char) rest
    else if g.char == '\'' then
      match rest with
      | next :: others =>
        if next.char == '\'' then
          singleQuotedFrom ('\'' :: gap.close taken) Gap.none others
        else
          some (String.ofList (gap.close taken).reverse, next :: others)
      | [] => some (String.ofList (gap.close taken).reverse, [])
    else singleQuotedFrom (g.char :: gap.close taken) Gap.none rest

/-- Reads a scalar whose opening single quote has been read. -/
def singleQuoted? (s : List Glyph) : Option (String × List Glyph) :=
  singleQuotedFrom [] Gap.none s

/-! ## Double quotes -/

/-- The character that an escape of one character stands for. -/
def shortEscape? : Char → Option Char
  | '0' => some '\x00'
  | 'a' => some '\x07'
  | 'b' => some '\x08'
  | 't' => some '\t'
  | '\t' => some '\t'
  | 'n' => some '\n'
  | 'v' => some '\x0b'
  | 'f' => some '\x0c'
  | 'r' => some '\r'
  | 'e' => some '\x1b'
  | ' ' => some ' '
  | '"' => some '"'
  | '/' => some '/'
  | '\\' => some '\\'
  | 'N' => some (Char.ofNat 0x85)
  | '_' => some (Char.ofNat 0xA0)
  | 'L' => some (Char.ofNat 0x2028)
  | 'P' => some (Char.ofNat 0x2029)
  | _ => none

/-- The character with the code point that hexadecimal digits stand for. -/
def codePoint? (digits : List Glyph) : Option Char :=
  (Text.natural? 16 (digits.map Glyph.char)).bind fun n =>
    if n.isValidChar then some (Char.ofNat n) else none

/-- Goes on with a scalar in double quotes: what was taken is reversed, and a gap
follows it. -/
def doubleQuotedFrom (taken : List Char) (gap : Gap) :
    List Glyph → Option (String × List Glyph)
  | [] => none
  | g :: rest =>
    if atDocumentStart (g :: rest) || atDocumentEnd (g :: rest) then none
    else if isBlank g.char then doubleQuotedFrom taken (gap.addBlank g.char) rest
    else if isBreak g.char then doubleQuotedFrom taken (gap.addBreak g.char) rest
    else if g.char == '"' then
      some (String.ofList (gap.close taken).reverse, rest)
    else if g.char == '\\' then
      match rest with
      | [] => none
      | e :: rest =>
        if isBreak e.char then
          doubleQuotedFrom (gap.close taken) (.broken none []) rest
        else
          match e.char, rest with
          | 'x', a :: b :: rest =>
            match codePoint? [a, b] with
            | some c => doubleQuotedFrom (c :: gap.close taken) Gap.none rest
            | none => none
          | 'u', a :: b :: c :: d :: rest =>
            match codePoint? [a, b, c, d] with
            | some c => doubleQuotedFrom (c :: gap.close taken) Gap.none rest
            | none => none
          | 'U', a :: b :: c :: d :: e :: f :: g :: h :: rest =>
            match codePoint? [a, b, c, d, e, f, g, h] with
            | some c => doubleQuotedFrom (c :: gap.close taken) Gap.none rest
            | none => none
          | escaped, rest =>
            match shortEscape? escaped with
            | some c => doubleQuotedFrom (c :: gap.close taken) Gap.none rest
            | none => none
    else doubleQuotedFrom (g.char :: gap.close taken) Gap.none rest

/-- Reads a scalar whose opening double quote has been read. -/
def doubleQuoted? (s : List Glyph) : Option (String × List Glyph) :=
  doubleQuotedFrom [] Gap.none s

end SchemaForms.Yaml
