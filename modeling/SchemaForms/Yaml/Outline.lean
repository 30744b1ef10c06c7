/-
From glyphs to tokens. The text is read from left to right, and what the indentation
says is made explicit on the way: a key or a dash deeper than all before opens a block
collection, and a token in a column to the left of it closes the collection.

Only the colon behind a key tells that it was one. So wherever a key may begin, the
place is remembered, and when the colon comes, the token `key` is put in there
afterwards, together with the beginning of a block mapping if there is none yet. A
remembered place is given up at the end of the line, or 1024 bytes later. In a
column in which a mapping goes on, a key is all that can stand, and giving up its place
is an error.

Inside brackets the indentation does not count, and each pair of brackets has its own
remembered place.
-/
import SchemaForms.Yaml.Scalar.Block
import SchemaForms.Yaml.Scalar.Plain
import SchemaForms.Yaml.Scalar.Quoted
import SchemaForms.Yaml.Tag

set_option autoImplicit false

namespace SchemaForms.Yaml

/-- A place where a key may have begun. -/
structure KeyPlace where
  offset : Nat
  line : Nat
  column : Nat
  /-- How many tokens come before it. -/
  position : Nat
  /-- Is it an error if there is no key? -/
  required : Bool

/-- How many bytes there may be from the beginning of a key to its colon. -/
def longestKey : Nat := 1024

/-- Is the glyph too far away to belong to a key that began there? -/
def KeyPlace.isPast (place : KeyPlace) (g : Glyph) : Bool :=
  place.line < g.line || place.offset + longestKey < g.offset

/-- The tokens read so far, with all that the next ones depend on. -/
structure Outline where
  /-- The tokens, backwards. -/
  tokens : List Token := []
  /-- How many tokens there are. -/
  count : Nat := 0
  /-- The columns of the open block collections, innermost first. -/
  columns : List Nat := []
  /-- Where a key may have begun. -/
  key : Option KeyPlace := none
  /-- The same for what is around each pair of brackets, innermost first. -/
  outerKeys : List (Option KeyPlace) := []
  /-- May a key begin here? -/
  keyAllowed : Bool := true
  /-- The numbers that the names of anchors had last. -/
  anchors : List (List Char × Nat) := []

namespace Outline

/-- Is this between brackets? -/
def inFlow (outline : Outline) : Bool :=
  !outline.outerKeys.isEmpty

/-- The outline with a token more. -/
def push (token : Token) (outline : Outline) : Outline :=
  { outline with tokens := token :: outline.tokens, count := outline.count + 1 }

/-- The outline with a token more, which has `position` tokens before it. -/
def insert (position : Nat) (token : Token) (outline : Outline) : Outline :=
  { outline with
    tokens := outline.tokens.insertIdx (outline.count - position) token
    count := outline.count + 1 }

/-! ## Block collections -/

/-- Opens a block collection in a column, unless one is open there or to the right. -/
def openBlock (column position : Nat) (token : Token) (outline : Outline) : Outline :=
  if outline.inFlow || outline.columns.head?.any (column ≤ ·) then outline
  else { outline.insert position token with columns := column :: outline.columns }

/-- Closes the block collections for which the test holds, from the innermost on. -/
def closeWhile (test : Nat → Bool) (outline : Outline) : Outline :=
  if outline.inFlow then outline
  else
    let closed := outline.columns.takeWhile test
    { outline with
      tokens := List.replicate closed.length .blockEnd ++ outline.tokens
      count := outline.count + closed.length
      columns := outline.columns.dropWhile test }

/-- Closes the block collections to the right of a column. -/
def closeTo (column : Nat) (outline : Outline) : Outline :=
  outline.closeWhile (column < ·)

/-- Closes all block collections. -/
def closeAll (outline : Outline) : Outline :=
  outline.closeWhile fun _ => true

/-! ## Places of keys -/

/-- Gives up the place where a key may have begun. -/
def forgetKey? (outline : Outline) : Option Outline :=
  if outline.key.any KeyPlace.required then none
  else some { outline with key := none }

/-- Remembers a place where a key may begin. -/
def rememberKey? (g : Glyph) (outline : Outline) : Option Outline := do
  if outline.keyAllowed then
    let outline ← outline.forgetKey?
    let required := !outline.inFlow && outline.columns.head? == some g.column
    let place : KeyPlace :=
      { offset := g.offset, line := g.line, column := g.column, position := outline.count,
        required }
    some { outline with key := some place }
  else
    some outline

/-- Gives up the places that are too far away. -/
def forgetPastKeys? (g : Glyph) (outline : Outline) : Option Outline :=
  let isLost (key : Option KeyPlace) : Bool := key.any fun place => place.isPast g && place.required
  let keep (key : Option KeyPlace) : Option KeyPlace := key.filter (!·.isPast g)
  if (outline.key :: outline.outerKeys).any isLost then none
  else
    some { outline with key := keep outline.key, outerKeys := outline.outerKeys.map keep }

/-! ## Tokens -/

/-- Opens a flow collection. -/
def openFlow? (token : Token) (g : Glyph) (outline : Outline) : Option Outline := do
  let outline ← outline.rememberKey? g
  some { outline.push token with
    key := none
    outerKeys := outline.key :: outline.outerKeys
    keyAllowed := true }

/-- Closes a flow collection. -/
def closeFlow? (token : Token) (outline : Outline) : Option Outline := do
  let outline ← outline.forgetKey?
  let outline := { outline.push token with keyAllowed := false }
  match outline.outerKeys with
  | [] => some outline
  | key :: outerKeys => some { outline with key, outerKeys }

/-- A comma. -/
def comma? (outline : Outline) : Option Outline := do
  let outline ← outline.forgetKey?
  some { outline.push .comma with keyAllowed := true }

/-- The dash of an entry. Where it is not allowed, in flow style, the token shows. -/
def entry? (g : Glyph) (outline : Outline) : Option Outline := do
  if !outline.inFlow && !outline.keyAllowed then none
  else
    let outline ← (outline.openBlock g.column outline.count .blockSequence).forgetKey?
    some { outline.push .entry with keyAllowed := true }

/-- The question mark of a key. -/
def keyMark? (g : Glyph) (outline : Outline) : Option Outline := do
  if !outline.inFlow && !outline.keyAllowed then none
  else
    let outline ← (outline.openBlock g.column outline.count .blockMapping).forgetKey?
    some { outline.push .key with keyAllowed := !outline.inFlow }

/-- The colon in front of a value. -/
def valueMark? (g : Glyph) (outline : Outline) : Option Outline :=
  match outline.key with
  | some place =>
    let outline :=
      (outline.insert place.position .key).openBlock place.column place.position .blockMapping
    some { outline.push .value with key := none, keyAllowed := false }
  | none =>
    if outline.inFlow then some { outline.push .value with keyAllowed := false }
    else if outline.keyAllowed then
      let outline := outline.openBlock g.column outline.count .blockMapping
      some { outline.push .value with keyAllowed := true }
    else none

/-- A token in front of which a key may begin, and after which none may. -/
def inline? (token : Token) (g : Glyph) (outline : Outline) : Option Outline := do
  let outline ← outline.rememberKey? g
  some { outline.push token with keyAllowed := false }

/-- A mark between documents, or a directive: all block collections end. -/
def outermost? (token : Token) (outline : Outline) : Option Outline := do
  let outline ← outline.closeAll.forgetKey?
  some { outline.push token with keyAllowed := false }

/-- A block scalar; a key may begin after it, because it ends with its line. -/
def blockText? (text : String) (outline : Outline) : Option Outline := do
  let outline ← outline.forgetKey?
  some { outline.push (.scalar false text) with keyAllowed := true }

/-- An anchor, which gets the next number. -/
def anchor? (name : List Char) (g : Glyph) (outline : Outline) : Option Outline :=
  let slot := outline.anchors.length
  let others := outline.anchors.filter (·.1 ≠ name)
  { outline with anchors := (name, slot) :: others }.inline? (.anchor slot) g

/-- An alias for the last anchor of its name. -/
def alias? (name : List Char) (g : Glyph) (outline : Outline) : Option Outline := do
  outline.inline? (.aliasOf (← outline.anchors.lookup name)) g

/-! ## Reading -/

/-- Passes blanks, comments and line breaks. A tab is a blank only where no key may
begin, and after a line break a key may. -/
def passBlanks (inFlow keyAllowed inComment : Bool) : List Glyph → Bool × List Glyph
  | [] => (keyAllowed, [])
  | g :: rest =>
    if isBreak g.char then passBlanks inFlow (keyAllowed || !inFlow) false rest
    else if inComment then passBlanks inFlow keyAllowed true rest
    else if g.char == '#' then passBlanks inFlow keyAllowed true rest
    else if g.char == ' ' || (g.char == '\t' && (inFlow || !keyAllowed)) ||
        (g.char == byteOrderMark && g.column == 0) then
      passBlanks inFlow keyAllowed false rest
    else (keyAllowed, g :: rest)

/-- The characters that no plain scalar begins with, some exceptions apart. -/
def indicators : List Char :=
  "-?:,[]\x7b\x7d#&*!|>'\"%@`".toList

/-- A plain scalar. -/
def plainScalar? (g : Glyph) (rest : List Glyph) (outline : Outline) :
    Option (Outline × List Glyph) := do
  let around : Surroundings :=
    { inFlow := outline.inFlow, indentation := outline.columns.head?.elim 0 (· + 1) }
  let scalar ← plain? around (g :: rest)
  let outline ← outline.inline? (.scalar true scalar.text) g
  some ({ outline with keyAllowed := scalar.pastBreak }, scalar.rest)

/-- Reads the next token, which begins with the glyph. -/
def next? (g : Glyph) (rest : List Glyph) (outline : Outline) :
    Option (Outline × List Glyph) := do
  if g.char == '%' && g.column == 0 then
    let (token, rest) ← directive? rest
    some (← outline.outermost? token, rest)
  else if atDocumentStart (g :: rest) then
    some (← outline.outermost? .documentStart, rest.drop 2)
  else if atDocumentEnd (g :: rest) then
    some (← outline.outermost? .documentEnd, rest.drop 2)
  else if g.char == '[' then some (← outline.openFlow? .openSequence g, rest)
  else if g.char == '{' then some (← outline.openFlow? .openMapping g, rest)
  else if g.char == ']' then some (← outline.closeFlow? .closeSequence, rest)
  else if g.char == '}' then some (← outline.closeFlow? .closeMapping, rest)
  else if g.char == ',' then some (← outline.comma?, rest)
  else if g.char == '-' && endsWord rest then some (← outline.entry? g, rest)
  else if g.char == '?' && (outline.inFlow || endsWord rest) then
    some (← outline.keyMark? g, rest)
  else if g.char == ':' && (outline.inFlow || endsWord rest) then
    some (← outline.valueMark? g, rest)
  else if g.char == '*' then
    let (name, rest) ← anchorName? rest
    some (← outline.alias? name g, rest)
  else if g.char == '&' then
    let (name, rest) ← anchorName? rest
    some (← outline.anchor? name g, rest)
  else if g.char == '!' then
    let (token, rest) ← tag? outline.inFlow rest
    some (← outline.inline? token g, rest)
  else if (g.char == '|' || g.char == '>') && !outline.inFlow then
    let (text, rest) ← blockScalar? (g.char == '>') outline.columns.head? rest
    some (← outline.blockText? text, rest)
  else if g.char == '\'' then
    let (text, rest) ← singleQuoted? rest
    some (← outline.inline? (.scalar false text) g, rest)
  else if g.char == '"' then
    let (text, rest) ← doubleQuoted? rest
    some (← outline.inline? (.scalar false text) g, rest)
  else if isBlank g.char then none
  else if !indicators.contains g.char || g.char == '-' ||
      (!outline.inFlow && (g.char == '?' || g.char == ':')) then
    outline.plainScalar? g rest
  else none

/-- Reads tokens to the end of the text, at most so many. -/
def finish? (outline : Outline) : Nat → List Glyph → Option Outline
  | 0, _ => none
  | bound + 1, s =>
    match passBlanks outline.inFlow outline.keyAllowed false s with
    | (_, []) => outline.closeAll.forgetKey?
    | (keyAllowed, g :: rest) =>
      match ({ outline with keyAllowed }.forgetPastKeys? g).bind
          fun outline => (outline.closeTo g.column).next? g rest with
      | some (outline, rest) => finish? outline bound rest
      | none => none

end Outline

/-- The tokens of a text. -/
def tokens? (s : List Glyph) : Option (List Token) :=
  (Outline.finish? {} (s.length + 1) s).map fun outline => outline.tokens.reverse

end SchemaForms.Yaml
