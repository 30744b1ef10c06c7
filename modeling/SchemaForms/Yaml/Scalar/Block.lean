/-
Block scalars: indented lines after a header. A literal scalar keeps its line breaks. A
folded one turns a break between two lines into a blank, unless one of them begins with
a blank itself; empty lines between them are kept. What the breaks at the end are worth
is up to the header: all of them, the first, or none.

The indentation is given in the header, relative to what is around the scalar, or found
out from the first line that is not empty.
-/
import SchemaForms.Text.Digits
import SchemaForms.Yaml.Glyph

set_option autoImplicit false

namespace SchemaForms.Yaml

namespace Block

/-! ## Header -/

/-- What becomes of the line breaks at the end. -/
inductive Ending where
  | strip
  | clip
  | keep
deriving DecidableEq

/-- What the header says. -/
structure Header where
  folded : Bool
  ending : Ending := .clip
  /-- The indentation relative to what is around the scalar. -/
  indentation : Option Nat := none

/-- Reads how the scalar ends, if the header says so. -/
def ending? : List Glyph → Option (Ending × List Glyph)
  | [] => none
  | g :: rest =>
    if g.char == '+' then some (.keep, rest)
    else if g.char == '-' then some (.strip, rest)
    else none

/-- Reads the digit of an indentation, if there is one; zero is an error. -/
def indentation? : List Glyph → Option (Option Nat × List Glyph)
  | [] => some (none, [])
  | g :: rest =>
    match Text.digit? 10 g.char with
    | none => some (none, g :: rest)
    | some 0 => none
    | some n => some (some n, rest)

/-- Reads a header after its first character. -/
def header? (folded : Bool) (s : List Glyph) : Option (Header × List Glyph) := do
  let (header, s) ←
    match ending? s with
    | some (ending, s) => do
      let (indentation, s) ← indentation? s
      pure ({ folded, ending, indentation : Header }, s)
    | none => do
      let (indentation, s) ← indentation? s
      match indentation, ending? s with
      | some n, some (ending, s) =>
        pure ({ folded, ending, indentation := some n : Header }, s)
      | indentation, _ => pure ({ folded, indentation : Header }, s)
  return (header, ← endLine? s)

/-! ## Indentation -/

/-- What comes in front of the first line that is not empty. -/
structure Margin where
  /-- The greatest column that blanks have led to. -/
  widest : Nat
  breaks : List Char
  rest : List Glyph

/-- Passes empty lines and the indentation of the first line that is not empty; a tab
cannot indent. -/
def margin? (widest : Nat) (breaks : List Char) : List Glyph → Option Margin
  | [] => some { widest, breaks, rest := [] }
  | g :: rest =>
    let widest := max widest g.column
    if g.char == ' ' then margin? widest breaks rest
    else if g.char == '\t' then none
    else if isBreak g.char then margin? widest (breaks ++ [g.char]) rest
    else some { widest, breaks, rest := g :: rest }

/-! ## Lines -/

/-- A block scalar that is being read. -/
structure Lines where
  /-- The text so far, backwards. -/
  taken : List Char := []
  /-- The break at the end of the last line. -/
  lineBreak : Option Char := none
  /-- The breaks of the empty lines after it. -/
  emptyLines : List Char := []
  /-- Did the last line begin with a blank? -/
  afterBlank : Bool := false

namespace Lines

/-- Goes on with a line that begins with the given character. -/
def beginLine (folded : Bool) (lines : Lines) (first : Char) : Lines :=
  let folds := folded && lines.lineBreak == some '\n' && !lines.afterBlank && !isBlank first
  let joint :=
    if !folds then lines.lineBreak.toList
    else if lines.emptyLines.isEmpty then [' ']
    else []
  { taken := first :: (joint ++ lines.emptyLines).reverse ++ lines.taken
    afterBlank := isBlank first }

/-- The text, with the breaks at its end as the header wants them. -/
def text (ending : Ending) (lines : Lines) : String :=
  let tail :=
    match ending with
    | .strip => []
    | .clip => lines.lineBreak.toList
    | .keep => lines.lineBreak.toList ++ lines.emptyLines
  String.ofList (lines.taken.reverse ++ tail)

end Lines

/-- Reads lines with the given indentation; `inLine` tells whether the indentation of the
present line has been passed. -/
def lines? (folded : Bool) (indentation : Nat) (inLine : Bool) (lines : Lines) :
    List Glyph → Option (Lines × List Glyph)
  | [] => some (lines, [])
  | g :: rest =>
    if inLine then
      if isBreak g.char then
        lines? folded indentation false { lines with lineBreak := some g.char } rest
      else
        lines? folded indentation true { lines with taken := g.char :: lines.taken } rest
    else if isBreak g.char then
      lines? folded indentation false
        { lines with emptyLines := lines.emptyLines ++ [g.char] } rest
    else if g.column < indentation then
      if g.char == ' ' then lines? folded indentation false lines rest
      else if g.char == '\t' then none
      else some (lines, g :: rest)
    else
      lines? folded indentation true (lines.beginLine folded g.char) rest

end Block

/-- Reads a block scalar after its first character. The column around it is none at the
outermost level. -/
def blockScalar? (folded : Bool) (around : Option Nat) (s : List Glyph) :
    Option (String × List Glyph) := do
  let (header, s) ← Block.header? folded s
  match header.indentation with
  | some n =>
    let (lines, rest) ← Block.lines? folded (around.getD 0 + n) false {} s
    return (lines.text header.ending, rest)
  | none =>
    let margin ← Block.margin? 0 [] s
    let indentation := max margin.widest (max (around.elim 0 (· + 1)) 1)
    let (lines, rest) ←
      Block.lines? folded indentation false { emptyLines := margin.breaks } margin.rest
    return (lines.text header.ending, rest)

end SchemaForms.Yaml
