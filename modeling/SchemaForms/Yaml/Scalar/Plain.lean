/-
Plain scalars: text without quotes. A plain scalar ends at a colon that ends a word, at
a comment, and in flow style at the characters that structure it. It goes on over line
breaks, as long as the lines stay indented deeper than what is around it, and up to a
mark between documents.
-/
import SchemaForms.Yaml.Glyph
import SchemaForms.Yaml.Scalar.Gap

set_option autoImplicit false

namespace SchemaForms.Yaml

/-- What a plain scalar has to know about its surroundings. -/
structure Surroundings where
  inFlow : Bool
  /-- The column in which the lines of a scalar begin, or a greater one. -/
  indentation : Nat

/-- A plain scalar that was read, and the glyphs after it. -/
structure PlainScalar where
  text : String
  /-- Was a line break passed after the last word? -/
  pastBreak : Bool
  rest : List Glyph

/-- Is the character one of those that structure flow style? -/
def isFlowIndicator (c : Char) : Bool :=
  c == ',' || c == '[' || c == ']' || c == '{' || c == '}'

/-- Does a plain scalar end in front of a glyph that follows a gap? -/
def endsAfterGap (around : Surroundings) (gap : Gap) (g : Glyph) (rest : List Glyph) : Bool :=
  match gap with
  | .inline [] => false
  | gap =>
    g.char == '#' || atDocumentStart (g :: rest) || atDocumentEnd (g :: rest) ||
      (gap.isBroken && !around.inFlow && g.column < around.indentation)

/-- Does a plain scalar end in front of this glyph, wherever it stands? -/
def endsAnywhere (around : Surroundings) (g : Glyph) (rest : List Glyph) : Bool :=
  (g.char == ':' && endsWord rest) || (around.inFlow && isFlowIndicator g.char)

/-- A colon in flow style that is followed by a structuring character is an error. -/
def misplacedColon (around : Surroundings) (g : Glyph) : List Glyph → Bool
  | next :: _ =>
    around.inFlow && g.char == ':' && (isFlowIndicator next.char || next.char == '?')
  | [] => false

/-- Goes on with a plain scalar: what was taken is reversed, and a gap follows it. -/
def plainFrom (around : Surroundings) (taken : List Char) (gap : Gap) :
    List Glyph → Option PlainScalar
  | [] => some { text := String.ofList taken.reverse, pastBreak := gap.isBroken, rest := [] }
  | g :: rest =>
    if isBlank g.char then
      -- A tab is no indentation.
      if gap.isBroken && g.char == '\t' && g.column < around.indentation then none
      else plainFrom around taken (gap.addBlank g.char) rest
    else if isBreak g.char then
      plainFrom around taken (gap.addBreak g.char) rest
    else if endsAfterGap around gap g rest then
      some { text := String.ofList taken.reverse, pastBreak := gap.isBroken, rest := g :: rest }
    else if misplacedColon around g rest then
      none
    else if endsAnywhere around g rest then
      some { text := String.ofList taken.reverse, pastBreak := gap.isBroken, rest := g :: rest }
    else
      plainFrom around (g.char :: gap.close taken) Gap.none rest

/-- Reads a plain scalar. -/
def plain? (around : Surroundings) (s : List Glyph) : Option PlainScalar :=
  plainFrom around [] Gap.none s

end SchemaForms.Yaml
