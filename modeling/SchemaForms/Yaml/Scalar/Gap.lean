/-
What stands between two words of a scalar. Blanks within a line are kept. A line break
is folded: blanks around it are dropped, a single one becomes a blank, and of several
the first is dropped. A separator of lines that is no line feed is not folded.
-/

set_option autoImplicit false

namespace SchemaForms.Yaml

inductive Gap where
  /-- Blanks within a line; none at all is such a gap too. -/
  | inline (blanks : List Char)
  /-- Breaks, the first apart; a break that was escaped does not count. -/
  | broken (first : Option Char) (others : List Char)

namespace Gap

def none : Gap := inline []

def isBroken : Gap → Bool
  | inline _ => false
  | broken _ _ => true

/-- The gap with a blank more. -/
def addBlank (char : Char) : Gap → Gap
  | inline blanks => inline (blanks ++ [char])
  | broken first others => broken first others

/-- The gap with a break more. -/
def addBreak (char : Char) : Gap → Gap
  | inline _ => broken (some char) []
  | broken first others => broken first (others ++ [char])

/-- What the gap leaves in the text. -/
def text : Gap → List Char
  | inline blanks => blanks
  | broken (some '\n') [] => [' ']
  | broken (some '\n') others => others
  | broken first others => first.toList ++ others

/-- A reversed text with a gap and a character more. -/
def close (gap : Gap) (taken : List Char) : List Char :=
  gap.text.reverse ++ taken

end Gap

end SchemaForms.Yaml
