/-
What a scalar stands for. A scalar that is not plain is a text. A plain one is looked at
as null, as a truth value, as an integer and as a decimal, in this order, and is a text
if it is none of them. A tag of the standard kinds fixes which of these it has to be,
and any other global tag makes it a text. Tags of a document's own are errors; one that
only begins like these, and cannot be read, says nothing.

Integers are written in radix ten, or in radix two, eight or sixteen after `0b`, `0o`
and `0x`; digits in radix ten with a needless zero in front are a text. Integers that
do not fit 64 bits but 128 are errors, greater ones are decimals. Infinities and what
is not a number become null.
-/
import SchemaForms.Json.Basic
import SchemaForms.Json.Literal
import SchemaForms.Text.Digits
import SchemaForms.Yaml.Tag

set_option autoImplicit false

namespace SchemaForms.Yaml

/-! ## Null and truth values -/

def isNull (s : String) : Bool :=
  ["null", "Null", "NULL", "~"].contains s

def truth? (s : String) : Option Bool :=
  if ["true", "True", "TRUE"].contains s then some true
  else if ["false", "False", "FALSE"].contains s then some false
  else none

/-! ## Integers -/

/-- Are these digits of which the first is a zero and not the only one? -/
def hasNeedlessZero : List Char → Bool
  | '0' :: c :: rest => (c :: rest).all Char.isDigit
  | _ => false

/-- The integer that a text without a sign spells. -/
def magnitude? : List Char → Option Nat
  | '0' :: 'x' :: rest => Text.natural? 16 rest
  | '0' :: 'o' :: rest => Text.natural? 8 rest
  | '0' :: 'b' :: rest => Text.natural? 2 rest
  | s => if hasNeedlessZero s then none else Text.natural? 10 s

/-- The integer that a text spells, as long as it fits 128 bits. -/
def integer? : List Char → Option Int
  | '-' :: rest => ((magnitude? rest).filter (· ≤ Nat.pow 2 127)).map fun n => -n
  | '+' :: rest => ((magnitude? rest).filter (· < Nat.pow 2 128)).map fun n => n
  | rest => ((magnitude? rest).filter (· < Nat.pow 2 128)).map fun n => n

/-- An integer as a value: an error if it does not fit 64 bits. -/
def ofInteger? (n : Int) : Option Json :=
  if fits : Fits64 n then some (.number (.integer n fits)) else none

/-! ## Decimals -/

/-- The digits of an exponent with its sign. -/
def exponent? : List Char → Option Int
  | '-' :: rest => (Text.natural? 10 rest).map fun n => -n
  | '+' :: rest => (Text.natural? 10 rest).map fun n => n
  | rest => (Text.natural? 10 rest).map fun n => n

/-- The digits around the point, and what follows them. -/
def decimalDigits? (s : List Char) : Option (List Char × List Char × List Char) :=
  let (whole, rest) := Json.spanDigits s
  let (fraction, rest) :=
    match rest with
    | '.' :: rest => Json.spanDigits rest
    | rest => ([], rest)
  if whole.isEmpty && fraction.isEmpty then none else some (whole, fraction, rest)

/-- The double that a text without a sign spells, rounded once. -/
def magnitudeDouble? (negative : Bool) (s : List Char) : Option Double := do
  let (whole, fraction, rest) ← decimalDigits? s
  let e ←
    match rest with
    | [] => some 0
    | c :: rest => if c == 'e' || c == 'E' then exponent? rest else none
  Double.ofDecimal? negative (Json.natural (whole ++ fraction)) (e - fraction.length)

/-- The double that a text spells; none if it would be infinite. -/
def double? : List Char → Option Double
  | '-' :: rest => magnitudeDouble? true rest
  | '+' :: rest => magnitudeDouble? false rest
  | rest => magnitudeDouble? false rest

/-- Texts for infinities and for what is not a number. -/
def notFinite : List String :=
  [".inf", ".Inf", ".INF", "+.inf", "+.Inf", "+.INF", "-.inf", "-.Inf", "-.INF",
    ".nan", ".NaN", ".NAN"]

/-- The decimal that a text spells. -/
def decimal? (s : String) : Option Json :=
  if notFinite.contains s then some .null
  else (double? s.toList).map fun x => .number (.double x)

/-! ## Scalars -/

/-- Are these digits, with or without a sign, that do not spell a number? -/
def isDigitText : List Char → Bool
  | c :: rest => hasNeedlessZero (if c == '+' || c == '-' then rest else c :: rest)
  | [] => false

/-- What a plain scalar stands for by itself. -/
def plainValue? (s : String) : Option Json :=
  if s = "" ∨ isNull s then some .null
  else
    match truth? s, integer? s.toList with
    | some b, _ => some (.bool b)
    | none, some n => ofInteger? n
    | none, none =>
      if isDigitText s.toList then some (.string s)
      else some ((decimal? s).getD (.string s))

/-- The kinds of scalars that a tag can ask for. -/
def standardTag (kind : String) : List Char :=
  "tag:yaml.org,2002:".toList ++ kind.toList

/-- The value of a scalar without a tag. -/
def untaggedValue? (plain : Bool) (s : String) : Option Json :=
  if plain then plainValue? s else some (.string s)

/-- The value of a scalar with a tag. -/
def taggedValue? (tag : List Char) (plain : Bool) (s : String) : Option Json :=
  if tag = standardTag "bool" then (truth? s).map .bool
  else if tag = standardTag "int" then (integer? s.toList).bind ofInteger?
  else if tag = standardTag "float" then decimal? s
  else if tag = standardTag "null" then if isNull s then some .null else none
  else if isOwnTag tag then none
  else if tag.head? = some '!' then untaggedValue? plain s
  else some (.string s)

/-- The value of a scalar. -/
def scalarValue? (tag : Option (List Char)) (plain : Bool) (s : String) : Option Json :=
  match tag with
  | some tag => taggedValue? tag plain s
  | none => untaggedValue? plain s

end SchemaForms.Yaml
