/-
Numbers as the documents hold them. A number written without fraction and exponent that
fits 64 bits, signed or unsigned, is an integer; every other number is a double. The two
kinds stay apart: `1` and `1.0` are different numbers, printed differently.

The text of a double has the fewest digits that read back. It is positional where the
leading digit stands between the fifth place after the point and the sixteenth before
it, and then always has a point; outside it is scientific, with the sign of the exponent
written. These choices are the record `NumberText.standard`.
-/
import SchemaForms.Number.Shortest

set_option autoImplicit false

namespace SchemaForms

/-- The first natural number that does not fit 64 bits, `2^64`. -/
abbrev wordBound : Nat := 18446744073709551616

/-- Does the integer fit 64 bits, signed or unsigned? -/
abbrev Fits64 (n : Int) : Prop :=
  -9223372036854775808 ≤ n ∧ n < wordBound

/-- A number of a document. -/
inductive Number where
  | integer (value : Int) (fits : Fits64 value := by decide)
  | double (value : Double)
deriving DecidableEq

/-! ## Text -/

/-- How doubles are written: the exponents of the leading digit that give a positional
text are those from `least` to `greatest`. -/
structure NumberText where
  least : Int
  greatest : Int

namespace NumberText

/-- From `0.00001` up to `1000000000000000.0` a double is positional. -/
def standard : NumberText :=
  { least := -5, greatest := 15 }

/-- Digits with a point after the first `before` of them, and zeros where digits are
missing. -/
def positional (digits : List Char) (before : Int) : String :=
  let count : Int := digits.length
  if before ≤ 0 then
    "0." ++ String.ofList (List.replicate (-before).toNat '0' ++ digits)
  else if count ≤ before then
    String.ofList (digits ++ List.replicate (before - count).toNat '0') ++ ".0"
  else
    String.ofList (digits.take before.toNat) ++ "." ++ String.ofList (digits.drop before.toNat)

/-- Digits with a point after the first, and the exponent of the first. -/
def scientific (digits : List Char) (exponent : Int) : String :=
  let mantissa :=
    match digits with
    | first :: second :: rest => String.ofList (first :: '.' :: second :: rest)
    | _ => String.ofList digits
  let sign := if exponent < 0 then "-" else "+"
  mantissa ++ "e" ++ sign ++ toString exponent.natAbs

/-- The text of a double's magnitude. -/
def magnitude (format : NumberText) (x : Double) : String :=
  if x.isZero then "0.0"
  else
    let decimal := x.shortest
    let digits := Nat.toDigits 10 decimal.digits
    let leading := decimal.exponent + digits.length - 1
    if format.least ≤ leading ∧ leading ≤ format.greatest then
      positional digits (leading + 1)
    else
      scientific digits leading

end NumberText

namespace Number

/-- The number as text. -/
def text : Number → String
  | .integer n _ => toString n
  | .double x =>
    (if x.negative then "-" else "") ++ NumberText.standard.magnitude x

/-- Equal as values: integers with integers, doubles with doubles. -/
def sameValue : Number → Number → Bool
  | .integer m _, .integer n _ => m == n
  | .double x, .double y => x.sameValue y
  | _, _ => false

end Number

end SchemaForms
