/-
Number literals. A literal without fraction and exponent that fits 64 bits is an integer,
all others are doubles, `-0` among them.

A literal does not always give the nearest double. Its digits are taken up as long as
they fit 64 bits; further digits before the point only raise the exponent, further ones
after it are dropped. The digits taken are rounded to a double, and that is multiplied
or divided by a power of ten and rounded again. For most literals of up to fifteen
digits both roundings are exact; for `9007199254740993.0` they give
`9007199254740994.0`. A literal whose double would be infinite is no literal.
-/
import SchemaForms.Number.Basic

set_option autoImplicit false

namespace SchemaForms.Json

/-! ## Digits -/

def digitValue (c : Char) : Nat :=
  c.toNat - '0'.toNat

/-- Takes up digits before the point: the digits taken as a number, and how many were
left. -/
def takeWhole (taken : Nat) : List Char → Nat × Nat
  | [] => (taken, 0)
  | c :: rest =>
    let next := taken * 10 + digitValue c
    if next < wordBound then takeWhole next rest else (taken, rest.length + 1)

/-- Takes up digits after the point: the digits taken as a number, and how many of these
there were. -/
def takeFraction (taken : Nat) : List Char → Nat × Nat
  | [] => (taken, 0)
  | c :: rest =>
    let next := taken * 10 + digitValue c
    if next < wordBound then
      let (final, count) := takeFraction next rest
      (final, count + 1)
    else
      (taken, 0)

/-- The number that digits spell. -/
def natural (digits : List Char) : Nat :=
  digits.foldl (fun n c => n * 10 + digitValue c) 0

/-! ## Doubles -/

/-- Divides by `10^308` a number of times; zero stays zero. -/
def shrink (x : Double) : Nat → Option Double
  | 0 => some x
  | steps + 1 =>
    if x.isZero then some x
    else
      match x.overTen? 308 with
      | some y => shrink y steps
      | none => none

/-- Divides by `10^n`: by `10^308` as long as the rest of the exponent is above 308, then
by the rest. -/
def divideByTen (x : Double) (n : Nat) : Option Double :=
  let steps := (n - 1) / 308
  match shrink x steps with
  | some y => y.overTen? (n - 308 * steps)
  | none => none

/-- The double for digits and a power of ten: none if it would be infinite. -/
def scaled? (negative : Bool) (digits : Nat) (e : Int) : Option Double :=
  match Double.ofRatio? negative digits 1 with
  | none => none
  | some x =>
    if e < 0 then divideByTen x e.natAbs
    else if e ≤ 308 then x.timesTen? e.toNat
    else if x.isZero then some x
    else none

/-! ## Literals -/

/-- The number of a literal without fraction and exponent. -/
def wholeNumber? (negative : Bool) (digits : List Char) : Option Number :=
  let (taken, left) := takeWhole 0 digits
  let value : Int := if negative then -taken else taken
  if left = 0 ∧ ¬(negative ∧ taken = 0) then
    if fits : Fits64 value then some (.integer value fits)
    else (scaled? negative taken 0).map .double
  else
    (scaled? negative taken left).map .double

/-- The number of a literal with a fraction, which may be missing, and an exponent. -/
def decimalNumber? (negative : Bool) (whole fraction : List Char) (exponent : Int) :
    Option Number :=
  let (taken, left) := takeWhole 0 whole
  let (taken, places) := takeFraction taken fraction
  (scaled? negative taken (left - places + exponent)).map .double

/-- Splits off the digits a text begins with. -/
def spanDigits (s : List Char) : List Char × List Char :=
  s.span Char.isDigit

/-- The digits before the point: a zero that is not the only one may not lead. -/
def wholePart? (s : List Char) : Option (List Char × List Char) :=
  match spanDigits s with
  | ([], _) => none
  | ('0' :: _ :: _, _) => none
  | parts => some parts

/-- The fraction, if there is one: a point with at least one digit. -/
def fractionPart? : List Char → Option (Option (List Char) × List Char)
  | '.' :: rest =>
    match spanDigits rest with
    | ([], _) => none
    | (digits, rest) => some (some digits, rest)
  | rest => some (none, rest)

/-- The digits of an exponent with its sign read. -/
def exponentDigits? (negative : Bool) (s : List Char) : Option (Option Int × List Char) :=
  match spanDigits s with
  | ([], _) => none
  | (digits, rest) => some (some (if negative then -natural digits else natural digits), rest)

/-- The exponent, if there is one. -/
def exponentPart? : List Char → Option (Option Int × List Char)
  | c :: rest =>
    if c == 'e' || c == 'E' then
      match rest with
      | '+' :: rest => exponentDigits? false rest
      | '-' :: rest => exponentDigits? true rest
      | rest => exponentDigits? false rest
    else
      some (none, c :: rest)
  | [] => some (none, [])

/-- Reads a literal at the beginning of a text. -/
def number? (s : List Char) : Option (Number × List Char) := do
  let (negative, s) :=
    match s with
    | '-' :: rest => (true, rest)
    | _ => (false, s)
  let (whole, s) ← wholePart? s
  let (fraction, s) ← fractionPart? s
  let (exponent, s) ← exponentPart? s
  let number ←
    match fraction, exponent with
    | none, none => wholeNumber? negative whole
    | fraction, exponent =>
      decimalNumber? negative whole (fraction.getD []) (exponent.getD 0)
  return (number, s)

end SchemaForms.Json
