/-
Finite doubles, exactly. The finite doubles of one sign are numbered in order of size:
number 0 is zero, number 1 the least positive double, and the last number belongs to
the greatest one. A double here is its sign and its number, so every value of the type
is a double and equal values are equal doubles.

The number of a double with significand `m` and exponent `q`, worth `m · 2^q`, is
`(q + 1074) · 2^52 + m`. The formula holds for subnormal and normal doubles alike, and
also when rounding carries a significand up to `2^53`: the sum is then the number of
the first double of the next binade. That is why `ofRatio?` can round without
normalising afterwards.

Nothing here is floating-point arithmetic. A quotient of natural numbers is rounded to
the nearest double, ties to the even significand, in exact integer arithmetic, and the
operations that text formats need are such quotients.
-/

set_option autoImplicit false

namespace SchemaForms

/-- How many doubles of one sign a binade holds, `2^52`. -/
abbrev binade : Nat := 4503599627370496

/-- A finite double: its sign, and its place among the doubles of that sign in order of
size. -/
structure Double where
  negative : Bool
  place : Nat
  finite : place < 2047 * binade := by decide
deriving DecidableEq

namespace Double

/-- Zero with the given sign. -/
def zero (negative : Bool) : Double :=
  { negative, place := 0 }

def isZero (x : Double) : Bool :=
  x.place == 0

/-- The significand `m` of `m · 2^q`. -/
def significand (x : Double) : Nat :=
  if x.place < binade then x.place else x.place % binade + binade

/-- The exponent `q` of `m · 2^q`. -/
def exponent (x : Double) : Int :=
  (max (x.place / binade) 1 : Nat) - 1075

/-- The double with the same magnitude and the given sign. -/
def withSign (x : Double) (negative : Bool) : Double :=
  { x with negative }

/-- Equality of values: the two zeros are equal. -/
def sameValue (x y : Double) : Bool :=
  x.place == y.place && (x.negative == y.negative || x.isZero)

/-! ## Rounding -/

/-- Multiplies by `2^e` and divides by it, whichever keeps both parts natural: the pair
stands for `numerator / denominator / 2^e`. -/
def unscale (numerator denominator : Nat) (e : Int) : Nat × Nat :=
  (numerator * Nat.pow 2 (-e).toNat, denominator * Nat.pow 2 e.toNat)

/-- The natural number nearest to a quotient; of two equally near, the even one. -/
def nearest (numerator denominator : Nat) : Nat :=
  let floor := numerator / denominator
  let twice := 2 * (numerator % denominator)
  if denominator < twice ∨ (denominator = twice ∧ floor % 2 = 1) then floor + 1 else floor

/-- The exponent that gives a quotient a significand of 53 bits, or the least exponent
there is. -/
def scaleOf (numerator denominator : Nat) : Int :=
  let guess : Int := max (-1074) ((numerator.log2 : Int) - denominator.log2 - 52)
  let (n, d) := unscale numerator denominator guess
  if n / d < binade ∧ -1074 < guess then guess - 1 else guess

/-- The double nearest to a quotient with a positive denominator, ties to the even
significand; none if that double would be infinite. -/
def ofRatio? (negative : Bool) (numerator denominator : Nat) : Option Double :=
  if numerator = 0 then some (zero negative)
  else
    let e := scaleOf numerator denominator
    let (n, d) := unscale numerator denominator e
    let place := (e + 1074).toNat * binade + nearest n d
    if finite : place < 2047 * binade then some { negative, place, finite } else none

/-! ## Decimals -/

/-- The double nearest to `digits · 10^e`; none if that double would be infinite. The
bounds on the size of the decimal keep the powers of ten small. -/
def ofDecimal? (negative : Bool) (digits : Nat) (e : Int) : Option Double :=
  let size : Int := (Nat.toDigits 10 digits).length + e
  if digits = 0 ∨ size < -330 then some (zero negative)
  else if 330 < size then none
  else ofRatio? negative (digits * Nat.pow 10 e.toNat) (Nat.pow 10 (-e).toNat)

/-- The magnitude as a quotient of natural numbers. -/
def ratio (x : Double) : Nat × Nat :=
  unscale x.significand 1 (-x.exponent)

/-- The double nearest to `10^n`, as a quotient. -/
def powerOfTen (n : Nat) : Nat × Nat :=
  match ofRatio? false (Nat.pow 10 n) 1 with
  | some power => power.ratio
  | none => (Nat.pow 10 n, 1)

/-- The double nearest to the product of the double and the double `10^n`. -/
def timesTen? (x : Double) (n : Nat) : Option Double :=
  let (a, b) := x.ratio
  let (c, d) := powerOfTen n
  ofRatio? x.negative (a * c) (b * d)

/-- The double nearest to the quotient of the double and the double `10^n`. -/
def overTen? (x : Double) (n : Nat) : Option Double :=
  let (a, b) := x.ratio
  let (c, d) := powerOfTen n
  ofRatio? x.negative (a * d) (b * c)

end Double

end SchemaForms
