/-
The shortest decimal of a double. A decimal `d · 10^k` stands for a double when it lies
among the reals that round to the double: between the midpoints to the two neighbours,
the midpoints included when the significand is even. Of the decimals that do, the text
of the double is one with the fewest digits, and of those the nearest to the double.

The search goes through the grids `10^k` from coarse to fine, one digit more each time,
and begins with the power of ten above the double, which may itself stand for it. If any
point of a grid stands for the double, then one of the two grid points around the double
does, because the reals that round to it form an interval that holds it; so each grid
needs two tests. Seventeen digits tell all doubles apart, which ends the search.
-/
import SchemaForms.Number.Double

set_option autoImplicit false

namespace SchemaForms

/-- The decimal `digits · 10^exponent`. -/
structure Decimal where
  digits : Nat
  exponent : Int
deriving DecidableEq

namespace Double

/-- Twice the distance to the lower midpoint, in quarters of the last place: the
neighbour below the first double of a binade is only half as far. -/
def lowerGap (x : Double) : Nat :=
  if x.significand = binade ∧ 2 * binade ≤ x.place then 1 else 2

/-- Does `digits · 10^k` round to the magnitude of the double? -/
def standsFor (x : Double) (digits : Nat) (k : Int) : Bool :=
  -- Both sides in quarters of the last place, over a common denominator.
  let (n, d) := unscale (digits * Nat.pow 10 k.toNat) (Nat.pow 10 (-k).toNat) (x.exponent - 2)
  let low := (4 * x.significand - x.lowerGap) * d
  let high := (4 * x.significand + 2) * d
  if x.significand % 2 = 0 then low ≤ n && n ≤ high else low < n && n < high

/-- The exponent of the leading decimal digit of a positive quotient. -/
def leadingExponent (numerator denominator : Nat) : Int :=
  if denominator ≤ numerator then
    (Nat.toDigits 10 (numerator / denominator)).length - 1
  else
    -(Nat.toDigits 10 ((denominator - 1) / numerator)).length

/-- The grid point that stands for the double, if one does: the nearer of two, and of
two equally near the even one. -/
def onGrid? (x : Double) (k : Int) : Option Decimal :=
  let (a, b) := x.ratio
  let n := a * Nat.pow 10 (-k).toNat
  let d := b * Nat.pow 10 k.toNat
  let below := n / d
  let first := nearest n d
  let second := if first = below then below + 1 else below
  if x.standsFor first k then some ⟨first, k⟩
  else if x.standsFor second k then some ⟨second, k⟩
  else none

/-- Searches the grid `10^k` and, while none of its points stands for the double, the
`finer` grids that follow it. -/
def searchGrids (x : Double) (k : Int) : Nat → Decimal
  | 0 => (x.onGrid? k).getD ⟨0, 0⟩
  | finer + 1 =>
    match x.onGrid? k with
    | some decimal => decimal
    | none => searchGrids x (k - 1) finer

/-- The shortest decimal of the double's magnitude. -/
def shortest (x : Double) : Decimal :=
  if x.isZero then ⟨0, 0⟩
  else
    let (a, b) := x.ratio
    searchGrids x (leadingExponent a b + 1) 17

end Double

end SchemaForms
