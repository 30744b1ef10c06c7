/-
Rounding finds the double that is near. A rational is near a double when it lies between
the midpoints to the double's neighbours, and on a midpoint only when the significand is
even (`Double.Near`). That is a statement about rationals alone; `standsFor` decides it
for decimals (`standsFor_iff`), and `ofRatio?` gives back the one double that a quotient
is near to (`ofRatio?_of_near`).

The second needs that `scaleOf` finds the binade of the quotient. It may find the binade
below that of the double: at the very beginning of a binade the reals that round to the
first double reach down into the binade before, and there the quotient is rounded up to
the end of that binade, which is the same place.
-/
import Mathlib.Algebra.Order.Field.Power
import Mathlib.Data.Rat.Cast.Order
import Mathlib.Tactic.Linarith
import Mathlib.Tactic.Ring
import SchemaForms.Number.Shortest

set_option autoImplicit false

namespace SchemaForms.Double

/-! ## Powers of two and of ten -/

theorem two_zpow_pos (e : Int) : (0 : ℚ) < 2 ^ e :=
  zpow_pos (by norm_num) e

theorem two_zpow_add (e : Int) (k : Nat) : (2 : ℚ) ^ (e + k) = 2 ^ e * 2 ^ k := by
  rw [zpow_add₀ (by norm_num), zpow_natCast]

theorem two_zpow_le {e f : Int} (h : e ≤ f) : (2 : ℚ) ^ e ≤ 2 ^ f :=
  zpow_le_zpow_right₀ (by norm_num) h

/-- The first significand of a binade, in a given place. -/
theorem binade_mul (e : Int) : ((binade : Nat) : ℚ) * 2 ^ e = 2 ^ (e + 52) := by
  rw [show e + 52 = e + (52 : Nat) by omega, two_zpow_add]
  norm_num
  ring

/-- A quotient times a power of any base, with natural numbers above and below. -/
theorem scaled_div (base n d : Nat) (e : Int) :
    ((n * Nat.pow base e.toNat : Nat) : ℚ) / (d * Nat.pow base (-e).toNat : Nat) =
      n / d * (base : ℚ) ^ e := by
  simp only [Nat.pow_eq, Nat.cast_mul, Nat.cast_pow]
  rcases Int.le_total 0 e with h | h
  · have hneg : (-e).toNat = 0 := by omega
    have hpos : (e.toNat : Int) = e := Int.toNat_of_nonneg h
    rw [hneg, pow_zero, mul_one, ← zpow_natCast, hpos]
    ring
  · have hpos : e.toNat = 0 := by omega
    have hneg : ((-e).toNat : Int) = -e := Int.toNat_of_nonneg (by omega)
    rw [hpos, pow_zero, mul_one, ← zpow_natCast, hneg, zpow_neg, div_mul_eq_div_div,
      div_inv_eq_mul]

/-- Unscaling divides by the power of two. -/
theorem unscale_div (n d : Nat) (e : Int) :
    ((unscale n d e).1 : ℚ) / (unscale n d e).2 = n / d / (2 : ℚ) ^ e := by
  have hscaled := scaled_div 2 n d (-e)
  rw [neg_neg, Nat.cast_ofNat, zpow_neg, ← div_eq_mul_inv] at hscaled
  exact hscaled

/-! ## The nearest natural number -/

/-- What decides the nearest natural number: being at most a half away, and less than a
half if it is odd. -/
theorem nearest_eq {n d m : Nat} (hlow : 2 * m * d ≤ 2 * n + d) (hhigh : 2 * n ≤ 2 * m * d + d)
    (hodd : m % 2 = 1 → 2 * m * d < 2 * n + d ∧ 2 * n < 2 * m * d + d) (hd : 0 < d) :
    nearest n d = m := by
  have hsplit : d * (n / d) + n % d = n := Nat.div_add_mod n d
  have hrest : n % d < d := Nat.mod_lt n hd
  simp only [nearest]
  generalize n / d = floor at *
  generalize n % d = rest at *
  -- A number a half away is the floor or the one above it.
  have hle : floor ≤ m := by
    by_contra hlt
    have hstep : d * (m + 1) ≤ d * floor := Nat.mul_le_mul_left d (by omega)
    nlinarith
  have hge : m ≤ floor + 1 := by
    by_contra hlt
    have hstep : d * (floor + 2) ≤ d * m := Nat.mul_le_mul_left d (by omega)
    nlinarith
  rcases Nat.eq_or_lt_of_le hle with rfl | hlt
  · have htwice : 2 * rest ≤ d := by nlinarith
    have htie : floor % 2 = 1 → 2 * rest < d := fun h => by nlinarith [hodd h]
    rw [if_neg]
    omega
  · obtain rfl : m = floor + 1 := by omega
    have htwice : d ≤ 2 * rest := by nlinarith
    have htie : (floor + 1) % 2 = 1 → d < 2 * rest := fun h => by nlinarith [hodd h]
    rw [if_pos]
    omega

/-- The same from the quotient as a rational. -/
theorem nearest_eq_of_div {n d m : Nat} (hd : 0 < d) (hlow : (m : ℚ) - 1 / 2 ≤ n / d)
    (hhigh : (n : ℚ) / d ≤ m + 1 / 2)
    (hodd : m % 2 = 1 → (m : ℚ) - 1 / 2 < n / d ∧ (n : ℚ) / d < m + 1 / 2) :
    nearest n d = m := by
  have hpos : (0 : ℚ) < d := Nat.cast_pos.2 hd
  rw [le_div_iff₀ hpos] at hlow
  rw [div_le_iff₀ hpos] at hhigh
  rw [lt_div_iff₀ hpos, div_lt_iff₀ hpos] at hodd
  refine nearest_eq ?_ ?_ (fun h => ⟨?_, ?_⟩) hd
  · have hcast : (2 : ℚ) * m * d ≤ 2 * n + d := by linarith
    exact_mod_cast hcast
  · have hcast : (2 : ℚ) * n ≤ 2 * m * d + d := by linarith
    exact_mod_cast hcast
  · have hcast : (2 : ℚ) * m * d < 2 * n + d := by linarith [(hodd h).1]
    exact_mod_cast hcast
  · have hcast : (2 : ℚ) * n < 2 * m * d + d := by linarith [(hodd h).2]
    exact_mod_cast hcast

/-- The nearest natural number is at most a half away. -/
theorem nearest_close (n : Nat) {d : Nat} (hd : 0 < d) :
    2 * nearest n d * d ≤ 2 * n + d ∧ 2 * n ≤ 2 * nearest n d * d + d := by
  have hsplit : d * (n / d) + n % d = n := Nat.div_add_mod n d
  have hrest : n % d < d := Nat.mod_lt n hd
  simp only [nearest]
  generalize n / d = floor at *
  generalize n % d = rest at *
  split
  · have htwice : d ≤ 2 * rest := by omega
    constructor <;> nlinarith
  · have htwice : 2 * rest ≤ d := by omega
    constructor <;> nlinarith

/-! ## The scale of a quotient -/

/-- The logarithms give the quotient up to a factor of two either way. -/
theorem div_lt_two_zpow (n : Nat) {d : Nat} (hd : 0 < d) :
    (n : ℚ) / d < 2 ^ ((n.log2 : Int) - d.log2 + 1) := by
  have hn' : (n : ℚ) < 2 ^ ((n.log2 : Int) + 1) := by
    exact_mod_cast Nat.lt_log2_self (n := n)
  have hd' : (2 : ℚ) ^ (d.log2 : Int) ≤ d := by
    exact_mod_cast Nat.log2_self_le hd.ne'
  rw [div_lt_iff₀ (Nat.cast_pos.2 hd)]
  calc (n : ℚ) < 2 ^ ((n.log2 : Int) + 1) := hn'
    _ = 2 ^ ((n.log2 : Int) - d.log2 + 1) * 2 ^ (d.log2 : Int) := by
      rw [← zpow_add₀ (by norm_num)]
      congr 1
      omega
    _ ≤ 2 ^ ((n.log2 : Int) - d.log2 + 1) * d :=
      mul_le_mul_of_nonneg_left hd' (two_zpow_pos _).le

theorem two_zpow_lt_div {n d : Nat} (hn : 0 < n) (hd : 0 < d) :
    (2 : ℚ) ^ ((n.log2 : Int) - d.log2 - 1) < n / d := by
  have hn' : (2 : ℚ) ^ (n.log2 : Int) ≤ n := by
    exact_mod_cast Nat.log2_self_le hn.ne'
  have hd' : (d : ℚ) < 2 ^ ((d.log2 : Int) + 1) := by
    exact_mod_cast Nat.lt_log2_self (n := d)
  rw [lt_div_iff₀ (Nat.cast_pos.2 hd)]
  calc (2 : ℚ) ^ ((n.log2 : Int) - d.log2 - 1) * d
      < 2 ^ ((n.log2 : Int) - d.log2 - 1) * 2 ^ ((d.log2 : Int) + 1) :=
        mul_lt_mul_of_pos_left hd' (two_zpow_pos _)
    _ = 2 ^ (n.log2 : Int) := by
      rw [← zpow_add₀ (by norm_num)]
      congr 1
      omega
    _ ≤ n := hn'

/-- Whether the whole part at a scale reaches a bound shows in the quotient. -/
theorem unscale_lt_iff (n : Nat) {d : Nat} (hd : 0 < d) (e : Int) (bound : Nat) :
    (unscale n d e).1 / (unscale n d e).2 < bound ↔ (n : ℚ) / d < bound * 2 ^ e := by
  have hpos : 0 < (unscale n d e).2 := Nat.mul_pos hd (Nat.pow_pos (by norm_num))
  rw [Nat.div_lt_iff_lt_mul hpos, ← div_lt_iff₀ (two_zpow_pos e), ← unscale_div,
    div_lt_iff₀ (Nat.cast_pos.2 hpos)]
  exact_mod_cast Iff.rfl

/-- The binade of a quotient: its scale gives it 53 bits before the point, unless the
scale is the least there is. -/
theorem scaleOf_spec {n d : Nat} (hn : 0 < n) (hd : 0 < d) :
    -1074 ≤ scaleOf n d ∧ (n : ℚ) / d < 2 ^ (scaleOf n d + 53) ∧
      (-1074 < scaleOf n d → (2 : ℚ) ^ (scaleOf n d + 52) ≤ n / d) := by
  have hupper := div_lt_two_zpow n hd
  have hlower := two_zpow_lt_div hn hd
  simp only [scaleOf]
  generalize hguess : max (-1074) ((n.log2 : Int) - d.log2 - 52) = guess
  simp only [unscale_lt_iff n hd, binade_mul]
  split
  · -- The guess is one too high, which its own digits tell.
    rename_i hsmall
    refine ⟨by omega, ?_, fun _ => ?_⟩
    · rw [show guess - 1 + 53 = guess + 52 by omega]
      exact hsmall.1
    · rw [show guess - 1 + 52 = (n.log2 : Int) - d.log2 - 1 by omega]
      exact hlower.le
  · rename_i hlarge
    refine ⟨by omega, hupper.trans_le (two_zpow_le (by omega)), fun hguess' => ?_⟩
    rw [← not_lt]
    exact fun hsmall => hlarge ⟨hsmall, hguess'⟩

/-! ## Doubles and the rationals that round to them -/

/-- The rational is one of those that round to the size of the double. Its distance is
taken in units of the last place; the lower midpoint is a quarter or a half away. -/
structure Near (x : Double) (r : ℚ) : Prop where
  low : x.significand - (x.lowerGap : ℚ) / 4 ≤ r / (2 : ℚ) ^ x.exponent
  high : r / (2 : ℚ) ^ x.exponent ≤ x.significand + 1 / 2
  odd : x.significand % 2 = 1 →
    x.significand - (x.lowerGap : ℚ) / 4 < r / (2 : ℚ) ^ x.exponent ∧
      r / (2 : ℚ) ^ x.exponent < x.significand + 1 / 2

/-- How the significand and the exponent of a double make up its place. -/
theorem place_eq (x : Double) :
    x.place = (x.exponent + 1074).toNat * binade + x.significand ∧ -1074 ≤ x.exponent ∧
      x.significand < 2 * binade ∧ (-1074 < x.exponent → binade ≤ x.significand) := by
  simp only [significand, exponent, binade]
  split <;> omega

/-- The neighbour below is nearer at the beginning of a binade. -/
theorem lowerGap_eq (x : Double) :
    x.lowerGap = if x.significand = binade ∧ -1074 < x.exponent then 1 else 2 := by
  have hiff : 2 * binade ≤ x.place ↔ -1074 < x.exponent := by
    simp only [exponent, binade]
    omega
  simp only [lowerGap, hiff]

theorem lowerGap_le (x : Double) : x.lowerGap ≤ 2 := by
  rw [lowerGap]
  split <;> omega

/-- Only zero is near to zero. -/
theorem Near.place_eq_zero {x : Double} (h : x.Near 0) : x.place = 0 := by
  obtain ⟨hplace, hleast, -, hnormal⟩ := x.place_eq
  have hgap : (x.lowerGap : ℚ) ≤ 2 := by exact_mod_cast x.lowerGap_le
  have hlow := h.low
  rw [zero_div] at hlow
  have hless : (x.significand : ℚ) < 1 := by linarith
  have hnone : x.significand < 1 := by exact_mod_cast hless
  have hexponent : x.exponent = -1074 := by
    by_contra hne
    have hbinade : 1 ≤ x.significand := le_trans (by decide) (hnormal (by omega))
    omega
  rw [hplace, hexponent]
  change 0 * binade + x.significand = 0
  omega

/-- The scale of a quotient that is near to a double is the exponent of the double, or
one less when the quotient is below a double at the beginning of a binade. -/
theorem Near.scale {x : Double} {r : ℚ} (h : x.Near r) {e : Int} (hleast : -1074 ≤ e)
    (hupper : r < 2 ^ (e + 53)) (hlower : -1074 < e → (2 : ℚ) ^ (e + 52) ≤ r) :
    e = x.exponent ∨
      e = x.exponent - 1 ∧ x.significand = binade ∧
        (x.significand : ℚ) - 1 / 4 ≤ r / (2 : ℚ) ^ x.exponent := by
  obtain ⟨-, hleastExponent, hgreatest, hnormal⟩ := x.place_eq
  have hgap : (x.lowerGap : ℚ) ≤ 2 := by exact_mod_cast x.lowerGap_le
  have hunit := two_zpow_pos x.exponent
  have hlow := h.low
  have hhigh := h.high
  -- Comparing the quotient with powers of two, in units of the last place.
  have hbelow : ∀ k : Nat, e + 53 ≤ x.exponent + k → r / (2 : ℚ) ^ x.exponent < 2 ^ k := by
    intro k hk
    rw [div_lt_iff₀ hunit, mul_comm, ← two_zpow_add]
    exact hupper.trans_le (two_zpow_le hk)
  have hle : e ≤ x.exponent := by
    by_contra hlt
    have habove : (2 : ℚ) ^ 53 ≤ r / (2 : ℚ) ^ x.exponent := by
      rw [le_div_iff₀ hunit, mul_comm, ← two_zpow_add]
      exact (two_zpow_le (by omega)).trans (hlower (by omega))
    have hsignificand : (x.significand : ℚ) + 1 ≤ 2 ^ 53 := by
      have hnat : x.significand + 1 ≤ 2 ^ 53 := hgreatest
      exact_mod_cast hnat
    linarith
  rcases hle.eq_or_lt with heq | hlt
  · exact Or.inl heq
  · have hfull : binade ≤ x.significand := hnormal (by omega)
    have hfull' : (2 : ℚ) ^ 52 ≤ x.significand := by
      have hnat : 2 ^ 52 ≤ x.significand := hfull
      exact_mod_cast hnat
    have hfirst : x.significand = binade := by
      have hless : (x.significand : ℚ) < 2 ^ 52 + 1 := by linarith [hbelow 52 (by omega)]
      have hnat : x.significand < 2 ^ 52 + 1 := by exact_mod_cast hless
      exact Nat.le_antisymm (Nat.lt_succ_iff.1 hnat) hfull
    have hquarter : x.lowerGap = 1 := by
      rw [lowerGap_eq, if_pos ⟨hfirst, by omega⟩]
    rw [hquarter, Nat.cast_one] at hlow
    refine Or.inr ⟨?_, hfirst, hlow⟩
    by_contra hne
    have hless := hbelow 51 (by omega)
    linarith

/-- At the exponent of a double, a quotient near to it is nearest to its significand. -/
theorem Near.nearest_eq {x : Double} {n d : Nat} (hd : 0 < d) (h : x.Near (n / d)) :
    nearest (unscale n d x.exponent).1 (unscale n d x.exponent).2 = x.significand := by
  have hgap : (x.lowerGap : ℚ) ≤ 2 := by exact_mod_cast x.lowerGap_le
  have hpos : 0 < (unscale n d x.exponent).2 := Nat.mul_pos hd (Nat.pow_pos (by decide))
  refine nearest_eq_of_div hpos ?_ ?_ fun hodd => ?_
  · rw [unscale_div]
    linarith [h.low]
  · rw [unscale_div]
    exact h.high
  · rw [unscale_div]
    exact ⟨by linarith [(h.odd hodd).1], (h.odd hodd).2⟩

/-- One exponent lower everything is twice as much, and a quotient in that binade which is
near to the first double of the next one is rounded up to the end of its own. -/
theorem nearest_eq_end {x : Double} {n d : Nat} (hd : 0 < d) {e : Int}
    (hscale : e = x.exponent - 1) (hfirst : x.significand = binade)
    (hupper : (n : ℚ) / d < 2 ^ (e + 53))
    (hbelow : (x.significand : ℚ) - 1 / 4 ≤ n / d / (2 : ℚ) ^ x.exponent) :
    nearest (unscale n d e).1 (unscale n d e).2 = 2 * binade := by
  have hpos : 0 < (unscale n d e).2 := Nat.mul_pos hd (Nat.pow_pos (by decide))
  have htwice : (n : ℚ) / d / 2 ^ e = 2 * (n / d / 2 ^ x.exponent) := by
    rw [hscale, zpow_sub_one₀ (by decide)]
    ring
  have hend : (n : ℚ) / d / 2 ^ e < 2 ^ 53 := by
    rw [div_lt_iff₀ (two_zpow_pos _), mul_comm, ← two_zpow_add]
    exact hupper
  have hbinade : (x.significand : ℚ) = 2 ^ 52 := by
    rw [hfirst]
    norm_num
  refine nearest_eq_of_div hpos ?_ ?_ fun hodd => absurd hodd (by decide)
  · rw [unscale_div, htwice]
    norm_num at hbinade ⊢
    linarith
  · rw [unscale_div]
    norm_num at hend ⊢
    linarith

/-- **Rounding finds the double.** A quotient that is near to a double rounds to it. -/
theorem ofRatio?_of_near {x : Double} {n d : Nat} (hd : 0 < d) (h : x.Near (n / d))
    (negative : Bool) : ofRatio? negative n d = some (x.withSign negative) := by
  rw [ofRatio?]
  split
  · rename_i hzero
    rw [hzero, Nat.cast_zero, zero_div] at h
    simp only [zero, withSign, h.place_eq_zero]
  · rename_i hpositive
    obtain ⟨hleast, hupper, hlower⟩ := scaleOf_spec (Nat.pos_of_ne_zero hpositive) hd
    have hplace := x.place_eq
    have hround : (scaleOf n d + 1074).toNat * binade +
        nearest (unscale n d (scaleOf n d)).1 (unscale n d (scaleOf n d)).2 = x.place := by
      rcases h.scale hleast hupper hlower with hscale | ⟨hscale, hfirst, hbelow⟩
      · rw [hscale, h.nearest_eq hd, hplace.1]
      · -- The end of a binade is the beginning of the next.
        rw [nearest_eq_end hd hscale hfirst hupper hbelow, hscale]
        simp only [binade] at *
        omega
    simp only [hround, dif_pos x.finite, withSign]

end SchemaForms.Double
