/-
The shortest decimal of a double rounds to the double. The search for it goes from
coarse grids to fine ones and takes the first grid with a point that stands for the
double, so all there is to show is that it does not come to its end without one.

It does not: on the last grid the points are so close that the one nearest to the double
stands for it. A double lies below `2^53` units of its last place, and the last grid is
at least `10^16` times finer than the double, so the nearest point is away by at most
`2^53 / 10^16 / 2` units, which is less than a half; and at the beginning of a binade,
where the lower midpoint is only a quarter away, by half of that.
-/
import Mathlib.Tactic.Positivity
import SchemaForms.Proofs.Number.Rounding

set_option autoImplicit false

namespace SchemaForms

/-- The value of a decimal. -/
def Decimal.worth (decimal : Decimal) : ℚ :=
  decimal.digits * (10 : ℚ) ^ decimal.exponent

namespace Double

/-- The size of a double. -/
def worth (x : Double) : ℚ :=
  x.significand * (2 : ℚ) ^ x.exponent

/-! ## Quotients for powers of ten -/

theorem ten_zpow_pos (k : Int) : (0 : ℚ) < 10 ^ k :=
  zpow_pos (by norm_num) k

/-- A natural number times a power of ten as a quotient of natural numbers. -/
theorem decimal_div (n d : Nat) (k : Int) :
    ((n * Nat.pow 10 k.toNat : Nat) : ℚ) / (d * Nat.pow 10 (-k).toNat : Nat) =
      n / d * (10 : ℚ) ^ k := by
  rw [scaled_div, Nat.cast_ofNat]

/-! ## Standing for a double -/

/-- Comparing a quotient of natural numbers with the midpoints: `u` is a quarter of it. -/
theorem low_le_iff {m g n d : Nat} {u : ℚ} (hd : 0 < d) (hu : (n : ℚ) / d = 4 * u) :
    (4 * m - g) * d ≤ n ↔ (m : ℚ) - g / 4 ≤ u := by
  have hpos : (0 : ℚ) < d := Nat.cast_pos.2 hd
  rw [div_eq_iff hpos.ne'] at hu
  rw [Nat.sub_mul, Nat.sub_le_iff_le_add, ← @Nat.cast_le ℚ]
  push_cast
  rw [hu, ← add_mul, mul_le_mul_iff_left₀ hpos]
  constructor <;> intro h <;> linarith

theorem low_lt_iff {m g n d : Nat} {u : ℚ} (hd : 0 < d) (hu : (n : ℚ) / d = 4 * u)
    (hg : g ≤ 4 * m) : (4 * m - g) * d < n ↔ (m : ℚ) - g / 4 < u := by
  have hpos : (0 : ℚ) < d := Nat.cast_pos.2 hd
  rw [div_eq_iff hpos.ne'] at hu
  rw [Nat.sub_mul, Nat.sub_lt_iff_lt_add (Nat.mul_le_mul_right d hg), ← @Nat.cast_lt ℚ]
  push_cast
  rw [hu, ← add_mul, mul_lt_mul_iff_left₀ hpos]
  constructor <;> intro h <;> linarith

theorem le_high_iff {m n d : Nat} {u : ℚ} (hd : 0 < d) (hu : (n : ℚ) / d = 4 * u) :
    n ≤ (4 * m + 2) * d ↔ u ≤ (m : ℚ) + 1 / 2 := by
  have hpos : (0 : ℚ) < d := Nat.cast_pos.2 hd
  rw [div_eq_iff hpos.ne'] at hu
  rw [← @Nat.cast_le ℚ]
  push_cast
  rw [hu, mul_le_mul_iff_left₀ hpos]
  constructor <;> intro h <;> linarith

theorem lt_high_iff {m n d : Nat} {u : ℚ} (hd : 0 < d) (hu : (n : ℚ) / d = 4 * u) :
    n < (4 * m + 2) * d ↔ u < (m : ℚ) + 1 / 2 := by
  have hpos : (0 : ℚ) < d := Nat.cast_pos.2 hd
  rw [div_eq_iff hpos.ne'] at hu
  rw [← @Nat.cast_lt ℚ]
  push_cast
  rw [hu, mul_lt_mul_iff_left₀ hpos]
  constructor <;> intro h <;> linarith

/-- `standsFor` decides whether a decimal is near to a double. -/
theorem standsFor_iff (x : Double) (digits : Nat) (k : Int) :
    x.standsFor digits k = true ↔ x.Near (digits * (10 : ℚ) ^ k) := by
  -- The decimal is taken in quarters of the last place, where midpoints are whole.
  have hratio : ((unscale (digits * Nat.pow 10 k.toNat) (Nat.pow 10 (-k).toNat)
      (x.exponent - 2)).1 : ℚ) / (unscale (digits * Nat.pow 10 k.toNat)
        (Nat.pow 10 (-k).toNat) (x.exponent - 2)).2 =
      4 * (digits * (10 : ℚ) ^ k / 2 ^ x.exponent) := by
    have hdecimal := decimal_div digits 1 k
    rw [one_mul, Nat.cast_one, div_one] at hdecimal
    rw [unscale_div, hdecimal, zpow_sub₀ (by norm_num)]
    norm_num
    ring
  have hpos : 0 < (unscale (digits * Nat.pow 10 k.toNat) (Nat.pow 10 (-k).toNat)
      (x.exponent - 2)).2 :=
    Nat.mul_pos (Nat.pow_pos (by decide)) (Nat.pow_pos (by decide))
  have hgap := x.lowerGap_le
  rw [standsFor]
  generalize unscale (digits * Nat.pow 10 k.toNat) (Nat.pow 10 (-k).toNat) (x.exponent - 2) =
    parts at *
  obtain ⟨n, d⟩ := parts
  simp only at *
  split
  · rename_i heven
    rw [Bool.and_eq_true, decide_eq_true_iff, decide_eq_true_iff, low_le_iff hpos hratio,
      le_high_iff hpos hratio]
    constructor
    · rintro ⟨hlow, hhigh⟩
      exact ⟨hlow, hhigh, fun hodd => by omega⟩
    · rintro ⟨hlow, hhigh, -⟩
      exact ⟨hlow, hhigh⟩
  · rename_i hodd
    rw [Bool.and_eq_true, decide_eq_true_iff, decide_eq_true_iff,
      low_lt_iff hpos hratio (by omega), lt_high_iff hpos hratio]
    constructor
    · rintro ⟨hlow, hhigh⟩
      exact ⟨hlow.le, hhigh.le, fun _ => ⟨hlow, hhigh⟩⟩
    · intro h
      exact h.odd (by omega)

/-! ## The power of ten below a double -/

theorem ratio_div (x : Double) : (x.ratio.1 : ℚ) / x.ratio.2 = x.worth := by
  rw [ratio, unscale_div, Nat.cast_one, div_one, zpow_neg, div_inv_eq_mul, worth]

theorem ratio_pos {x : Double} (hx : x.isZero = false) : 0 < x.ratio.1 ∧ 0 < x.ratio.2 := by
  have hplace := x.place_eq
  have hsignificand : 0 < x.significand := by
    rw [isZero, beq_eq_false_iff_ne] at hx
    by_contra hnone
    have hexponent : x.exponent = -1074 := by
      by_contra hne
      have hbinade : 1 ≤ x.significand := le_trans (by decide) (hplace.2.2.2 (by omega))
      omega
    rw [hexponent] at hplace
    exact hx (by rw [hplace.1]; change 0 * binade + x.significand = 0; omega)
  exact ⟨Nat.mul_pos hsignificand (Nat.pow_pos (by decide)),
    Nat.mul_pos Nat.one_pos (Nat.pow_pos (by decide))⟩

theorem pow_leadingExponent_le {n d : Nat} (hn : 0 < n) (hd : 0 < d) :
    (10 : ℚ) ^ leadingExponent n d ≤ n / d := by
  have hpos : (0 : ℚ) < d := Nat.cast_pos.2 hd
  rw [leadingExponent]
  split
  · -- One or more: the digits of the whole part are counted.
    rename_i hle
    have hquotient : 0 < n / d := Nat.div_pos hle hd
    have hlength : 0 < (Nat.toDigits 10 (n / d)).length := Nat.length_toDigits_pos
    have hpow : 10 ^ ((Nat.toDigits 10 (n / d)).length - 1) ≤ n / d := by
      by_contra hlt
      rcases Nat.eq_zero_or_pos ((Nat.toDigits 10 (n / d)).length - 1) with hzero | hmore
      · rw [hzero] at hlt
        omega
      · have := (Nat.length_toDigits_le_iff (by decide) hmore).2 (Nat.lt_of_not_le hlt)
        omega
    have hcast : (((Nat.toDigits 10 (n / d)).length : Int) - 1) =
        (((Nat.toDigits 10 (n / d)).length - 1 : Nat) : Int) := by omega
    rw [hcast, zpow_natCast]
    rw [le_div_iff₀ hpos]
    exact_mod_cast (Nat.mul_le_mul_right d hpow).trans (Nat.div_mul_le_self n d)
  · -- Less than one: the digits of the inverse are counted, rounded so that an exact
    -- power of ten is not missed by one.
    rename_i hlt
    have hpow : (d - 1) / n < 10 ^ (Nat.toDigits 10 ((d - 1) / n)).length :=
      (Nat.length_toDigits_le_iff (by decide) Nat.length_toDigits_pos).1 le_rfl
    rw [Nat.div_lt_iff_lt_mul hn] at hpow
    have hcast : (d : ℚ) ≤ 10 ^ (Nat.toDigits 10 ((d - 1) / n)).length * n := by
      have hnat : d ≤ 10 ^ (Nat.toDigits 10 ((d - 1) / n)).length * n := by omega
      exact_mod_cast hnat
    rw [zpow_neg, zpow_natCast, inv_le_iff_one_le_mul₀ (by positivity), div_mul_eq_mul_div,
      le_div_iff₀ hpos, one_mul, mul_comm]
    exact hcast

/-! ## The search -/

/-- Whatever the search finds on a grid stands for the double. -/
theorem standsFor_of_onGrid? {x : Double} {k : Int} {decimal : Decimal}
    (h : x.onGrid? k = some decimal) : x.standsFor decimal.digits decimal.exponent = true := by
  simp only [onGrid?] at h
  generalize (if nearest _ _ = _ then _ else _) = second at h
  split at h
  · rename_i hfirst
    obtain rfl := Option.some.inj h
    exact hfirst
  · split at h
    · rename_i hsecond
      obtain rfl := Option.some.inj h
      exact hsecond
    · cases h

/-- A rational within a half of a fine unit is near to the double. -/
theorem near_of_close {x : Double} {unit r : ℚ} (hfine : unit * 10 ^ 16 ≤ x.worth)
    (hclose : |r - x.worth| ≤ unit / 2) : x.Near r := by
  obtain ⟨-, -, hgreatest, -⟩ := x.place_eq
  have hunit := two_zpow_pos x.exponent
  have hsignificand : (x.significand : ℚ) < 2 ^ 53 := by
    have hnat : x.significand < 2 ^ 53 := hgreatest
    exact_mod_cast hnat
  -- The gap is halved only where the significand is at its least.
  have hgap : (x.significand : ℚ) / (2 * 10 ^ 16) < x.lowerGap / 4 := by
    rw [lowerGap_eq]
    split
    · rename_i hfirst
      rw [hfirst.1]
      norm_num
    · rw [div_lt_iff₀ (by norm_num)]
      norm_num
      linarith
  have hdistance : |r / (2 : ℚ) ^ x.exponent - x.significand| ≤ x.significand / (2 * 10 ^ 16) := by
    have hsize : (x.significand : ℚ) = x.worth / 2 ^ x.exponent := by
      rw [worth, mul_div_cancel_right₀ _ hunit.ne']
    rw [hsize, ← sub_div, abs_div, abs_of_pos hunit, div_right_comm,
      div_le_div_iff_of_pos_right hunit]
    linarith
  rw [abs_le] at hdistance
  have hlow : x.significand - (x.lowerGap : ℚ) / 4 < r / (2 : ℚ) ^ x.exponent := by linarith
  have hhigh : r / (2 : ℚ) ^ x.exponent < x.significand + 1 / 2 := by
    linarith
  exact ⟨hlow.le, hhigh.le, fun _ => ⟨hlow, hhigh⟩⟩

/-- On a fine grid the nearest point stands for the double. -/
theorem onGrid?_isSome {x : Double} (hx : x.isZero = false) {k : Int}
    (hfine : (10 : ℚ) ^ k * 10 ^ 16 ≤ x.worth) : (x.onGrid? k).isSome = true := by
  obtain ⟨hn, hd⟩ := ratio_pos hx
  have hquotient := decimal_div x.ratio.1 x.ratio.2 (-k)
  rw [neg_neg, ratio_div, zpow_neg, ← div_eq_mul_inv] at hquotient
  have hpos : 0 < x.ratio.2 * Nat.pow 10 k.toNat := Nat.mul_pos hd (Nat.pow_pos (by decide))
  have hclose := nearest_close (x.ratio.1 * Nat.pow 10 (-k).toNat) hpos
  have hstands : x.standsFor (nearest (x.ratio.1 * Nat.pow 10 (-k).toNat)
      (x.ratio.2 * Nat.pow 10 k.toNat)) k = true := by
    rw [standsFor_iff]
    refine near_of_close hfine ?_
    generalize nearest (x.ratio.1 * Nat.pow 10 (-k).toNat) (x.ratio.2 * Nat.pow 10 k.toNat) =
      point at *
    generalize x.ratio.1 * Nat.pow 10 (-k).toNat = n at *
    generalize x.ratio.2 * Nat.pow 10 k.toNat = d at *
    have hpos' : (0 : ℚ) < d := Nat.cast_pos.2 hpos
    have hunit := ten_zpow_pos k
    have hbelow : (2 : ℚ) * point * d ≤ 2 * n + d := by exact_mod_cast hclose.1
    have habove : (2 : ℚ) * n ≤ 2 * point * d + d := by exact_mod_cast hclose.2
    have hn' : (n : ℚ) = x.worth / 10 ^ k * d := by
      rw [← hquotient, div_mul_cancel₀ _ hpos'.ne']
    rw [hn'] at hbelow habove
    -- In units of the grid the nearest point is at most a half away.
    have hpoint : |(point : ℚ) - x.worth / 10 ^ k| ≤ 1 / 2 := by
      rw [abs_le]
      constructor <;> nlinarith
    calc |(point : ℚ) * 10 ^ k - x.worth| = |((point : ℚ) - x.worth / 10 ^ k) * 10 ^ k| := by
          rw [sub_mul, div_mul_cancel₀ _ hunit.ne']
      _ = |(point : ℚ) - x.worth / 10 ^ k| * 10 ^ k := by rw [abs_mul, abs_of_pos hunit]
      _ ≤ 10 ^ k / 2 := by linarith [mul_le_mul_of_nonneg_right hpoint hunit.le]
  simp only [onGrid?, hstands, if_true, Option.isSome_some]

theorem searchGrids_standsFor {x : Double} {k : Int} {finer ahead : Nat} (hahead : ahead ≤ finer)
    (h : (x.onGrid? (k - ahead)).isSome = true) :
    x.standsFor (x.searchGrids k finer).digits (x.searchGrids k finer).exponent = true := by
  induction finer generalizing k ahead with
  | zero =>
    obtain rfl : ahead = 0 := by omega
    rw [Nat.cast_zero, sub_zero] at h
    obtain ⟨decimal, hdecimal⟩ := Option.isSome_iff_exists.1 h
    rw [searchGrids, hdecimal, Option.getD_some]
    exact standsFor_of_onGrid? hdecimal
  | succ finer ih =>
    rw [searchGrids]
    split
    · rename_i decimal hdecimal
      exact standsFor_of_onGrid? hdecimal
    · -- A grid without a point is not the one that is known to have one.
      rename_i hnone
      cases ahead with
      | zero =>
        rw [Nat.cast_zero, sub_zero, hnone] at h
        cases h
      | succ ahead =>
        refine ih (Nat.le_of_succ_le_succ hahead) ?_
        rw [show k - 1 - (ahead : Int) = k - (ahead + 1 : Nat) by omega]
        exact h

/-- **The shortest decimal rounds to the double.** -/
theorem near_shortest {x : Double} (hx : x.isZero = false) : x.Near x.shortest.worth := by
  obtain ⟨hn, hd⟩ := ratio_pos hx
  have hleading := pow_leadingExponent_le hn hd
  rw [ratio_div] at hleading
  have hgrid :
      (x.onGrid? (leadingExponent x.ratio.1 x.ratio.2 + 1 - (17 : Nat))).isSome = true := by
    refine onGrid?_isSome hx ?_
    rw [← zpow_natCast, ← zpow_add₀ (by norm_num)]
    convert hleading using 2
    omega
  have hstands := searchGrids_standsFor (Nat.le_refl 17) hgrid
  rw [shortest, if_neg (by rw [hx]; decide)]
  exact (x.standsFor_iff _ _).1 hstands

end Double

end SchemaForms
