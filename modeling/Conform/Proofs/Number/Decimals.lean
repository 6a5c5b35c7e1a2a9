import Mathlib.Algebra.Order.Field.Basic
import Mathlib.Algebra.Order.Ring.Rat
import Mathlib.Data.Nat.Cast.Order.Field
import Mathlib.Tactic.Ring
import Conform.Number.Layout

/-!
# Decimals as rational numbers

A decimal is its digits times a power of ten. The number of its digits and the power together say
between which powers of ten it lies, and that is where its point stands.

## Main definitions

- `Decimal.value` — the rational number that a decimal is
- `Decimal.point` — how many digits stand before the point

## Main results

- `Decimal.value_lt_pow_iff` — a decimal lies below a power of ten exactly if its point does
-/

namespace Conform

-- ════════════════════════════════════════════════════════════════════════
-- Powers of ten
-- ════════════════════════════════════════════════════════════════════════

theorem zpow_ten_eq_div (e : ℤ) :
    (10 : ℚ) ^ e = ((10 ^ e.toNat : ℕ) : ℚ) / ((10 ^ (-e).toNat : ℕ) : ℚ) := by
  cases e with
  | ofNat n => simp
  | negSucc n => simp [zpow_negSucc, Int.neg_negSucc]

theorem mul_zpow_ten_eq_div (n : ℕ) (e : ℤ) :
    (n : ℚ) * 10 ^ e = (n * 10 ^ e.toNat : ℕ) / (10 ^ (-e).toNat : ℕ) := by
  rw [zpow_ten_eq_div, Nat.cast_mul, mul_div_assoc]

theorem zpow_ten_pos (e : ℤ) : (0 : ℚ) < 10 ^ e := zpow_pos (by norm_num) e

theorem zpow_ten_mul_zpow_ten {e f p : ℤ} (h : e + f = p) : (10 : ℚ) ^ e * 10 ^ f = 10 ^ p := by
  rw [← h, zpow_add₀ (by norm_num)]

theorem pow_mul_zpow_ten {n : ℕ} {e p : ℤ} (h : n + e = p) : (10 : ℚ) ^ n * 10 ^ e = 10 ^ p := by
  rw [← zpow_natCast, zpow_ten_mul_zpow_ten h]

theorem length_toDigits_pos (n : Nat) : 0 < (Nat.toDigits 10 n).length :=
  List.length_pos_iff.mpr Nat.toDigits_ne_nil

theorem lt_pow_length_toDigits (n : Nat) : n < 10 ^ (Nat.toDigits 10 n).length :=
  (Nat.length_toDigits_le_iff (by decide) (length_toDigits_pos n)).mp (Nat.le_refl _)

theorem pow_length_toDigits_le {n : Nat} (hn : n ≠ 0) :
    10 ^ ((Nat.toDigits 10 n).length - 1) ≤ n := by
  by_cases h : (Nat.toDigits 10 n).length = 1
  · rw [h]
    exact Nat.pos_of_ne_zero hn
  · have hpos := length_toDigits_pos n
    rw [← Nat.not_lt, ← Nat.length_toDigits_le_iff (by decide) (by omega)]
    omega

-- ════════════════════════════════════════════════════════════════════════
-- Values
-- ════════════════════════════════════════════════════════════════════════

namespace Decimal

variable {d : Decimal}

/-- The rational number that the decimal is. -/
def value (d : Decimal) : ℚ := d.digits * 10 ^ d.exponent

/-- How many digits stand before the point, negative if zeros stand after it. -/
def point (d : Decimal) : ℤ := d.length + d.exponent

theorem point_eq (d : Decimal) : ((Nat.toDigits 10 d.digits).length : ℤ) + d.exponent = d.point :=
  rfl

theorem denominator_pos (d : Decimal) : 0 < d.denominator := Nat.pow_pos (by decide)

theorem value_eq_div (d : Decimal) : d.value = d.numerator / d.denominator := by
  rw [value, mul_zpow_ten_eq_div]
  rfl

theorem value_lt_pow (d : Decimal) : d.value < 10 ^ d.point := by
  have hlt : (d.digits : ℚ) < 10 ^ (d.length : ℤ) := by
    rw [zpow_natCast]
    exact_mod_cast lt_pow_length_toDigits d.digits
  rw [value, point, zpow_add₀ (by norm_num)]
  exact mul_lt_mul_of_pos_right hlt (zpow_ten_pos _)

theorem pow_le_value (h : d.digits ≠ 0) : 10 ^ (d.point - 1) ≤ d.value := by
  have hpos : 0 < d.length := length_toDigits_pos d.digits
  have hle : (10 : ℚ) ^ ((d.length - 1 : ℕ) : ℤ) ≤ d.digits := by
    rw [zpow_natCast]
    exact_mod_cast pow_length_toDigits_le h
  have hpoint : d.point - 1 = ((d.length - 1 : ℕ) : ℤ) + d.exponent := by
    rw [point]
    omega
  rw [value, hpoint, zpow_add₀ (by norm_num)]
  exact mul_le_mul_of_nonneg_right hle (zpow_ten_pos _).le

theorem value_pos_iff : 0 < d.value ↔ d.digits ≠ 0 := by
  rw [value, mul_pos_iff_of_pos_right (zpow_ten_pos _), Nat.cast_pos, Nat.pos_iff_ne_zero]

/-- The value lies below a power of ten exactly if the point does. -/
theorem value_lt_pow_iff (h : d.digits ≠ 0) (p : ℤ) : d.value < 10 ^ p ↔ d.point ≤ p := by
  constructor
  · intro hlt
    have hpow := (pow_le_value h).trans_lt hlt
    rw [zpow_lt_zpow_iff_right₀ (by norm_num)] at hpow
    omega
  · intro hle
    exact d.value_lt_pow.trans_le (zpow_le_zpow_right₀ (by norm_num) hle)

theorem value_le_pow_of_point_lt (h : d.digits ≠ 0) {p : ℤ} (hp : d.point < p) :
    d.value ≤ 10 ^ (p - 1) :=
  ((value_lt_pow_iff h (p - 1)).mpr (Int.le_sub_one_of_lt hp)).le

theorem pow_le_value_of_lt_point (h : d.digits ≠ 0) {p : ℤ} (hp : p < d.point) :
    10 ^ p ≤ d.value := by
  by_contra hlt
  exact absurd ((value_lt_pow_iff h p).mp (not_le.mp hlt)) (not_le.mpr hp)

theorem value_one {e : ℤ} : (⟨1, e⟩ : Decimal).value = 10 ^ e := by
  rw [value, Nat.cast_one, one_mul]

theorem value_ten {p : ℤ} : (⟨10, p - 1⟩ : Decimal).value = 10 ^ p := by
  have hten := pow_mul_zpow_ten (n := 1) (e := p - 1) (p := p) (by omega)
  rwa [pow_one] at hten

theorem value_le_value {d' : Decimal} (he : d.exponent = d'.exponent) (h : d.digits ≤ d'.digits) :
    d.value ≤ d'.value := by
  rw [value, value, he]
  exact mul_le_mul_of_nonneg_right (Nat.cast_le.mpr h) (zpow_ten_pos _).le

theorem value_dropZero (d : Decimal) : d.dropZero.value = d.value := by
  rw [dropZero]
  split
  next h =>
    have hdigits : d.digits = d.digits / 10 * 10 := by omega
    rw [value, value, zpow_add₀ (by norm_num)]
    nth_rewrite 2 [hdigits]
    push_cast
    ring
  next => rfl

end Decimal

end Conform
