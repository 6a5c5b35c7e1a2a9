import Conform.Proofs.Number.Decimals
import Conform.Proofs.Number.Magnitudes
import Conform.Number.Rounding

/-!
# Rounding

A ratio is rounded to the magnitude in whose interval it lies. The spacing is chosen so that the
quotient by it has 53 bits, and there the rounded quotient is half a spacing away at most; one that
is rounded up to a power of two lands where the spacing changes.

## Main definitions

- `Magnitude.roundedRank` — the rank of the nearest magnitude, in range or not
- `Magnitude.Block` — a rounded quotient of 53 bits under a spacing

## Main results

- `Magnitude.nearest?_eq_some` — a ratio is rounded to the magnitude in whose interval it lies
- `Number.ofDecimal_eq_finite` — and so is a decimal
-/

namespace Conform

attribute [local irreducible] Magnitude.unitsPerOne

namespace Magnitude

variable {q k r total num den : ℕ} {m : Magnitude}

-- ════════════════════════════════════════════════════════════════════════
-- Quotients
-- ════════════════════════════════════════════════════════════════════════

theorem roundedQuotient_cases (total den : ℕ) :
    (roundedQuotient total den = total / den ∧ 2 * (total % den) ≤ den ∧
      (2 * (total % den) = den → total / den % 2 = 0)) ∨
    (roundedQuotient total den = total / den + 1 ∧ den ≤ 2 * (total % den) ∧
      (2 * (total % den) = den → total / den % 2 = 1)) := by
  rw [roundedQuotient]
  split
  next hup => exact .inr ⟨rfl, by omega, by omega⟩
  next hdown => exact .inl ⟨rfl, by omega, by omega⟩

/-- The rounded quotient is at most half a step away, and less if it is odd. -/
theorem roundedQuotient_near (total : ℕ) (hden : 0 < den) (hq : q = roundedQuotient total den) :
    2 * q * den ≤ 2 * total + den ∧ 2 * total ≤ (2 * q + 1) * den ∧
      (q % 2 = 1 → 2 * q * den < 2 * total + den ∧ 2 * total < (2 * q + 1) * den) := by
  have hrest : total % den < den := Nat.mod_lt total hden
  have htotal : 2 * total = 2 * (total / den) * den + 2 * (total % den) := by
    rw [Nat.mul_assoc, Nat.mul_comm (total / den), ← Nat.mul_add, Nat.div_add_mod]
  have hnext : 2 * (total / den + 1) * den = 2 * (total / den) * den + 2 * den := by ring
  have hhalf : (2 * q + 1) * den = 2 * q * den + den := by ring
  rw [hhalf]
  rcases roundedQuotient_cases total den with ⟨hdown, hle, heven⟩ | ⟨hup, hle, hodd⟩
  · rw [hq, hdown, htotal]
    omega
  · rw [hq, hup, hnext, htotal]
    omega

-- ════════════════════════════════════════════════════════════════════════
-- Ranks
-- ════════════════════════════════════════════════════════════════════════

/-- The magnitudes with one spacing, and the first one after them. -/
theorem unitsAt_block (hk : k = 0 ∨ 2 ^ 52 ≤ q) (hq : q ≤ 2 ^ 53) :
    unitsAt (k * 2 ^ 52 + q) = q * 2 ^ k := by
  by_cases hsmall : q < 2 ^ 52
  · obtain rfl : k = 0 := by omega
    rw [Nat.zero_mul, Nat.zero_add, unitsAt_of_lt hsmall, Nat.pow_zero, Nat.mul_one]
  · rw [unitsAt_of_le (by omega), spacing]
    rcases Nat.lt_or_eq_of_le hq with hlt | rfl
    · have hmod : 2 ^ 52 + (k * 2 ^ 52 + q) % 2 ^ 52 = q := by omega
      have hdiv : (k * 2 ^ 52 + q) / 2 ^ 52 - 1 = k := by omega
      rw [hmod, hdiv]
    · -- the carry to the next spacing is exact
      have hmod : 2 ^ 52 + (k * 2 ^ 52 + 2 ^ 53) % 2 ^ 52 = 2 ^ 52 := by omega
      have hdiv : (k * 2 ^ 52 + 2 ^ 53) / 2 ^ 52 - 1 = k + 1 := by omega
      rw [hmod, hdiv, Nat.pow_succ]
      ring

theorem pow_le_spacing (hk : k = 0 ∨ 2 ^ 52 ≤ q) : 2 ^ k ≤ spacing (k * 2 ^ 52 + q) := by
  rw [spacing]
  refine Nat.pow_le_pow_right (by decide) ?_
  omega

/-- The exponent of the spacing that gives the quotient 53 bits. -/
def spacingExponent (total den : ℕ) : ℕ := (total / den).log2 - 52

/-- The rank of the nearest magnitude to a number of units, in range or not. -/
def roundedRank (total den : ℕ) : ℕ :=
  let k := spacingExponent total den
  k * 2 ^ 52 + roundedQuotient total (den * 2 ^ k)

theorem total_div_lt (total den : ℕ) : total / den < 2 ^ (spacingExponent total den + 53) := by
  refine Nat.lt_log2_self.trans_le (Nat.pow_le_pow_right (by decide) ?_)
  rw [spacingExponent]
  omega

theorem pow_le_total_div (h : spacingExponent total den ≠ 0) :
    2 ^ (spacingExponent total den + 52) ≤ total / den := by
  rw [spacingExponent] at h ⊢
  have hlog : (total / den).log2 - 52 + 52 = (total / den).log2 := by omega
  rw [hlog]
  refine Nat.log2_self_le fun hzero => h ?_
  rw [hzero]
  rfl

/-- The rounded quotient has 53 bits, unless the spacing is the least one. -/
structure Block (total den k q : ℕ) : Prop where
  quotient : q = roundedQuotient total (den * 2 ^ k)
  wide : k = 0 ∨ 2 ^ 52 ≤ q
  narrow : q ≤ 2 ^ 53
  total_ge : k ≠ 0 → 2 ^ 52 * (den * 2 ^ k) ≤ total

theorem exists_block (total : ℕ) (hden : 0 < den) :
    ∃ k q, Block total den k q ∧ roundedRank total den = k * 2 ^ 52 + q := by
  let k := spacingExponent total den
  have hpow : 0 < 2 ^ k := Nat.pow_pos (by decide)
  have hlt : total / (den * 2 ^ k) < 2 ^ 53 := by
    rw [← Nat.div_div_eq_div_mul]
    apply Nat.div_lt_of_lt_mul
    rw [← Nat.pow_add]
    exact total_div_lt total den
  have hge (hk : k ≠ 0) : 2 ^ 52 ≤ total / (den * 2 ^ k) := by
    rw [← Nat.div_div_eq_div_mul, Nat.le_div_iff_mul_le hpow, ← Nat.pow_add, Nat.add_comm]
    exact pow_le_total_div hk
  have hquotient := roundedQuotient_cases total (den * 2 ^ k)
  refine ⟨k, _, ⟨rfl, ?_, by omega, fun hk => ?_⟩, rfl⟩
  · by_cases hk : k = 0
    · exact .inl hk
    · have := hge hk
      omega
  · rw [← Nat.le_div_iff_mul_le (Nat.mul_pos hden hpow)]
    exact hge hk

namespace Block

variable (h : Block total den k q) (hden : 0 < den)

include h hden

theorem near : 2 * q * (den * 2 ^ k) ≤ 2 * total + den * 2 ^ k ∧
    2 * total ≤ (2 * q + 1) * (den * 2 ^ k) ∧
    (q % 2 = 1 → 2 * q * (den * 2 ^ k) < 2 * total + den * 2 ^ k ∧
      2 * total < (2 * q + 1) * (den * 2 ^ k)) :=
  roundedQuotient_near total (Nat.mul_pos hden (Nat.pow_pos (by decide))) h.quotient

theorem le_upper (hr : r = k * 2 ^ 52 + q) :
    2 * total ≤ (unitsAt r + unitsAt (r + 1)) * den ∧
      (r % 2 = 1 → 2 * total < (unitsAt r + unitsAt (r + 1)) * den) := by
  have hunits := unitsAt_block h.wide h.narrow
  have hnext := unitsAt_succ (k * 2 ^ 52 + q)
  have hspacing := pow_le_spacing h.wide
  have hupper : (2 * q + 1) * (den * 2 ^ k) ≤ (unitsAt r + unitsAt (r + 1)) * den := by
    calc (2 * q + 1) * (den * 2 ^ k) = (q * 2 ^ k + (q * 2 ^ k + 2 ^ k)) * den := by ring
      _ ≤ (unitsAt r + unitsAt (r + 1)) * den := by
        rw [hr]
        exact Nat.mul_le_mul_right den (by omega)
  obtain ⟨-, hle, hodd⟩ := h.near hden
  exact ⟨hle.trans hupper, fun hr' => (hodd (by omega)).2.trans_le hupper⟩

/-- Below a power of two the spacing is smaller, but nothing below it is rounded up to it. -/
theorem lower_le (hr : r = k * 2 ^ 52 + q) :
    (unitsAt (r - 1) + unitsAt r) * den ≤ 2 * total ∧
      (r % 2 = 1 → (unitsAt (r - 1) + unitsAt r) * den < 2 * total) := by
  have hunits := unitsAt_block h.wide h.narrow
  obtain ⟨hle, -, hodd⟩ := h.near hden
  rcases Nat.eq_zero_or_pos q with hzero | hpos
  · have hr : r = 0 := by
      have hwide := h.wide
      omega
    rw [hr, Nat.zero_sub, unitsAt_of_lt (by decide), Nat.zero_mul]
    exact ⟨Nat.zero_le _, nofun⟩
  · by_cases hwide : k = 0 ∨ 2 ^ 52 ≤ q - 1
    · -- the neighbour below is one spacing away
      have hbefore := unitsAt_block hwide (by have := h.narrow; omega)
      have hprevious : k * 2 ^ 52 + (q - 1) = r - 1 := by omega
      have hlower : (unitsAt (r - 1) + unitsAt r) * den + den * 2 ^ k =
          2 * q * (den * 2 ^ k) := by
        rw [← hprevious, hbefore, hr, hunits]
        obtain ⟨p, rfl⟩ := Nat.exists_eq_add_of_lt hpos
        rw [Nat.zero_add, Nat.add_sub_cancel]
        ring
      exact ⟨by omega, fun hr' => by have := (hodd (by omega)).1; omega⟩
    · -- a power of two: its rank is even and its value is not above the ratio
      have hq : q = 2 ^ 52 := by
        have hwide' := h.wide
        omega
      have htotal := h.total_ge (by omega)
      have hmono : unitsAt (r - 1) ≤ unitsAt r := unitsAt_strictMono.monotone (Nat.sub_le r 1)
      have hlower : (unitsAt (r - 1) + unitsAt r) * den ≤ 2 * total := by
        calc (unitsAt (r - 1) + unitsAt r) * den ≤ (unitsAt r + unitsAt r) * den :=
              Nat.mul_le_mul_right den (by omega)
          _ = 2 * (2 ^ 52 * (den * 2 ^ k)) := by
            rw [hr, hunits, hq]
            ring
          _ ≤ 2 * total := Nat.mul_le_mul_left 2 htotal
      exact ⟨hlower, fun hr' => by omega⟩

end Block

theorem mem_intervalAt_roundedRank (num : ℕ) (hden : 0 < den) :
    (num / den : ℚ) ∈ intervalAt (roundedRank (num * unitsPerOne) den) := by
  obtain ⟨k, q, h, hrank⟩ := exists_block (num * unitsPerOne) hden
  obtain ⟨hlower, hlower'⟩ := h.lower_le hden hrank
  obtain ⟨hupper, hupper'⟩ := h.le_upper hden hrank
  rw [div_mem_intervalAt_iff hden, Nat.mul_assoc]
  split
  next => exact ⟨hlower, hupper⟩
  next hodd =>
    have hodd := Nat.mod_two_ne_zero.mp hodd
    exact ⟨hlower' hodd, hupper' hodd⟩

/-- A ratio is rounded to the magnitude in whose interval it lies. -/
theorem nearest?_eq_some (hden : 0 < den) (h : (num / den : ℚ) ∈ m.interval) :
    nearest? num den = some m := by
  have hrank := eq_of_mem_intervalAt (mem_intervalAt_roundedRank num hden) h
  unfold nearest?
  generalize num * unitsPerOne = total at hrank
  show ofRank? (roundedRank total den) = some m
  rw [hrank, ofRank?, dif_pos m.rank_lt]

-- ════════════════════════════════════════════════════════════════════════
-- Decimals
-- ════════════════════════════════════════════════════════════════════════

theorem pow_le_lowAt {p : ℕ} (hp : 2 * unitsPerOne ≤ 10 ^ p) (h : r ≠ 0) :
    10 ^ (-p : ℤ) ≤ lowAt r := by
  have hunits : unitsAt 0 < unitsAt r := unitsAt_strictMono (by omega)
  have hnum : (1 : ℚ) ≤ (unitsAt (r - 1) + unitsAt r : ℕ) := Nat.one_le_cast.mpr (by omega)
  have hden : (2 * unitsPerOne : ℚ) ≤ 10 ^ p := by exact_mod_cast hp
  rw [lowAt, zpow_neg, zpow_natCast, ← one_div]
  exact div_le_div₀ (Nat.cast_nonneg _) hnum two_mul_unitsPerOne_pos hden

theorem highAt_lt_pow {p : ℕ} (hp : unitsAt (2047 * 2 ^ 52) < 10 ^ p * unitsPerOne)
    (m : Magnitude) : highAt m.rank < 10 ^ (p : ℤ) := by
  have hrank : m.rank < 2047 * 2 ^ 52 := m.rank_lt
  have hunits := unitsAt_strictMono.monotone hrank.le
  have hnext : unitsAt (m.rank + 1) ≤ unitsAt (2047 * 2 ^ 52) :=
    unitsAt_strictMono.monotone hrank
  have hsum : unitsAt m.rank + unitsAt (m.rank + 1) < 10 ^ p * (2 * unitsPerOne) := by
    have htwo : 10 ^ p * (2 * unitsPerOne) = 2 * (10 ^ p * unitsPerOne) := by ring
    omega
  rw [highAt, div_lt_iff₀ two_mul_unitsPerOne_pos, zpow_natCast]
  exact_mod_cast hsum

end Magnitude

namespace Number

variable {m : Magnitude} {d : Decimal}

/-- Decimals whose point is further out are settled without forming the power of ten. -/
theorem point_bounds (hm : m.rank ≠ 0) (h : d.value ∈ m.interval) :
    -330 ≤ d.point ∧ d.point ≤ 320 := by
  have hdigits := Decimal.value_pos_iff.mp (Magnitude.pos_of_mem_interval hm h)
  obtain ⟨hlow, hhigh, -⟩ := Magnitude.mem_intervalAt_iff.mp h
  constructor
  · have hpow := Magnitude.pow_le_lowAt (p := 330) (by decide +kernel) hm
    by_contra hlt
    have hvalue := (Decimal.value_lt_pow_iff hdigits (-(330 : ℕ))).mpr (by omega)
    exact absurd (hlow.trans_lt hvalue) (not_lt.mpr hpow)
  · have hpow := Magnitude.highAt_lt_pow (p := 320) (by decide +kernel) m
    by_contra hgt
    have hvalue := Decimal.pow_le_value_of_lt_point (p := (320 : ℕ)) hdigits (not_le.mp hgt)
    exact absurd (hvalue.trans hhigh) (not_le.mpr hpow)

theorem decimalMagnitude?_eq_some (hm : m.rank ≠ 0) (h : d.value ∈ m.interval) :
    decimalMagnitude? d.digits d.exponent = some m := by
  have hdigits := Decimal.value_pos_iff.mp (Magnitude.pos_of_mem_interval hm h)
  have hbounds := point_bounds hm h
  rw [d.value_eq_div] at h
  have hnearest := Magnitude.nearest?_eq_some d.denominator_pos h
  rw [decimalMagnitude?, d.point_eq, if_neg (by omega), if_neg (by omega)]
  split
  next hexponent =>
    have hden : d.denominator = 1 := by
      rw [Decimal.denominator, Int.toNat_of_nonpos (by omega)]
    rwa [hden] at hnearest
  next hexponent =>
    have hnum : d.numerator = d.digits := by
      rw [Decimal.numerator, Int.toNat_of_nonpos (by omega)]
      exact Nat.mul_one _
    rwa [hnum] at hnearest

theorem ofDecimal_eq_finite (negative : Bool) (hm : m.rank ≠ 0) (h : d.value ∈ m.interval) :
    ofDecimal negative d.digits d.exponent = finite negative m := by
  rw [ofDecimal, decimalMagnitude?_eq_some hm h]
  rfl

end Number

end Conform
