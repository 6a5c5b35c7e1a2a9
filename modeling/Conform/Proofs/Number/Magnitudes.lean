import Mathlib.Algebra.Order.Field.Basic
import Mathlib.Algebra.Order.Ring.Rat
import Mathlib.Data.Nat.Cast.Order.Field
import Mathlib.Order.Interval.Set.Basic
import Mathlib.Order.Monotone.Basic
import Mathlib.Tactic.FieldSimp
import Mathlib.Tactic.Linarith
import Mathlib.Tactic.Positivity
import Mathlib.Tactic.Ring
import Conform.Number.Shortest
import Conform.Proofs.Number.Equality

/-!
# Magnitudes as rational numbers

The exact value of a magnitude and the interval of values that round to it. Magnitudes increase
with their rank, the distance between neighbours never shrinks, and 53 bits keep it above one part
in `10 ^ 16` of the magnitude. Intervals of different magnitudes lie in the order of their ranks
and have no value in common.

## Main definitions

- `Magnitude.value` — the exact value
- `Magnitude.spacing` — the distance to the next magnitude, in units
- `Magnitude.intervalAt`, `Magnitude.interval` — the values that round to a magnitude

## Main results

- `Magnitude.unitsAt_strictMono` — magnitudes increase with their rank
- `Magnitude.lt_of_mem_intervalAt` — intervals lie in the order of the ranks
- `Magnitude.value_lt_width` — intervals are wide enough for seventeen digits
-/

namespace Conform.Magnitude

-- ════════════════════════════════════════════════════════════════════════
-- Units
-- ════════════════════════════════════════════════════════════════════════

/-- The distance from the magnitude of this rank to the next, in units. -/
def spacing (rank : Nat) : Nat := 2 ^ (rank / 2 ^ 52 - 1)

theorem spacing_pos (r : Nat) : 0 < spacing r := Nat.pow_pos (by decide)

theorem spacing_mono {r s : Nat} (h : r ≤ s) : spacing r ≤ spacing s := by
  have hdiv : r / 2 ^ 52 ≤ s / 2 ^ 52 := Nat.div_le_div_right h
  exact Nat.pow_le_pow_right (by decide) (by omega)

theorem unitsAt_of_lt {r : Nat} (h : r < 2 ^ 52) : unitsAt r = r := if_pos h

theorem unitsAt_of_le {r : Nat} (h : 2 ^ 52 ≤ r) :
    unitsAt r = (2 ^ 52 + r % 2 ^ 52) * spacing r := if_neg (Nat.not_lt.mpr h)

theorem unitsAt_succ (r : Nat) : unitsAt (r + 1) = unitsAt r + spacing r := by
  rcases Nat.lt_trichotomy (r + 1) (2 ^ 52) with h | h | h
  · have hdiv : r / 2 ^ 52 = 0 := Nat.div_eq_of_lt (by omega)
    rw [unitsAt_of_lt h, unitsAt_of_lt (by omega), spacing, hdiv, Nat.zero_sub, Nat.pow_zero]
  · have hr : r = 2 ^ 52 - 1 := by omega
    subst hr
    decide
  · have hr : 2 ^ 52 ≤ r := by omega
    rw [unitsAt_of_le hr, unitsAt_of_le (by omega)]
    by_cases hlast : r % 2 ^ 52 = 2 ^ 52 - 1
    · -- the next magnitude is a power of two
      have hmod : (r + 1) % 2 ^ 52 = 0 := by omega
      have hdiv : (r + 1) / 2 ^ 52 - 1 = r / 2 ^ 52 - 1 + 1 := by omega
      rw [hmod, hlast, spacing, spacing, hdiv, Nat.pow_succ]
      omega
    · have hmod : (r + 1) % 2 ^ 52 = r % 2 ^ 52 + 1 := by omega
      have hdiv : (r + 1) / 2 ^ 52 = r / 2 ^ 52 := by omega
      rw [hmod, spacing, spacing, hdiv]
      ring

theorem unitsAt_strictMono : StrictMono unitsAt :=
  strictMono_nat_of_lt_succ fun r => by
    rw [unitsAt_succ]
    exact Nat.lt_add_of_pos_right (spacing_pos r)

theorem unitsAt_lt (r : Nat) : unitsAt r < 2 ^ 53 * spacing r := by
  have hpos := spacing_pos r
  rcases Nat.lt_or_ge r (2 ^ 52) with h | h
  · rw [unitsAt_of_lt h]
    omega
  · have hmod : r % 2 ^ 52 < 2 ^ 52 := Nat.mod_lt r (by decide)
    rw [unitsAt_of_le h]
    exact Nat.mul_lt_mul_of_pos_right (by omega) hpos

/-- Neighbours are further apart than one part in `10 ^ 16`, on both sides together. -/
theorem unitsAt_lt_width (r : Nat) :
    2 * unitsAt (r + 1) < 10 ^ 16 * (unitsAt (r + 2) - unitsAt r) := by
  have hlt := unitsAt_lt r
  have hmono := spacing_mono (Nat.le_add_right r 1)
  rw [unitsAt_succ (r + 1), unitsAt_succ r]
  omega

-- ════════════════════════════════════════════════════════════════════════
-- Intervals
-- ════════════════════════════════════════════════════════════════════════

variable {r s : ℕ} {m n : Magnitude} {x y z : ℚ}

theorem unitsPerOne_pos : 0 < unitsPerOne := by decide +kernel

theorem cast_unitsPerOne_pos : (0 : ℚ) < unitsPerOne := Nat.cast_pos.mpr unitsPerOne_pos

theorem two_mul_unitsPerOne_pos : (0 : ℚ) < 2 * unitsPerOne := mul_pos two_pos cast_unitsPerOne_pos

theorem cast_div_le_div_iff {a b c d : ℕ} (hc : 0 < c) (hd : 0 < d) :
    (a / c : ℚ) ≤ b / d ↔ a * d ≤ b * c := by
  rw [div_le_div_iff₀ (Nat.cast_pos.mpr hc) (Nat.cast_pos.mpr hd)]
  norm_cast

/-- The lower end of the interval that rounds to the magnitude of a rank. -/
def lowAt (rank : ℕ) : ℚ := (unitsAt (rank - 1) + unitsAt rank : ℕ) / (2 * unitsPerOne)

/-- The upper end of the interval that rounds to the magnitude of a rank. -/
def highAt (rank : ℕ) : ℚ := (unitsAt rank + unitsAt (rank + 1) : ℕ) / (2 * unitsPerOne)

/-- The values that round to the magnitude of a rank: the ends belong to it if the rank is even. -/
def intervalAt (rank : ℕ) : Set ℚ :=
  if rank % 2 = 0 then Set.Icc (lowAt rank) (highAt rank) else Set.Ioo (lowAt rank) (highAt rank)

theorem mem_intervalAt_iff : x ∈ intervalAt r ↔
    lowAt r ≤ x ∧ x ≤ highAt r ∧ (r % 2 = 1 → lowAt r < x ∧ x < highAt r) := by
  rw [intervalAt]
  split
  next h => simp [h]
  next h =>
    simp only [Set.mem_Ioo, Nat.mod_two_ne_zero.mp h, true_imp_iff]
    exact ⟨fun hx => ⟨hx.1.le, hx.2.le, hx⟩, fun hx => hx.2.2⟩

/-- Membership of a ratio, as a comparison of naturals. -/
theorem div_mem_intervalAt_iff {num den : ℕ} (hden : 0 < den) :
    (num / den : ℚ) ∈ intervalAt r ↔
      if r % 2 = 0 then
        (unitsAt (r - 1) + unitsAt r) * den ≤ 2 * num * unitsPerOne ∧
          2 * num * unitsPerOne ≤ (unitsAt r + unitsAt (r + 1)) * den
      else
        (unitsAt (r - 1) + unitsAt r) * den < 2 * num * unitsPerOne ∧
          2 * num * unitsPerOne < (unitsAt r + unitsAt (r + 1)) * den := by
  have hunit : 0 < 2 * unitsPerOne := Nat.mul_pos two_pos unitsPerOne_pos
  have hcast : (2 * unitsPerOne : ℚ) = (2 * unitsPerOne : ℕ) := by
    rw [Nat.cast_mul, Nat.cast_ofNat]
  have hnum : num * (2 * unitsPerOne) = 2 * num * unitsPerOne := by
    rw [Nat.mul_comm 2 num, Nat.mul_assoc]
  have hbelow (a : ℕ) : (a / (2 * unitsPerOne) : ℚ) ≤ num / den ↔
      a * den ≤ 2 * num * unitsPerOne := by
    rw [hcast, cast_div_le_div_iff hunit hden, hnum]
  have habove (a : ℕ) : (num / den : ℚ) ≤ a / (2 * unitsPerOne) ↔
      2 * num * unitsPerOne ≤ a * den := by
    rw [hcast, cast_div_le_div_iff hden hunit, hnum]
  rw [intervalAt, lowAt, highAt]
  split
  · rw [Set.mem_Icc, hbelow, habove]
  · rw [Set.mem_Ioo, ← @not_le ℚ, ← @not_le ℚ, hbelow, habove, Nat.not_le, Nat.not_le]

theorem lowAt_pos (h : r ≠ 0) : 0 < lowAt r := by
  have hlt : unitsAt 0 < unitsAt r := unitsAt_strictMono (by omega)
  exact div_pos (Nat.cast_pos.mpr (by omega)) two_mul_unitsPerOne_pos

/-- Neighbours share one end, of which only the one with the even rank takes hold. -/
theorem lt_of_mem_intervalAt (h : r < s) (hx : x ∈ intervalAt r) (hy : y ∈ intervalAt s) :
    x < y := by
  rw [mem_intervalAt_iff] at hx hy
  by_cases hnext : s = r + 1
  · have hends : highAt r = lowAt s := by rw [highAt, lowAt, hnext, Nat.add_sub_cancel]
    rcases Nat.mod_two_eq_zero_or_one r with heven | hodd
    · have hother : s % 2 = 1 := by omega
      calc x ≤ highAt r := hx.2.1
        _ = lowAt s := hends
        _ < y := (hy.2.2 hother).1
    · calc x < highAt r := (hx.2.2 hodd).2
        _ = lowAt s := hends
        _ ≤ y := hy.1
  · have hlower : unitsAt r < unitsAt (s - 1) := unitsAt_strictMono (by omega)
    have hupper : unitsAt (r + 1) ≤ unitsAt s := unitsAt_strictMono.monotone h
    have hends : highAt r < lowAt s := by
      rw [highAt, lowAt, div_lt_div_iff_of_pos_right two_mul_unitsPerOne_pos, Nat.cast_lt]
      omega
    calc x ≤ highAt r := hx.2.1
      _ < lowAt s := hends
      _ ≤ y := hy.1

/-- No value rounds to two magnitudes. -/
theorem eq_of_mem_intervalAt (hx : x ∈ intervalAt r) (hx' : x ∈ intervalAt s) : r = s := by
  rcases Nat.lt_trichotomy r s with h | h | h
  · exact absurd (lt_of_mem_intervalAt h hx hx') (lt_irrefl x)
  · exact h
  · exact absurd (lt_of_mem_intervalAt h hx' hx) (lt_irrefl x)

-- ════════════════════════════════════════════════════════════════════════
-- Values
-- ════════════════════════════════════════════════════════════════════════

/-- The exact value. -/
def value (m : Magnitude) : ℚ := m.units / unitsPerOne

/-- The values that round to the magnitude. -/
def interval (m : Magnitude) : Set ℚ := intervalAt m.rank

theorem mem_interval_of_lt (hlow : lowAt m.rank < x) (hhigh : x < highAt m.rank) :
    x ∈ m.interval :=
  mem_intervalAt_iff.mpr ⟨hlow.le, hhigh.le, fun _ => ⟨hlow, hhigh⟩⟩

/-- What lies between two values that round to a magnitude rounds to it. -/
theorem mem_interval_of_between (hx : x ∈ m.interval) (hz : z ∈ m.interval) (hxy : x ≤ y)
    (hyz : y ≤ z) : y ∈ m.interval := by
  rw [interval, mem_intervalAt_iff] at hx hz ⊢
  refine ⟨hx.1.trans hxy, hyz.trans hz.2.1, fun hodd => ?_⟩
  exact ⟨(hx.2.2 hodd).1.trans_le hxy, hyz.trans_lt (hz.2.2 hodd).2⟩

theorem lowAt_lt_value (h : m.rank ≠ 0) : lowAt m.rank < m.value := by
  have hlt : unitsAt (m.rank - 1) < unitsAt m.rank := unitsAt_strictMono (by omega)
  have hcast : (unitsAt (m.rank - 1) : ℚ) < unitsAt m.rank := Nat.cast_lt.mpr hlt
  have hunit := cast_unitsPerOne_pos
  rw [lowAt, value, units, div_lt_div_iff₀ two_mul_unitsPerOne_pos hunit, Nat.cast_add]
  nlinarith

theorem value_lt_highAt (m : Magnitude) : m.value < highAt m.rank := by
  have hlt : unitsAt m.rank < unitsAt (m.rank + 1) := unitsAt_strictMono (Nat.lt_add_one _)
  have hcast : (unitsAt m.rank : ℚ) < unitsAt (m.rank + 1) := Nat.cast_lt.mpr hlt
  have hunit := cast_unitsPerOne_pos
  rw [highAt, value, units, div_lt_div_iff₀ hunit two_mul_unitsPerOne_pos, Nat.cast_add]
  nlinarith

theorem value_mem_interval (h : m.rank ≠ 0) : m.value ∈ m.interval :=
  mem_interval_of_lt (lowAt_lt_value h) m.value_lt_highAt

theorem pos_of_mem_interval (h : m.rank ≠ 0) (hx : x ∈ m.interval) : 0 < x :=
  (lowAt_pos h).trans_le (mem_intervalAt_iff.mp hx).1

/-- A grid that is finer than one part in `10 ^ 16` of the magnitude hits the interval. -/
theorem value_lt_width (h : m.rank ≠ 0) :
    m.value < 10 ^ 16 * (highAt m.rank - lowAt m.rank) := by
  obtain ⟨r, hr⟩ := Nat.exists_eq_succ_of_ne_zero h
  have hwidth := unitsAt_lt_width r
  have hmono : unitsAt r ≤ unitsAt (r + 2) := unitsAt_strictMono.monotone (by omega)
  have hcast : (2 * unitsAt (r + 1) : ℚ) < 10 ^ 16 * (unitsAt (r + 2) - unitsAt r) := by
    rw [← Nat.cast_sub hmono]
    exact_mod_cast hwidth
  have hunit := cast_unitsPerOne_pos
  rw [value, highAt, lowAt, units, hr, Nat.succ_sub_one, ← sub_div, ← mul_div_assoc,
    div_lt_div_iff₀ hunit two_mul_unitsPerOne_pos]
  push_cast
  nlinarith

end Conform.Magnitude
