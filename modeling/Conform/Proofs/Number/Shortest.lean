import Mathlib.Algebra.Order.Floor.Semifield
import Mathlib.Data.Rat.Floor
import Conform.Proofs.Number.Decimals
import Conform.Proofs.Number.Magnitudes

/-!
# Shortest decimals

What the search for the shortest decimal finds. A magnitude lies between two powers of ten; below
the upper one grids of one, two, … digits are tried. If anything on a grid reads back, then one of
the two neighbours of the magnitude does, and on the grid of seventeen digits one of them always
does. So the search ends; what it finds reads back, nothing with fewer digits does, and nothing with
as many is nearer.

## Main definitions

- `Magnitude.FoundFirst` — what the search stops at
- `Magnitude.IsShortest` — a decimal without trailing zeros that reads back with the fewest digits

## Main results

- `Magnitude.readsBack_iff` — reading back is lying in the interval
- `Magnitude.onGrid?_seventeen` — seventeen digits suffice
- `Magnitude.isShortest_shortest` — the shortest decimal is one
-/

namespace Conform

namespace Magnitude

variable {m : Magnitude} {d : Decimal} {e : ℤ} {tie : Tie}

-- ════════════════════════════════════════════════════════════════════════
-- Reading back
-- ════════════════════════════════════════════════════════════════════════

theorem readsBack_iff : m.ReadsBack d ↔ d.value ∈ m.interval := by
  rw [d.value_eq_div, interval, div_mem_intervalAt_iff d.denominator_pos]
  rfl

theorem digits_ne_zero (hm : m.rank ≠ 0) (hd : m.ReadsBack d) : d.digits ≠ 0 :=
  Decimal.value_pos_iff.mp (pos_of_mem_interval hm (readsBack_iff.mp hd))

theorem readsBack_dropZero : m.ReadsBack d.dropZero ↔ m.ReadsBack d := by
  rw [readsBack_iff, readsBack_iff, Decimal.value_dropZero]

-- ════════════════════════════════════════════════════════════════════════
-- Powers of ten
-- ════════════════════════════════════════════════════════════════════════

theorem value_pos (h : m.rank ≠ 0) : 0 < m.value := (lowAt_pos h).trans (lowAt_lt_value h)

theorem atLeastPower_iff : m.atLeastPower e = true ↔ 10 ^ e ≤ m.value := by
  rw [atLeastPower, decide_eq_true_eq, value, zpow_ten_eq_div,
    cast_div_le_div_iff (Nat.pow_pos (by decide)) unitsPerOne_pos]
  rfl

/-- The lengths of a numerator and a denominator leave two places for the point. -/
theorem div_between {a b : ℕ} (ha : a ≠ 0) (hb : b ≠ 0) :
    let guess : ℤ := (Nat.toDigits 10 a).length - (Nat.toDigits 10 b).length
    (10 : ℚ) ^ (guess - 1) ≤ a / b ∧ (a / b : ℚ) < 10 ^ (guess + 1) := by
  have hvalue (n : ℕ) : (⟨n, 0⟩ : Decimal).value = n := by simp [Decimal.value]
  have hpoint (n : ℕ) : (⟨n, 0⟩ : Decimal).point = (Nat.toDigits 10 n).length := by
    simp [Decimal.point, Decimal.length]
  have halow := Decimal.pow_le_value (d := ⟨a, 0⟩) ha
  have hahigh := Decimal.value_lt_pow ⟨a, 0⟩
  have hblow := Decimal.pow_le_value (d := ⟨b, 0⟩) hb
  have hbhigh := Decimal.value_lt_pow ⟨b, 0⟩
  rw [hvalue, hpoint] at halow hahigh hblow hbhigh
  have hbpos : (0 : ℚ) < b := Nat.cast_pos.mpr (Nat.pos_of_ne_zero hb)
  intro guess
  constructor
  · rw [le_div_iff₀ hbpos]
    calc (10 : ℚ) ^ (guess - 1) * b
        ≤ 10 ^ (guess - 1) * 10 ^ ((Nat.toDigits 10 b).length : ℤ) :=
          mul_le_mul_of_nonneg_left hbhigh.le (zpow_ten_pos _).le
      _ = 10 ^ (((Nat.toDigits 10 a).length : ℤ) - 1) := zpow_ten_mul_zpow_ten (by omega)
      _ ≤ a := halow
  · rw [div_lt_iff₀ hbpos]
    calc (a : ℚ) < 10 ^ ((Nat.toDigits 10 a).length : ℤ) := hahigh
      _ = 10 ^ (guess + 1) * 10 ^ (((Nat.toDigits 10 b).length : ℤ) - 1) :=
          (zpow_ten_mul_zpow_ten (by omega)).symm
      _ ≤ 10 ^ (guess + 1) * b := mul_le_mul_of_nonneg_left hblow (zpow_ten_pos _).le

/-- A magnitude lies between the power of ten at its point and the one before. -/
theorem decimalPoint_bounds (h : m.rank ≠ 0) :
    10 ^ (m.decimalPoint - 1) ≤ m.value ∧ m.value < 10 ^ m.decimalPoint := by
  have hunits : m.units ≠ 0 := by
    intro hzero
    have hpos := value_pos h
    rw [value, hzero, Nat.cast_zero, zero_div] at hpos
    exact lt_irrefl 0 hpos
  have hbetween := div_between hunits unitsPerOne_pos.ne'
  rw [decimalPoint]
  split
  next hpower =>
    rw [Int.add_sub_cancel]
    exact ⟨atLeastPower_iff.mp hpower, hbetween.2⟩
  next hpower =>
    rw [atLeastPower_iff, not_le] at hpower
    exact ⟨hbetween.1, hpower⟩

-- ════════════════════════════════════════════════════════════════════════
-- Grids
-- ════════════════════════════════════════════════════════════════════════

/-- As many steps of the grid as fit below the magnitude. -/
theorem digits_floorOnGrid (m : Magnitude) (e : ℤ) :
    (m.floorOnGrid e).digits = Nat.floor (m.value / 10 ^ e) := by
  have hdiv : m.value / 10 ^ e =
      (m.units * 10 ^ (-e).toNat : ℕ) / (unitsPerOne * 10 ^ e.toNat : ℕ) := by
    rw [value, zpow_ten_eq_div, div_div_div_eq]
    push_cast
    rfl
  rw [hdiv, Nat.floor_div_eq_div]
  rfl

theorem le_digits_floorOnGrid_iff :
    d.digits ≤ (m.floorOnGrid d.exponent).digits ↔ d.value ≤ m.value := by
  have hnonneg : 0 ≤ m.value := div_nonneg (Nat.cast_nonneg _) cast_unitsPerOne_pos.le
  have hpow := zpow_ten_pos d.exponent
  rw [digits_floorOnGrid, Nat.le_floor_iff (div_nonneg hnonneg hpow.le), le_div_iff₀ hpow,
    Decimal.value]

theorem value_floorOnGrid_le (m : Magnitude) (e : ℤ) : (m.floorOnGrid e).value ≤ m.value :=
  le_digits_floorOnGrid_iff.mp (Nat.le_refl _)

/-- The next decimal on the grid. -/
def ceilOnGrid (m : Magnitude) (e : ℤ) : Decimal := ⟨(m.floorOnGrid e).digits + 1, e⟩

theorem value_lt_ceilOnGrid (m : Magnitude) (e : ℤ) : m.value < (m.ceilOnGrid e).value := by
  by_contra h
  have hdigits := le_digits_floorOnGrid_iff.mpr (not_lt.mp h)
  exact Nat.not_succ_le_self _ hdigits

theorem value_ceilOnGrid (m : Magnitude) (e : ℤ) :
    (m.ceilOnGrid e).value = (m.floorOnGrid e).value + 10 ^ e := by
  rw [ceilOnGrid, floorOnGrid, Decimal.value, Decimal.value]
  push_cast
  ring

/-- The grid with as many digits before its step as stand between it and the point. -/
theorem digits_floorOnGrid_lt (h : m.rank ≠ 0) (n : ℕ) :
    (m.floorOnGrid (m.decimalPoint - n)).digits < 10 ^ n := by
  by_contra h'
  have hle := (le_digits_floorOnGrid_iff (d := ⟨10 ^ n, m.decimalPoint - n⟩)).mp (not_lt.mp h')
  refine absurd hle (not_le.mpr ?_)
  calc m.value < 10 ^ m.decimalPoint := (decimalPoint_bounds h).2
    _ = 10 ^ n * 10 ^ (m.decimalPoint - n) := (pow_mul_zpow_ten (by omega)).symm
    _ = (10 ^ n : ℕ) * 10 ^ (m.decimalPoint - n) := by rw [Nat.cast_pow, Nat.cast_ofNat]

theorem value_floorOnGrid_add_ceilOnGrid (m : Magnitude) (e : ℤ) :
    (m.floorOnGrid e).value + (m.ceilOnGrid e).value =
      ((2 * (m.floorOnGrid e).digits + 1 : ℕ) : ℚ) * 10 ^ e := by
  rw [value_ceilOnGrid, floorOnGrid, Decimal.value]
  push_cast
  ring

theorem two_mul_value (m : Magnitude) : 2 * m.value = (2 * m.units : ℕ) / unitsPerOne := by
  rw [value, Nat.cast_mul, Nat.cast_ofNat, mul_div_assoc]

/-- Below the middle between two decimals of a grid the lower one is nearer. -/
theorem le_middle_of_nearerBelow (h : m.nearerBelow tie d = true) :
    2 * m.value ≤ ((2 * d.digits + 1 : ℕ) : ℚ) * 10 ^ d.exponent := by
  have hden : 0 < 10 ^ (-d.exponent).toNat := d.denominator_pos
  rw [nearerBelow, Bool.or_eq_true, Bool.and_eq_true, Bool.and_eq_true] at h
  rw [two_mul_value, mul_zpow_ten_eq_div, cast_div_le_div_iff unitsPerOne_pos hden]
  rcases h with h | h
  · exact (of_decide_eq_true h).le
  · exact (of_decide_eq_true h.1.1).le

theorem middle_le_of_not_nearerBelow (h : ¬ m.nearerBelow tie d = true) :
    ((2 * d.digits + 1 : ℕ) : ℚ) * 10 ^ d.exponent ≤ 2 * m.value := by
  have hden : 0 < 10 ^ (-d.exponent).toNat := d.denominator_pos
  rw [nearerBelow, Bool.or_eq_true, not_or, decide_eq_true_eq, not_lt] at h
  rw [two_mul_value, mul_zpow_ten_eq_div, cast_div_le_div_iff hden unitsPerOne_pos]
  exact h.1

/-- What is found on a grid is a neighbour of the magnitude, and the other one is no nearer. -/
theorem onGrid?_cases (h : m.onGrid? tie e = some d) :
    let below := m.floorOnGrid e
    let above := m.ceilOnGrid e
    m.ReadsBack d ∧
      (d = below ∧ (m.ReadsBack above → m.value - below.value ≤ above.value - m.value) ∨
        d = above ∧ (m.ReadsBack below → above.value - m.value ≤ m.value - below.value)) := by
  have hsum := m.value_floorOnGrid_add_ceilOnGrid e
  rw [onGrid?] at h
  split at h
  next hbelow habove =>
    by_cases hnear : m.nearerBelow tie (m.floorOnGrid e) = true
    · rw [if_pos hnear] at h
      cases h
      have hmiddle := le_middle_of_nearerBelow hnear
      refine ⟨of_decide_eq_true hbelow, .inl ⟨rfl, fun _ => ?_⟩⟩
      rw [sub_le_sub_iff, ← two_mul, add_comm, hsum]
      exact hmiddle
    · rw [if_neg hnear] at h
      cases h
      have hmiddle := middle_le_of_not_nearerBelow hnear
      refine ⟨of_decide_eq_true habove, .inr ⟨rfl, fun _ => ?_⟩⟩
      rw [sub_le_sub_iff, ← two_mul, add_comm, hsum]
      exact hmiddle
  next hbelow habove =>
    cases h
    exact ⟨of_decide_eq_true hbelow, .inl ⟨rfl, fun h => absurd h (of_decide_eq_false habove)⟩⟩
  next hbelow habove =>
    cases h
    exact ⟨of_decide_eq_true habove, .inr ⟨rfl, fun h => absurd h (of_decide_eq_false hbelow)⟩⟩
  next => cases h

/-- What is found on a grid is nearest of all in the interval but between the neighbours. -/
theorem abs_sub_le_of_onGrid? (hm : m.rank ≠ 0) (h : m.onGrid? tie e = some d) {x : ℚ}
    (hx : x ∈ m.interval)
    (hout : x ≤ (m.floorOnGrid e).value ∨ (m.ceilOnGrid e).value ≤ x) :
    |d.value - m.value| ≤ |x - m.value| := by
  have hvalue := value_mem_interval hm
  have hfloor := m.value_floorOnGrid_le e
  have hceil := m.value_lt_ceilOnGrid e
  have hcases := (onGrid?_cases h).2
  rcases hout with hle | hge
  · have hreads := readsBack_iff.mpr (mem_interval_of_between hx hvalue hle hfloor)
    rw [abs_of_nonpos (sub_nonpos.mpr (hle.trans hfloor))]
    rcases hcases with ⟨rfl, -⟩ | ⟨rfl, hnear⟩
    · rw [abs_of_nonpos (sub_nonpos.mpr hfloor)]
      linarith
    · rw [abs_of_pos (sub_pos.mpr hceil)]
      linarith [hnear hreads]
  · have hreads := readsBack_iff.mpr (mem_interval_of_between hvalue hx hceil.le hge)
    rw [abs_of_pos (sub_pos.mpr (hceil.trans_le hge))]
    rcases hcases with ⟨rfl, hnear⟩ | ⟨rfl, -⟩
    · rw [abs_of_nonpos (sub_nonpos.mpr hfloor)]
      linarith [hnear hreads]
    · rw [abs_of_pos (sub_pos.mpr hceil)]
      linarith

theorem onGrid?_ne_none_iff : m.onGrid? tie e ≠ none ↔
    m.ReadsBack (m.floorOnGrid e) ∨ m.ReadsBack (m.ceilOnGrid e) := by
  rw [onGrid?]
  split <;> simp_all [ceilOnGrid]

/-- If anything on a grid reads back, then so does a neighbour of the magnitude. -/
theorem onGrid?_ne_none (hm : m.rank ≠ 0) (hd : m.ReadsBack d) :
    m.onGrid? tie d.exponent ≠ none := by
  rw [onGrid?_ne_none_iff, readsBack_iff, readsBack_iff]
  rw [readsBack_iff] at hd
  rcases le_or_gt d.value m.value with hle | hgt
  · have hdigits := le_digits_floorOnGrid_iff.mpr hle
    have hvalue : d.value ≤ (m.floorOnGrid d.exponent).value :=
      Decimal.value_le_value rfl hdigits
    exact .inl (mem_interval_of_between hd (value_mem_interval hm) hvalue
      (m.value_floorOnGrid_le d.exponent))
  · have hdigits : (m.floorOnGrid d.exponent).digits + 1 ≤ d.digits := by
      by_contra h
      exact absurd (le_digits_floorOnGrid_iff.mp (by omega)) (not_le.mpr hgt)
    have hvalue : (m.ceilOnGrid d.exponent).value ≤ d.value :=
      Decimal.value_le_value rfl hdigits
    exact .inr (mem_interval_of_between (value_mem_interval hm) hd
      (m.value_lt_ceilOnGrid d.exponent).le hvalue)

/-- Seventeen digits suffice: the interval is wider than a step of their grid. -/
theorem onGrid?_seventeen (h : m.rank ≠ 0) : m.onGrid? tie (m.decimalPoint - 17) ≠ none := by
  rw [onGrid?_ne_none_iff, readsBack_iff, readsBack_iff, or_iff_not_imp_left]
  intro hbelow
  have hfloor := m.value_floorOnGrid_le (m.decimalPoint - 17)
  have hlow : (m.floorOnGrid (m.decimalPoint - 17)).value ≤ lowAt m.rank := by
    by_contra h
    exact hbelow (mem_interval_of_lt (not_le.mp h) (hfloor.trans_lt m.value_lt_highAt))
  have hstep : (10 : ℚ) ^ 16 * 10 ^ (m.decimalPoint - 17) = 10 ^ (m.decimalPoint - 1) :=
    pow_mul_zpow_ten (by omega)
  have hwidth : 10 ^ (m.decimalPoint - 17) < highAt m.rank - lowAt m.rank := by
    have hten : (0 : ℚ) ≤ 10 ^ 16 := by norm_num
    refine lt_of_mul_lt_mul_left ?_ hten
    calc (10 : ℚ) ^ 16 * 10 ^ (m.decimalPoint - 17) = 10 ^ (m.decimalPoint - 1) := hstep
      _ ≤ m.value := (decimalPoint_bounds h).1
      _ < 10 ^ 16 * (highAt m.rank - lowAt m.rank) := value_lt_width h
  have hceil := m.value_lt_ceilOnGrid (m.decimalPoint - 17)
  refine mem_interval_of_lt ((lowAt_lt_value h).trans hceil) ?_
  rw [value_ceilOnGrid]
  linarith

-- ════════════════════════════════════════════════════════════════════════
-- The search
-- ════════════════════════════════════════════════════════════════════════

/-- The decimal is found on the grid of `n + 1` digits, and nothing on those with fewer. -/
structure FoundFirst (m : Magnitude) (tie : Tie) (n : ℕ) (d : Decimal) : Prop where
  found : m.onGrid? tie (m.decimalPoint - (n + 1 : ℕ)) = some d
  before : ∀ k < n, m.onGrid? tie (m.decimalPoint - (k + 1 : ℕ)) = none

theorem exists_foundFirst (h : m.rank ≠ 0) (tie : Tie) :
    ∃ n d, m.FoundFirst tie n d ∧ m.shortest tie = d.dropZero := by
  have hsome : ((List.range 17).findSome?
      fun n => m.onGrid? tie (m.decimalPoint - (n + 1 : ℕ))).isSome := by
    rw [List.findSome?_isSome_iff]
    exact ⟨16, by simp, Option.isSome_iff_ne_none.mpr (onGrid?_seventeen h)⟩
  obtain ⟨d, hd⟩ := Option.isSome_iff_exists.mp hsome
  obtain ⟨before, n, after, hrange, hn, hbefore⟩ := List.findSome?_eq_some_iff.mp hd
  refine ⟨n, d, ⟨hn, fun k hk => hbefore k ?_⟩, ?_⟩
  · -- the grids tried before are those with fewer digits
    have hsorted : (List.range 17).Pairwise (· < ·) := List.pairwise_lt_range
    have hmem : k ∈ List.range 17 := by
      have hn : n ∈ List.range 17 := by simp [hrange]
      rw [List.mem_range] at hn ⊢
      omega
    rw [hrange, List.pairwise_append, List.pairwise_cons] at hsorted
    rw [hrange, List.mem_append, List.mem_cons] at hmem
    rcases hmem with hmem | rfl | hmem
    · exact hmem
    · exact absurd hk (Nat.lt_irrefl k)
    · exact absurd (hsorted.2.1.1 k hmem) (Nat.lt_asymm hk)
  · rw [shortest]
    simp only [hd, Option.getD_some]

/-- If anything on the other side of a power of ten reads back, then so does that power. -/
theorem onGrid?_of_point_ne (hm : m.rank ≠ 0) (hd : m.ReadsBack d) (h : d.point ≠ m.decimalPoint) :
    m.onGrid? tie (m.decimalPoint - 1) ≠ none := by
  have hinterval := readsBack_iff.mp hd
  have hvalue := value_mem_interval hm
  have hbetween := decimalPoint_bounds hm
  have hdigits := digits_ne_zero hm hd
  rcases lt_or_gt_of_ne h with hlt | hgt
  · have hbelow := (Decimal.value_le_pow_of_point_lt hdigits hlt)
    refine onGrid?_ne_none (d := ⟨1, m.decimalPoint - 1⟩) hm (readsBack_iff.mpr ?_)
    rw [Decimal.value_one]
    exact mem_interval_of_between hinterval hvalue hbelow hbetween.1
  · have habove := (Decimal.pow_le_value_of_lt_point hdigits hgt)
    refine onGrid?_ne_none (d := ⟨10, m.decimalPoint - 1⟩) hm (readsBack_iff.mpr ?_)
    rw [Decimal.value_ten]
    exact mem_interval_of_between hvalue hinterval hbetween.2.le habove

namespace FoundFirst

variable {n : ℕ}

theorem readsBack (h : m.FoundFirst tie n d) : m.ReadsBack d := (onGrid?_cases h.found).1

theorem exponent_eq (h : m.FoundFirst tie n d) : d.exponent = m.decimalPoint - (n + 1 : ℕ) := by
  rcases (onGrid?_cases h.found).2 with ⟨hd, -⟩ | ⟨hd, -⟩ <;> rw [hd] <;> rfl

theorem digits_le (h : m.FoundFirst tie n d) (hm : m.rank ≠ 0) : d.digits ≤ 10 ^ (n + 1) := by
  have hlt := digits_floorOnGrid_lt hm (n + 1)
  rcases (onGrid?_cases h.found).2 with ⟨hd, -⟩ | ⟨hd, -⟩ <;> rw [hd]
  · exact hlt.le
  · exact hlt

/-- Powers of ten are on the first grid. -/
theorem eq_zero_of_point_ne (h : m.FoundFirst tie n d) (hm : m.rank ≠ 0) {d' : Decimal}
    (hd' : m.ReadsBack d') (hpoint : d'.point ≠ m.decimalPoint) : n = 0 := by
  by_contra hn
  exact onGrid?_of_point_ne hm hd' hpoint (h.before 0 (Nat.pos_of_ne_zero hn))

theorem lt_length (h : m.FoundFirst tie n d) (hm : m.rank ≠ 0) {d' : Decimal}
    (hd' : m.ReadsBack d') : n < d'.length := by
  have hpos : 0 < d'.length := length_toDigits_pos d'.digits
  by_cases hpoint : d'.point = m.decimalPoint
  · -- a decimal with this point lies on the grid of its own length
    by_contra hlt
    have hgrid : m.decimalPoint - (d'.length - 1 + 1 : ℕ) = d'.exponent := by
      rw [← hpoint, Decimal.point]
      omega
    exact onGrid?_ne_none hm hd' (hgrid ▸ h.before (d'.length - 1) (by omega))
  · rwa [h.eq_zero_of_point_ne hm hd' hpoint]

theorem length_dropZero_le (h : m.FoundFirst tie n d) (hm : m.rank ≠ 0) :
    d.dropZero.length ≤ n + 1 := by
  have hle := h.digits_le hm
  rw [Decimal.length, Nat.length_toDigits_le_iff (by decide) (by omega), Decimal.dropZero]
  split
  next =>
    have hpos : 0 < 10 ^ (n + 1) := Nat.pow_pos (by decide)
    show d.digits / 10 < 10 ^ (n + 1)
    omega
  next hzero =>
    have hten : 10 ^ (n + 1) % 10 = 0 := by rw [Nat.pow_succ, Nat.mul_mod_left]
    have hne : d.digits ≠ 10 ^ (n + 1) := fun heq =>
      hzero ⟨heq ▸ hten, digits_ne_zero hm h.readsBack⟩
    omega

/-- A trailing zero is left only of ten, since one digit fewer was tried before. -/
theorem digits_dropZero_mod_ten (h : m.FoundFirst tie n d) (hm : m.rank ≠ 0) :
    d.dropZero.digits % 10 ≠ 0 := by
  rw [Decimal.dropZero]
  split
  next hzero =>
    have hn : n = 0 := by
      by_contra hn
      have hdrop := readsBack_dropZero.mpr h.readsBack
      rw [Decimal.dropZero, if_pos hzero] at hdrop
      have hgrid : m.decimalPoint - (n - 1 + 1 : ℕ) = d.exponent + 1 := by
        rw [h.exponent_eq]
        omega
      exact onGrid?_ne_none hm hdrop (hgrid ▸ h.before (n - 1) (by omega))
    have hten := h.digits_le hm
    rw [hn, Nat.zero_add, Nat.pow_one] at hten
    show d.digits / 10 % 10 ≠ 0
    omega
  next hzero => exact fun hmod => hzero ⟨hmod, digits_ne_zero hm h.readsBack⟩

/-- Other decimals of the same length lie on the same grid or behind a power of ten. -/
theorem abs_sub_le (h : m.FoundFirst tie n d) (hm : m.rank ≠ 0) {d' : Decimal}
    (hd' : m.ReadsBack d') (hlength : d'.length = n + 1) :
    |d.value - m.value| ≤ |d'.value - m.value| := by
  refine abs_sub_le_of_onGrid? hm h.found (readsBack_iff.mp hd') ?_
  have hdigits := digits_ne_zero hm hd'
  by_cases hpoint : d'.point = m.decimalPoint
  · have hgrid : d'.exponent = m.decimalPoint - (n + 1 : ℕ) := by
      rw [← hpoint, ← hlength, Decimal.point]
      omega
    rw [← hgrid]
    rcases Nat.lt_or_ge (m.floorOnGrid d'.exponent).digits d'.digits with hlt | hge
    · exact .inr (Decimal.value_le_value rfl hlt)
    · exact .inl (Decimal.value_le_value rfl hge)
  · obtain rfl := h.eq_zero_of_point_ne hm hd' hpoint
    have hbetween := decimalPoint_bounds hm
    rcases lt_or_gt_of_ne hpoint with hlt | hgt
    · have hfloor := (le_digits_floorOnGrid_iff (m := m) (d := ⟨1, m.decimalPoint - 1⟩)).mpr
        (Decimal.value_one ▸ hbetween.1)
      refine .inl ((Decimal.value_le_pow_of_point_lt hdigits hlt).trans ?_)
      rw [← Decimal.value_one]
      exact Decimal.value_le_value rfl hfloor
    · have hceil := digits_floorOnGrid_lt hm 1
      refine .inr (le_trans ?_ (Decimal.pow_le_value_of_lt_point hdigits hgt))
      rw [← Decimal.value_ten]
      exact Decimal.value_le_value rfl hceil

end FoundFirst

/-- A decimal without trailing zeros that reads back to the magnitude, with the fewest digits, and
    of all such decimals a nearest one. -/
structure IsShortest (m : Magnitude) (d : Decimal) : Prop where
  readsBack : m.ReadsBack d
  length_le : ∀ d', m.ReadsBack d' → d.length ≤ d'.length
  abs_sub_le : ∀ d', m.ReadsBack d' → d'.length = d.length →
    |d.value - m.value| ≤ |d'.value - m.value|
  digits_mod_ten : d.digits % 10 ≠ 0

theorem isShortest_shortest (hm : m.rank ≠ 0) (tie : Tie) : m.IsShortest (m.shortest tie) := by
  obtain ⟨n, d, h, hshortest⟩ := exists_foundFirst hm tie
  have hlength := h.length_dropZero_le hm
  rw [hshortest]
  refine ⟨readsBack_dropZero.mpr h.readsBack, fun d' hd' => ?_, fun d' hd' heq => ?_,
    h.digits_dropZero_mod_ten hm⟩
  · exact hlength.trans (h.lt_length hm hd')
  · rw [Decimal.value_dropZero]
    exact h.abs_sub_le hm hd' ((heq.trans_le hlength).antisymm (h.lt_length hm hd'))

end Magnitude

end Conform
