import Conform.Proofs.Number.Denoted
import Conform.Proofs.Number.Shortest

/-!
# Number text loses nothing

Messages write numbers as a JavaScript host does: it takes the shortest digits that read back and
lays them out by their count and by where the point stands. Here the layout is chosen by comparing
magnitudes, which comes to the same, and the text denotes exactly the decimal that was chosen. The
decimal is rounded to the number that it was chosen for, so that texts tell numbers apart.

## Main definitions

- `Decimal.hostText` — the layout of digits in a JavaScript host

## Main results

- `Magnitude.textWith_message` — magnitudes are laid out like that
- `Number.ofText?_text` — the text of a number is read as this number again
- `Number.text_eq_text_iff` — numbers with the same text are equal
-/

namespace Conform

namespace Decimal

/-- The layout of digits in a JavaScript host, by their count `k` and the place `n` of the point. -/
def hostText (d : Decimal) : String :=
  let cs := Nat.toDigits 10 d.digits
  let k : ℤ := cs.length
  let n := d.point
  let exponent := 'e' :: (if n - 1 < 0 then '-' else '+') :: Nat.toDigits 10 (n - 1).natAbs
  String.ofList <|
    if k ≤ n ∧ n ≤ 21 then cs ++ List.replicate (n - k).toNat '0'
    else if 0 < n ∧ n ≤ 21 then cs.take n.toNat ++ '.' :: cs.drop n.toNat
    else if -6 < n ∧ n ≤ 0 then '0' :: '.' :: (List.replicate (-n).toNat '0' ++ cs)
    else if k = 1 then cs ++ exponent
    else cs.take 1 ++ '.' :: (cs.drop 1 ++ exponent)

variable {d : Decimal}

theorem hostText_of_near (hlow : -6 < d.point) (hhigh : d.point ≤ 21) :
    d.hostText = d.positional "" := by
  have hpoint := d.point_eq
  rw [hostText, positional, hpoint]
  by_cases hwhole : 0 ≤ d.exponent
  · have hzeros : d.point - (Nat.toDigits 10 d.digits).length = d.exponent := by omega
    rw [if_pos ⟨by omega, hhigh⟩, if_pos hwhole, hzeros, String.append_empty]
  · rw [if_neg (by omega), if_neg hwhole]
    by_cases hinside : 0 < d.point
    · rw [if_pos ⟨hinside, hhigh⟩, if_pos hinside]
    · rw [if_neg (by omega), if_pos ⟨hlow, by omega⟩, if_neg hinside]

theorem hostText_of_far (h : d.point ≤ -6 ∨ 21 < d.point) : d.hostText = d.scientific "+" := by
  have hsign (e : ℤ) : (if e < 0 then "-" else "+").toList = [if e < 0 then '-' else '+'] := by
    split <;> rfl
  rw [hostText, scientific, point_eq, if_neg (by omega), if_neg (by omega), if_neg (by omega)]
  apply String.toList_inj.mp
  simp only [String.toList_append, String.toList_ofList, hsign]
  obtain ⟨c, cs, hcs⟩ :=
    List.exists_cons_of_ne_nil (Nat.toDigits_ne_nil (b := 10) (n := d.digits))
  rw [hcs]
  cases cs with
  | nil =>
    rw [if_pos (by rfl), List.append_assoc, List.append_assoc]
    rfl
  | cons c' cs =>
    rw [if_neg (by rw [List.length_cons, List.length_cons]; omega), List.append_assoc,
      List.append_assoc]
    rfl

theorem e_mem_hostText_iff : 'e' ∈ d.hostText.toList ↔ d.point ≤ -6 ∨ 21 < d.point := by
  have hdigits : 'e' ∉ Nat.toDigits 10 d.digits := fun h =>
    absurd (Nat.isDigit_of_mem_toDigits (by decide) (by decide) h) (by decide)
  have htake (n : ℕ) : 'e' ∉ (Nat.toDigits 10 d.digits).take n := fun h =>
    hdigits (List.mem_of_mem_take h)
  have hdrop (n : ℕ) : 'e' ∉ (Nat.toDigits 10 d.digits).drop n := fun h =>
    hdigits (List.mem_of_mem_drop h)
  rw [hostText, String.toList_ofList]
  split
  next h => exact iff_of_false (by simp [hdigits]) (by omega)
  next h =>
    split
    next h => exact iff_of_false (by simp [htake, hdrop]) (by omega)
    next h =>
      split
      next h => exact iff_of_false (by simp [hdigits]) (by omega)
      next h => exact iff_of_true (by split <;> simp) (by omega)

theorem spells_hostText (d : Decimal) : Number.Spells d.hostText.toList d.value := by
  by_cases h : d.point ≤ -6 ∨ 21 < d.point
  · rw [hostText_of_far h]
    exact Number.spells_scientific d
  · rw [hostText_of_near (by omega) (by omega)]
    exact Number.spells_positional d

end Decimal

namespace Magnitude

variable {m bound : Magnitude} {tie : Tie}

/-- The interval of a magnitude whose shortest decimal is a power of ten begins where the shortest
    decimals reach this power. -/
theorem pow_le_value_shortest_iff {p : ℤ} (hm : m.rank ≠ 0) (hbound : bound.rank ≠ 0)
    (h : bound.shortest tie = ⟨1, p⟩) :
    10 ^ p ≤ (m.shortest tie).value ↔ bound.rank ≤ m.rank := by
  have hreads := readsBack_iff.mp (isShortest_shortest hm tie).readsBack
  have hpower := readsBack_iff.mp (isShortest_shortest hbound tie).readsBack
  rw [h, Decimal.value_one] at hpower
  rcases Nat.lt_trichotomy m.rank bound.rank with hlt | heq | hgt
  · exact iff_of_false (not_le.mpr (lt_of_mem_intervalAt hlt hreads hpower)) (by omega)
  · rw [eq_of_rank_eq heq, h, Decimal.value_one]
    exact iff_of_true le_rfl le_rfl
  · exact iff_of_true (lt_of_mem_intervalAt hgt hpower hreads).le hgt.le

theorem positionalBelow_rank_le_iff (h : m.rank ≠ 0) :
    Layout.message.positionalBelow.rank ≤ m.rank ↔ 21 < (m.shortest .larger).point := by
  have hshortest : Layout.message.positionalBelow.shortest .larger = ⟨1, 21⟩ := by decide +kernel
  have hpow := pow_le_value_shortest_iff h (by decide +kernel) hshortest
  have hdigits := digits_ne_zero h (isShortest_shortest h .larger).readsBack
  rw [← hpow, ← not_lt, Decimal.value_lt_pow_iff hdigits, not_le]

theorem rank_lt_positionalFrom_iff (h : m.rank ≠ 0) :
    m.rank < Layout.message.positionalFrom.rank ↔ (m.shortest .larger).point ≤ -6 := by
  have hshortest : Layout.message.positionalFrom.shortest .larger = ⟨1, -6⟩ := by decide +kernel
  have hpow := pow_le_value_shortest_iff h (by decide +kernel) hshortest
  have hdigits := digits_ne_zero h (isShortest_shortest h .larger).readsBack
  rw [← Nat.not_le, ← hpow, not_le, Decimal.value_lt_pow_iff hdigits]

/-- The layout is chosen by comparing magnitudes, which comes to the same. -/
theorem textWith_message (h : m.rank ≠ 0) :
    m.textWith .message = (m.shortest .larger).hostText := by
  have hbelow := positionalBelow_rank_le_iff h
  have hfrom := rank_lt_positionalFrom_iff h
  rw [textWith]
  split
  next hfar =>
    rw [hbelow, hfrom] at hfar
    exact (Decimal.hostText_of_far hfar.symm).symm
  next hnear =>
    rw [hbelow, hfrom, not_or, not_lt, not_le] at hnear
    exact (Decimal.hostText_of_near hnear.2 hnear.1).symm

end Magnitude

namespace Number

variable {negative : Bool} {m : Magnitude} {x y : Number}

theorem text_of_ne_zero (h : m.rank ≠ 0) :
    (finite negative m).text = (if negative then "-" else "") ++ (m.shortest .larger).hostText := by
  rw [text, if_neg h, Magnitude.textWith_message h]

theorem text_of_eq_zero (h : m.rank = 0) : (finite negative m).text = "0" := if_pos h

/-- The text of a number is read as this number again, but for the sign of a zero and for what
    tells one not-a-number from another. -/
theorem ofText?_text (x : Number) : ∃ y, ofText? x.text = some y ∧ y.Same x := by
  cases x with
  | nan =>
    have hname : ofText? "NaN" = some (nan false .quiet) := by decide +kernel
    exact ⟨nan false .quiet, hname, .inr ⟨trivial, trivial⟩⟩
  | infinity negative =>
    refine ⟨infinity negative, ?_, .inl (eq_self_iff.mpr nofun)⟩
    cases negative <;> decide +kernel
  | finite negative m =>
    by_cases h : m.rank = 0
    · rw [text_of_eq_zero h]
      exact ⟨zero, by decide +kernel, .inl (eq_finite_iff.mpr ⟨h.symm, .inr rfl⟩)⟩
    · have hreads := Magnitude.readsBack_iff.mp (Magnitude.isShortest_shortest h .larger).readsBack
      have hspells := (m.shortest .larger).spells_hostText
      rw [text_of_ne_zero h, hspells.ofText?_eq h hreads]
      exact ⟨finite negative m, rfl, .inl (eq_self_iff.mpr nofun)⟩

theorem denoted?_zero : denoted? "0" = some 0 := by
  have hdigit : ∀ c ∈ ['0'], c.isDigit = true := by simp
  have hspells := spells_whole hdigit (List.cons_ne_nil _ _)
  rw [show digitsValue ['0'] = 0 from rfl, Nat.cast_zero] at hspells
  exact hspells.denoted? (s := "0") false

theorem text_eq_text_iff : x.text = y.text ↔ x.Same y := by
  constructor
  · intro h
    obtain ⟨z, hz, hzx⟩ := ofText?_text x
    obtain ⟨z', hz', hzy⟩ := ofText?_text y
    rw [h, hz', Option.some.injEq] at hz
    exact hzx.symm.trans (hz ▸ hzy)
  · exact Same.text_eq

theorem text_finite_ne (h : (finite negative m).eq y = false) :
    (finite negative m).text ≠ y.text := by
  intro htext
  rcases text_eq_text_iff.mp htext with heq | hnan
  · rw [h] at heq
    cases heq
  · exact hnan.1

theorem e_mem_text_iff (h : m.rank ≠ 0) :
    'e' ∈ (finite negative m).text.toList ↔
      (ofDecimal false 1 21).le (finite false m) = true ∨
        (ofDecimal false 1 (-6)).le (finite false m) = false := by
  have hbelow : ofDecimal false 1 21 = finite false Layout.message.positionalBelow := by
    decide +kernel
  have hfrom : ofDecimal false 1 (-6) = finite false Layout.message.positionalFrom := by
    decide +kernel
  have hle (a : Magnitude) : (finite false a).le (finite false m) = decide (a.rank ≤ m.rank) := by
    simp [le, signedRank]
  have hsign : 'e' ∉ (if negative then "-" else "").toList := by cases negative <;> decide
  rw [hbelow, hfrom, hle, hle, decide_eq_true_eq, decide_eq_false_iff_not, not_le,
    Magnitude.positionalBelow_rank_le_iff h, Magnitude.rank_lt_positionalFrom_iff h,
    text_of_ne_zero h, String.toList_append, List.mem_append, or_iff_right hsign,
    Decimal.e_mem_hostText_iff, or_comm]

-- ════════════════════════════════════════════════════════════════════════
-- The text of all numbers
-- ════════════════════════════════════════════════════════════════════════

/-- The text of a number is the layout of a JavaScript host, with an exponent from the doubles
    `1e21` on and below `1e-6`, applied to the shortest decimal that reads back. It denotes that
    decimal and is read as the number again, so it tells all numbers apart but the two zeros and the
    kinds of not-a-number, and no finite number is written with the name of another. -/
theorem text_loses_nothing :
    (∀ (negative : Bool) (m : Magnitude), m.rank ≠ 0 →
      m.IsShortest (m.shortest .larger) ∧
      (finite negative m).text =
        (if negative then "-" else "") ++ (m.shortest .larger).hostText ∧
      ('e' ∈ (finite negative m).text.toList ↔
        (ofDecimal false 1 21).le (finite false m) = true ∨
          (ofDecimal false 1 (-6)).le (finite false m) = false) ∧
      denoted? (finite negative m).text =
        some (if negative then -(m.shortest .larger).value else (m.shortest .larger).value)) ∧
    (∀ (negative : Bool) (m : Magnitude), m.rank = 0 →
      (finite negative m).text = "0" ∧ denoted? "0" = some 0) ∧
    (∀ x : Number, ∃ y, ofText? x.text = some y ∧ y.Same x) ∧
    (∀ x y : Number, x.text = y.text ↔ x.eq y = true ∨ x.IsNan ∧ y.IsNan) ∧
    ∀ (negative : Bool) (m : Magnitude),
      (finite negative m).text ∉ ["NaN", "Infinity", "-Infinity"] := by
  refine ⟨fun negative m h => ⟨Magnitude.isShortest_shortest h .larger, text_of_ne_zero h,
    e_mem_text_iff h, ?_⟩, fun negative m h => ⟨text_of_eq_zero h, denoted?_zero⟩, ofText?_text,
    fun x y => text_eq_text_iff, fun negative m hmem => ?_⟩
  · rw [text_of_ne_zero h]
    exact (Decimal.spells_hostText _).denoted? negative
  · simp only [List.mem_cons, List.not_mem_nil, or_false] at hmem
    rcases hmem with h | h | h
    · exact text_finite_ne (y := nan false .quiet) rfl h
    · exact text_finite_ne (y := infinity false) rfl h
    · exact text_finite_ne (y := infinity true) rfl h

/-- The largest magnitude below `1e21`. -/
def largestPositional : Magnitude := ⟨Layout.message.positionalBelow.rank - 1, by decide +kernel⟩

theorem text_loses_nothing_at_bound :
    let bound := Layout.message.positionalBelow
    bound.rank ≠ 0 ∧ bound.IsShortest ⟨1, 21⟩ ∧ (finite true bound).text = "-1e+21" ∧
      denoted? (finite true bound).text = some (-10 ^ (21 : ℤ)) ∧
      largestPositional.rank ≠ 0 ∧
      (finite true largestPositional).text = "-999999999999999900000" ∧
      (finite true bound).text ≠ (finite true largestPositional).text := by
  have hbound : Layout.message.positionalBelow.rank ≠ 0 := by decide +kernel
  have hlargest : largestPositional.rank ≠ 0 := by decide +kernel
  have hone : Layout.message.positionalBelow.shortest .larger = ⟨1, 21⟩ := by decide +kernel
  have hnines : largestPositional.shortest .larger = ⟨9999999999999999, 5⟩ := by decide +kernel
  obtain ⟨hfinite, -, -, htexts, -⟩ := text_loses_nothing
  obtain ⟨hshortest, htext, -, hdenoted⟩ := hfinite true _ hbound
  obtain ⟨-, htext', -, -⟩ := hfinite true _ hlargest
  rw [hone] at hshortest htext hdenoted
  rw [hnines] at htext'
  refine ⟨hbound, hshortest, htext.trans (by decide), ?_, hlargest, htext'.trans (by decide), ?_⟩
  · rw [hdenoted, Decimal.value_one]
    rfl
  · rw [ne_eq, htexts, not_or]
    exact ⟨by decide +kernel, fun h => h.1⟩

end Number

end Conform
