import Conform.Number.Parse
import Conform.Proofs.Number.Rounding
import Conform.Proofs.Numeral
import Conform.Proofs.Text.Runs

/-!
# What number text denotes

The decimal that a text spells, without the rounding that follows when a number is read from it.
Positional and scientific notation both spell the decimal that they write.

## Main definitions

- `Number.decimalOf?` — the decimal that some characters spell
- `Number.denoted?` — the rational number that a text denotes

## Main results

- `Number.ofDecimalText?_eq` — a number is read by rounding the decimal that is spelled
- `Number.spells_positional`, `Number.spells_scientific` — the two notations spell their decimal
-/

namespace Conform.Number

/-- The decimal that some characters spell. -/
def decimalOf? (cs : List Char) : Option Decimal :=
  let whole := cs.takeWhile Char.isDigit
  let (places, rest) := match cs.dropWhile Char.isDigit with
    | '.' :: rest => (rest.takeWhile Char.isDigit, rest.dropWhile Char.isDigit)
    | rest => ([], rest)
  if whole = [] ∧ places = [] then none
  else (exponentOf? rest).map fun e => ⟨digitsValue (whole ++ places), e - places.length⟩

theorem ofDecimalText?_eq (negative : Bool) (cs : List Char) :
    ofDecimalText? negative cs =
      (decimalOf? cs).map fun d => ofDecimal negative d.digits d.exponent := by
  simp only [ofDecimalText?, decimalOf?, apply_ite (Option.map _), Option.map_none, Option.map_map]
  rfl

/-- The rational number that a text denotes. -/
def denoted? (s : String) : Option ℚ :=
  let (negative, cs) := splitSign s.toList
  (decimalOf? cs).map fun d => if negative then -d.value else d.value

-- ════════════════════════════════════════════════════════════════════════
-- Digits
-- ════════════════════════════════════════════════════════════════════════

theorem digitsValue_toDigits (n : Nat) : digitsValue (Nat.toDigits 10 n) = n :=
  Numeral.ofDigits_toDigits n

theorem digitsValue_append_zeros (cs : List Char) (z : Nat) :
    digitsValue (cs ++ List.replicate z '0') = digitsValue cs * 10 ^ z := by
  show Nat.ofDigitChars 10 _ 0 = Nat.ofDigitChars 10 cs 0 * 10 ^ z
  rw [Nat.ofDigitChars_append, Nat.ofDigitChars_replicate_zero, Nat.mul_comm]

theorem digitsValue_zeros_append (z : Nat) (cs : List Char) :
    digitsValue (List.replicate z '0' ++ cs) = digitsValue cs := by
  show Nat.ofDigitChars 10 _ 0 = Nat.ofDigitChars 10 cs 0
  rw [Nat.ofDigitChars_append, Nat.ofDigitChars_replicate_zero, Nat.mul_zero]

theorem isDigit_of_mem_toDigits {n : Nat} {c : Char} (h : c ∈ Nat.toDigits 10 n) :
    c.isDigit = true :=
  Nat.isDigit_of_mem_toDigits (by decide) (by decide) h

theorem isDigit_of_mem_zeros {z : Nat} {c : Char} (h : c ∈ List.replicate z '0') :
    c.isDigit = true := by
  rw [List.eq_of_mem_replicate h]
  rfl

theorem toLower_of_isDigit {c : Char} (h : c.isDigit = true) : c.toLower = c := by
  rw [Char.isDigit_iff_toNat] at h
  refine dif_neg ?_
  rintro ⟨hletter, -⟩
  have hletter : 'A'.toNat ≤ c.toNat := hletter
  have hnine : '9'.toNat < 'A'.toNat := by decide
  omega

-- ════════════════════════════════════════════════════════════════════════
-- Notations
-- ════════════════════════════════════════════════════════════════════════

variable {whole places : List Char} {x : ℚ} {e : ℤ}

/-- Characters that start with a digit and spell a decimal of some value. -/
structure Spells (cs : List Char) (x : ℚ) : Prop where
  head : ∃ c rest, cs = c :: rest ∧ c.isDigit = true
  value : (decimalOf? cs).map Decimal.value = some x

theorem head_digits (hwhole : ∀ c ∈ whole, c.isDigit = true) (hne : whole ≠ [])
    (rest : List Char) : ∃ c cs, whole ++ rest = c :: cs ∧ c.isDigit = true := by
  obtain ⟨c, cs, rfl⟩ := List.exists_cons_of_ne_nil hne
  exact ⟨c, cs ++ rest, rfl, hwhole c List.mem_cons_self⟩

theorem spells_whole (hwhole : ∀ c ∈ whole, c.isDigit = true) (hne : whole ≠ []) :
    Spells whole (digitsValue whole) := by
  have hhead := head_digits hwhole hne []
  have htake := Run.takeWhile_append hwhole Run.ends_nil
  have hdrop := Run.dropWhile_append hwhole Run.ends_nil
  rw [List.append_nil] at hhead htake hdrop
  refine ⟨hhead, ?_⟩
  simp [decimalOf?, htake, hdrop, hne, exponentOf?, Decimal.value]

theorem spells_point (hwhole : ∀ c ∈ whole, c.isDigit = true) (hne : whole ≠ [])
    (hplaces : ∀ c ∈ places, c.isDigit = true) {rest : List Char}
    (hrest : Run.Ends Char.isDigit rest) (he : exponentOf? rest = some e) :
    Spells (whole ++ '.' :: (places ++ rest))
      (digitsValue (whole ++ places) * 10 ^ (e - places.length)) := by
  refine ⟨head_digits hwhole hne _, ?_⟩
  have hpoint : Run.Ends Char.isDigit ('.' :: (places ++ rest)) := Run.ends_cons rfl
  simp [decimalOf?, Run.takeWhile_append hwhole hpoint, Run.dropWhile_append hwhole hpoint,
    Run.takeWhile_append hplaces hrest, Run.dropWhile_append hplaces hrest, hne, he,
    Decimal.value]

theorem spells_exponent (hwhole : ∀ c ∈ whole, c.isDigit = true) (hne : whole ≠ [])
    {rest : List Char} (he : exponentOf? ('e' :: rest) = some e) :
    Spells (whole ++ 'e' :: rest) (digitsValue whole * 10 ^ e) := by
  refine ⟨head_digits hwhole hne _, ?_⟩
  have hletter : Run.Ends Char.isDigit ('e' :: rest) := Run.ends_cons rfl
  simp [decimalOf?, Run.takeWhile_append hwhole hletter, Run.dropWhile_append hwhole hletter,
    hne, he, Decimal.value]

theorem exponentOf?_signed (e : ℤ) :
    exponentOf? ('e' :: (if e < 0 then '-' else '+') :: Nat.toDigits 10 e.natAbs) = some e := by
  have hdigits : (Nat.toDigits 10 e.natAbs).all Char.isDigit = true :=
    List.all_eq_true.mpr fun c hc => isDigit_of_mem_toDigits hc
  rcases lt_or_ge e 0 with hneg | hpos
  · simp [exponentOf?, splitSign, hneg, hdigits, digitsValue_toDigits, abs_of_neg hneg]
  · simp [exponentOf?, splitSign, not_lt.mpr hpos, hdigits, digitsValue_toDigits,
      abs_of_nonneg hpos]

/-- Digits with zeros after them, with a point among them or with zeros before them. -/
theorem spells_positional (d : Decimal) : Spells (d.positional "").toList d.value := by
  have hdigits : ∀ c ∈ Nat.toDigits 10 d.digits, c.isDigit = true :=
    fun c hc => isDigit_of_mem_toDigits hc
  have hlength := length_toDigits_pos d.digits
  have hvalue := digitsValue_toDigits d.digits
  rw [Decimal.positional, Decimal.value]
  generalize Nat.toDigits 10 d.digits = cs at *
  split
  next hwhole =>
    obtain ⟨z, hz⟩ := Int.eq_ofNat_of_zero_le hwhole
    have hall : ∀ c ∈ cs ++ List.replicate z '0', c.isDigit = true :=
      fun c hc => (List.mem_append.mp hc).elim (hdigits c) isDigit_of_mem_zeros
    have hspells := spells_whole hall
      (List.append_ne_nil_of_left_ne_nil (List.length_pos_iff.mp hlength) _)
    rw [digitsValue_append_zeros, hvalue, Nat.cast_mul, Nat.cast_pow] at hspells
    rw [hz, String.append_empty, String.toList_ofList, zpow_natCast]
    exact hspells
  next hwhole =>
    split
    next hpoint =>
      obtain ⟨n, hn⟩ := Int.eq_ofNat_of_zero_le hpoint.le
      have hwhole : ∀ c ∈ cs.take n, c.isDigit = true :=
        fun c hc => hdigits c (List.mem_of_mem_take hc)
      have hplaces : ∀ c ∈ cs.drop n, c.isDigit = true :=
        fun c hc => hdigits c (List.mem_of_mem_drop hc)
      have hne : cs.take n ≠ [] := List.length_pos_iff.mp (by rw [List.length_take]; omega)
      have hspells := spells_point (e := 0) hwhole hne hplaces Run.ends_nil rfl
      have hexponent : 0 - ((cs.drop n).length : ℤ) = d.exponent := by
        rw [List.length_drop]
        omega
      rw [List.take_append_drop, hvalue, hexponent, List.append_nil] at hspells
      rw [hn, String.toList_ofList]
      exact hspells
    next hpoint =>
      -- the zero in front of the point is one more that does not count
      obtain ⟨z, hz⟩ := Int.eq_ofNat_of_zero_le (Int.neg_nonneg.mpr (not_lt.mp hpoint))
      have hwhole : ∀ c ∈ ['0'], c.isDigit = true := by simp
      have hplaces : ∀ c ∈ List.replicate z '0' ++ cs, c.isDigit = true :=
        fun c hc => (List.mem_append.mp hc).elim isDigit_of_mem_zeros (hdigits c)
      have hspells := spells_point (e := 0) hwhole (List.cons_ne_nil _ _) hplaces Run.ends_nil rfl
      have hexponent : 0 - ((List.replicate z '0' ++ cs).length : ℤ) = d.exponent := by
        rw [List.length_append, List.length_replicate]
        omega
      have hzeros : ['0'] ++ (List.replicate z '0' ++ cs) = List.replicate (z + 1) '0' ++ cs := rfl
      rw [hzeros, digitsValue_zeros_append, hvalue, hexponent, List.append_nil] at hspells
      rw [hz, String.toList_ofList]
      exact hspells

theorem spells_scientific (d : Decimal) : Spells (d.scientific "+").toList d.value := by
  have hdigits : ∀ c ∈ Nat.toDigits 10 d.digits, c.isDigit = true :=
    fun c hc => isDigit_of_mem_toDigits hc
  have hne := Nat.toDigits_ne_nil (b := 10) (n := d.digits)
  have hvalue := digitsValue_toDigits d.digits
  have hsign (e : ℤ) : (if e < 0 then "-" else "+").toList = [if e < 0 then '-' else '+'] := by
    split <;> rfl
  rw [Decimal.scientific, Decimal.value]
  simp only [String.toList_append, String.toList_ofList, hsign, List.append_assoc]
  generalize Nat.toDigits 10 d.digits = cs at *
  have hexponent := exponentOf?_signed (cs.length + d.exponent - 1)
  obtain ⟨c, cs, rfl⟩ := List.exists_cons_of_ne_nil hne
  cases cs with
  | nil =>
    have hspells := spells_exponent hdigits hne hexponent
    have hone : (([c].length : ℤ) + d.exponent - 1) = d.exponent := by
      rw [List.length_singleton]
      omega
    rw [hvalue, hone] at hspells
    rw [hone]
    exact hspells
  | cons c' cs =>
    have hfirst : ∀ x ∈ [c], x.isDigit = true := by
      intro x hx
      rw [List.mem_singleton.mp hx]
      exact hdigits c List.mem_cons_self
    have hothers : ∀ x ∈ c' :: cs, x.isDigit = true :=
      fun x hx => hdigits x (List.mem_cons_of_mem c hx)
    have hspells := spells_point hfirst (List.cons_ne_nil _ _) hothers (Run.ends_cons rfl) hexponent
    have hplaces : ((c :: c' :: cs).length : ℤ) + d.exponent - 1 - (c' :: cs).length =
        d.exponent := by
      rw [List.length_cons]
      omega
    have hvalue : digitsValue ([c] ++ c' :: cs) = d.digits := hvalue
    rw [hvalue, hplaces] at hspells
    exact hspells

namespace Spells

variable {s : String}

theorem splitSign_eq {cs : List Char} (h : Spells cs x) : splitSign cs = (false, cs) := by
  obtain ⟨c, rest, rfl, hc⟩ := h.head
  unfold splitSign
  split
  next heq => simp_all
  next heq => simp_all
  next => rfl

theorem splitSign_append (h : Spells s.toList x) (negative : Bool) :
    splitSign ((if negative then "-" else "") ++ s).toList = (negative, s.toList) := by
  cases negative with
  | false =>
    rw [if_neg Bool.false_ne_true, String.empty_append]
    exact h.splitSign_eq
  | true =>
    rw [if_pos rfl, String.toList_append]
    rfl

theorem denoted? (h : Spells s.toList x) (negative : Bool) :
    Number.denoted? ((if negative then "-" else "") ++ s) = some (if negative then -x else x) := by
  obtain ⟨d, hd, rfl⟩ := Option.map_eq_some_iff.mp h.value
  simp only [Number.denoted?, h.splitSign_append, hd, Option.map_some]

theorem map_toLower_ne {cs name : List Char} (h : Spells cs x)
    (hname : Run.Ends Char.isDigit name) : cs.map Char.toLower ≠ name := by
  rintro rfl
  obtain ⟨c, rest, rfl, hc⟩ := h.head
  have hlower := hname c.toLower rfl
  rw [toLower_of_isDigit hc, hc] at hlower
  cases hlower

/-- A number is read back if the text spells a decimal in its interval. -/
theorem ofText?_eq {m : Magnitude} (h : Spells s.toList x) (hm : m.rank ≠ 0)
    (hx : x ∈ m.interval) (negative : Bool) :
    ofText? ((if negative then "-" else "") ++ s) = some (finite negative m) := by
  obtain ⟨d, hd, rfl⟩ := Option.map_eq_some_iff.mp h.value
  have hnan : s.toList.map Char.toLower ≠ "nan".toList := h.map_toLower_ne (Run.ends_cons rfl)
  have hinf : s.toList.map Char.toLower ≠ "inf".toList := h.map_toLower_ne (Run.ends_cons rfl)
  have hinfinity : s.toList.map Char.toLower ≠ "infinity".toList :=
    h.map_toLower_ne (Run.ends_cons rfl)
  simp only [ofText?, h.splitSign_append, hnan, hinf, hinfinity, ofDecimalText?_eq, hd,
    ofDecimal_eq_finite negative hm hx, Option.map_some, if_false, or_self]

end Spells

end Conform.Number
