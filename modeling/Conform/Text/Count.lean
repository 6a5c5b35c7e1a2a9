import Conform.PropertyKey

/-!
# Counts

Counts given as text, in arguments and in settings: decimal digits, after a plus sign or without
one, for a number that fits a machine word.

## Main definitions

- `Count.ofText?` — the count that a text gives
-/

namespace Conform.Count

/-- The characters after a plus sign, if there is one. -/
def dropPlus : List Char → List Char
  | '+' :: cs => cs
  | cs => cs

/-- The count that a text gives. -/
def ofText? (s : String) : Option Nat :=
  let digits := dropPlus s.toList
  let n := Numeral.ofDigits digits
  if digits ≠ [] ∧ digits.all Char.isDigit ∧ n < Nat.pow 2 64 then some n else none

end Conform.Count
