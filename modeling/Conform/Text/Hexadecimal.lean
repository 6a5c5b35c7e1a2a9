/-!
# Hexadecimal numbers

Numbers in base sixteen, with digits in either case.

## Main definitions

- `Hexadecimal.digit?` — the value of a digit
- `Hexadecimal.ofDigits` — the number that some digits give
-/

namespace Conform.Hexadecimal

/-- The value of a digit. -/
def digit? (c : Char) : Option Nat :=
  if c.isDigit then some (c.toNat - '0'.toNat)
  else if 'a' ≤ c ∧ c ≤ 'f' then some (c.toNat - 'a'.toNat + 10)
  else if 'A' ≤ c ∧ c ≤ 'F' then some (c.toNat - 'A'.toNat + 10)
  else none

/-- The number that some digits give. Anything else counts as a zero. -/
def ofDigits (cs : List Char) : Nat := cs.foldl (fun n c => 16 * n + (digit? c).getD 0) 0

end Conform.Hexadecimal
