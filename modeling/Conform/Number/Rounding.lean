import Conform.Number.Binary64

/-!
# Rounding to binary64

Every operation here computes an exact ratio of naturals and rounds once, to the nearest magnitude,
a tie going to the even rank. Too large a value becomes an infinity.

## Main definitions

- `Magnitude.nearest?` — the nearest magnitude to a ratio, or `none` beyond the finite range
- `Number.ofDecimal` — the nearest number to a decimal `d * 10 ^ e`
- `Number.mulMagnitude`, `Number.divMagnitude` — rounded product and quotient of magnitudes
-/

namespace Conform

namespace Magnitude

/-- The magnitude of a given rank, if the rank is in range. -/
def ofRank? (rank : Nat) : Option Magnitude :=
  if h : rank < 2047 * Nat.pow 2 52 then some ⟨rank, h⟩ else none

/-- The quotient rounded to the nearest natural, a tie going to the even one. -/
def roundedQuotient (num den : Nat) : Nat :=
  let q := num / den
  let r := num % den
  if 2 * r > den ∨ (2 * r = den ∧ q % 2 = 1) then q + 1 else q

/-- The nearest magnitude to `num / den`, a tie going to the even rank, or `none` if that lies
    beyond the finite range. The spacing `2 ^ k` units is chosen so that the quotient has 53 bits;
    a quotient that rounds up to `2 ^ 53` lands on the first rank of the next spacing. -/
def nearest? (num den : Nat) : Option Magnitude :=
  let total := num * unitsPerOne
  let k := (total / den).log2 - 52
  ofRank? (k * Nat.pow 2 52 + roundedQuotient total (den * Nat.pow 2 k))

/-- The nearest magnitude to a natural number. -/
def ofNat? (n : Nat) : Option Magnitude := nearest? n 1

end Magnitude

namespace Number

/-- A rounded magnitude under a sign, where `none` stands for overflow. -/
def ofMagnitude? (negative : Bool) : Option Magnitude → Number
  | some m => .finite negative m
  | none => .infinity negative

/-- The nearest number to a natural. -/
def ofNat (n : Nat) : Number := ofMagnitude? false (Magnitude.ofNat? n)

/-- The nearest magnitude to `d * 10 ^ e`, or `none` on overflow. Exponents so far out that the
    answer is settled by the count of digits alone are answered without forming the power. -/
def decimalMagnitude? (d : Nat) (e : Int) : Option Magnitude :=
  let leading := (Nat.toDigits 10 d).length + e
  if d = 0 ∨ leading < -330 then some .zero
  else if leading > 320 then none
  else if 0 ≤ e then Magnitude.nearest? (d * Nat.pow 10 e.toNat) 1
  else Magnitude.nearest? d (Nat.pow 10 (-e).toNat)

/-- The nearest number to `d * 10 ^ e` under a sign. -/
def ofDecimal (negative : Bool) (d : Nat) (e : Int) : Number :=
  ofMagnitude? negative (decimalMagnitude? d e)

/-- The rounded product of two magnitudes, or `none` on overflow. -/
def mulMagnitude (m n : Magnitude) : Option Magnitude :=
  Magnitude.nearest? (m.units * n.units) (Magnitude.unitsPerOne * Magnitude.unitsPerOne)

/-- The rounded quotient of two magnitudes, or `none` on overflow. -/
def divMagnitude (m n : Magnitude) : Option Magnitude :=
  Magnitude.nearest? m.units n.units

end Number

end Conform
