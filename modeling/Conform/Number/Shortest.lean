import Conform.Number.Binary64

/-!
# Shortest decimals

The shortest decimal that reads back to a given magnitude. A decimal *reads back* when it lies in
the interval of values that round to the magnitude; the interval reaches half way to each
neighbour and contains its ends exactly when the rank is even. Where two decimals of that length
are equally near, a `Tie` says which is taken.

## Main definitions

- `Decimal` — digits and a power of ten
- `Magnitude.ReadsBack` — the interval of values that round to a magnitude
- `Tie` — which of two equally near decimals is taken
- `Magnitude.shortest` — the fewest digits that read back; of several such decimals the nearest

## Design notes

On a decimal grid the only candidates are the two neighbours of the value itself: if any grid point
reads back, one of these does. Grids of one, two, … digits are tried in turn, and seventeen digits
always suffice.
-/

namespace Conform

/-- The decimal `digits * 10 ^ exponent`. -/
structure Decimal where
  /-- The significant digits, as one natural. -/
  digits : Nat
  /-- The power of ten they are multiplied by. -/
  exponent : Int
deriving DecidableEq, Repr

namespace Decimal

/-- Numerator of the decimal over `denominator`. -/
def numerator (d : Decimal) : Nat := d.digits * Nat.pow 10 d.exponent.toNat

/-- Denominator of the decimal: a power of ten. -/
def denominator (d : Decimal) : Nat := Nat.pow 10 (-d.exponent).toNat

/-- Drops a single trailing zero digit, if the decimal has one and is not zero. -/
def dropZero (d : Decimal) : Decimal :=
  if d.digits % 10 = 0 ∧ d.digits ≠ 0 then ⟨d.digits / 10, d.exponent + 1⟩ else d

end Decimal

/-- Which of two equally near decimals on one grid is taken. -/
inductive Tie where
  /-- The larger. -/
  | larger
  /-- The one whose last digit is even. -/
  | even
deriving DecidableEq, Repr

namespace Magnitude

/-- Twice the lower end of the interval that rounds to the magnitude, in units. -/
def lowerEnd (m : Magnitude) : Nat := unitsAt (m.rank - 1) + unitsAt m.rank

/-- Twice the upper end of the interval that rounds to the magnitude, in units. -/
def upperEnd (m : Magnitude) : Nat := unitsAt m.rank + unitsAt (m.rank + 1)

/-- Whether a decimal rounds to the magnitude. Both sides are scaled by twice `unitsPerOne` and by
    the decimal's denominator, which makes the comparison one of naturals. -/
def ReadsBack (m : Magnitude) (d : Decimal) : Prop :=
  let value := 2 * d.numerator * unitsPerOne
  let low := m.lowerEnd * d.denominator
  let high := m.upperEnd * d.denominator
  if m.rank % 2 = 0 then low ≤ value ∧ value ≤ high else low < value ∧ value < high

instance (m : Magnitude) (d : Decimal) : Decidable (m.ReadsBack d) := by
  unfold ReadsBack; infer_instance

/-- Whether the magnitude is at least `10 ^ e`. -/
def atLeastPower (m : Magnitude) (e : Int) : Bool :=
  decide (Nat.pow 10 e.toNat * unitsPerOne ≤ m.units * Nat.pow 10 (-e).toNat)

/-- The exponent `k` with `10 ^ (k - 1) ≤ m < 10 ^ k`, for a magnitude other than zero. The
    lengths of the value's numerator and denominator leave two possibilities. -/
def decimalPoint (m : Magnitude) : Int :=
  let guess : Int := (Nat.toDigits 10 m.units).length - (Nat.toDigits 10 unitsPerOne).length
  if m.atLeastPower guess then guess + 1 else guess

/-- The greatest decimal with the given exponent that does not exceed the magnitude. -/
def floorOnGrid (m : Magnitude) (e : Int) : Decimal :=
  ⟨m.units * Nat.pow 10 (-e).toNat / (unitsPerOne * Nat.pow 10 e.toNat), e⟩

/-- Whether the value is written as `d` rather than as the next decimal above `d` on its grid: if it
    lies nearer to `d`, or half way and `tie` says so. -/
def nearerBelow (m : Magnitude) (tie : Tie) (d : Decimal) : Bool :=
  let value := 2 * m.units * d.denominator
  let middle := (2 * d.digits + 1) * Nat.pow 10 d.exponent.toNat * unitsPerOne
  decide (value < middle) || (decide (value = middle) && tie == .even && d.digits % 2 == 0)

/-- The nearest decimal with the given exponent that reads back, if there is one. -/
def onGrid? (m : Magnitude) (tie : Tie) (e : Int) : Option Decimal :=
  let below := m.floorOnGrid e
  let above : Decimal := ⟨below.digits + 1, e⟩
  match decide (m.ReadsBack below), decide (m.ReadsBack above) with
  | true, true => some (if m.nearerBelow tie below then below else above)
  | true, false => some below
  | false, true => some above
  | false, false => none

/-- The shortest decimal that reads back to a magnitude other than zero; of several the nearest,
    and of two equally near ones the one that `tie` names. -/
def shortest (m : Magnitude) (tie : Tie) : Decimal :=
  let point := m.decimalPoint
  (((List.range 17).findSome? fun n => m.onGrid? tie (point - (n + 1 : Nat))).getD ⟨0, 0⟩).dropZero

end Magnitude

end Conform
