/-!
# Binary64 numbers

`Number` is the IEEE 754 binary64 line with its two infinities and its not-a-numbers. A finite
number is a sign and a `Magnitude`, and a magnitude is its *rank*: its place in the increasing list
of all finite magnitudes, zero first. Comparing magnitudes is comparing ranks, and every pattern of
bits has exactly one representation.

## Main definitions

- `Magnitude` — a finite nonnegative binary64 number, by rank
- `Magnitude.units` — its exact value, counted in units of `2 ^ (-1074)`
- `NanPayload` — what tells one not-a-number from another
- `Number` — the whole line
- `Number.eq`, `Number.le` — the numeric comparisons, both false on not-a-number

## Design notes

All arithmetic on exact values is arithmetic on `Nat`: the smallest positive magnitude is one unit,
so every finite magnitude is a whole number of units and no rational numbers are needed.
-/

namespace Conform

/-- A finite magnitude, given by its rank among all finite magnitudes. -/
structure Magnitude where
  /-- How many finite magnitudes are smaller. -/
  rank : Nat
  /-- There are `2047 * 2 ^ 52` finite magnitudes. -/
  rank_lt : rank < 2047 * Nat.pow 2 52
deriving DecidableEq, Repr

namespace Magnitude

/-- Magnitude zero. -/
def zero : Magnitude := ⟨0, by decide⟩

/-- The largest finite magnitude. -/
def greatest : Magnitude := ⟨2047 * Nat.pow 2 52 - 1, by decide⟩

/-- The exact value of the magnitude of this rank, in units of `2 ^ (-1074)`. The first `2 ^ 53`
    ranks are one unit apart; from there on the spacing doubles every `2 ^ 52` ranks. -/
def unitsAt (rank : Nat) : Nat :=
  if rank < Nat.pow 2 52 then rank
  else (Nat.pow 2 52 + rank % Nat.pow 2 52) * Nat.pow 2 (rank / Nat.pow 2 52 - 1)

/-- The exact value, in units of `2 ^ (-1074)`. -/
def units (m : Magnitude) : Nat := unitsAt m.rank

/-- How many units make one. -/
def unitsPerOne : Nat := Nat.pow 2 1074

end Magnitude

/-- What tells one not-a-number from another: the bits below the exponent, which are not all
    zero. -/
structure NanPayload where
  /-- The bits as a number. -/
  bits : Nat
  /-- All bits zero would make an infinity. -/
  bits_pos : 0 < bits
  /-- There are 52 bits. -/
  bits_lt : bits < Nat.pow 2 52
deriving DecidableEq, Repr

/-- The payload with the first bit alone, that of a not-a-number nobody computed. -/
def NanPayload.quiet : NanPayload := ⟨Nat.pow 2 51, by decide, by decide⟩

/-- A binary64 number. -/
inductive Number where
  /-- Not a number. The sign and the payload are carried along and never looked at. -/
  | nan (negative : Bool) (payload : NanPayload)
  /-- Infinity, with its sign. -/
  | infinity (negative : Bool)
  /-- A finite number, with its sign; zero has both signs. -/
  | finite (negative : Bool) (magnitude : Magnitude)
deriving DecidableEq, Repr

namespace Number

/-- Positive zero. -/
def zero : Number := .finite false .zero

instance : Inhabited Number := ⟨zero⟩

/-- The number with the opposite sign. -/
def neg : Number → Number
  | nan s payload => nan (!s) payload
  | infinity s => infinity (!s)
  | finite s m => finite (!s) m

/-- Numeric equality: the two zeros are equal, and not-a-number differs from everything, itself
    included. -/
def eq : Number → Number → Bool
  | infinity s, infinity t => s == t
  | finite s m, finite t n => m.rank == n.rank && (s == t || m.rank == 0)
  | _, _ => false

/-- Position of a number other than not-a-number on the signed line of ranks, infinities at the
    two ends. -/
def signedRank : Number → Int
  | nan _ _ => 0
  | infinity true => -(2047 * Nat.pow 2 52)
  | infinity false => 2047 * Nat.pow 2 52
  | finite true m => -m.rank
  | finite false m => m.rank

/-- Numeric order. Not-a-number is on neither side of it. -/
def le : Number → Number → Bool
  | nan _ _, _ => false
  | _, nan _ _ => false
  | x, y => decide (x.signedRank ≤ y.signedRank)

end Number

end Conform
