import Conform.Number.Rounding

/-!
# Reading number text

A number is read from a sign, digits with an optional point among them, and an optional exponent,
and rounded once. The names of infinity and of not-a-number are read in any case.

## Main definitions

- `Number.ofText?` — the nearest number to the decimal that a text spells
-/

namespace Conform.Number

/-- A sign at the front of some characters, and what follows it. -/
def splitSign : List Char → Bool × List Char
  | '-' :: cs => (true, cs)
  | '+' :: cs => (false, cs)
  | cs => (false, cs)

/-- The number that a row of decimal digits denotes. -/
def digitsValue (cs : List Char) : Nat :=
  cs.foldl (fun n c => 10 * n + (c.toNat - '0'.toNat)) 0

/-- The exponent that some characters spell: nothing at all, or a letter, a sign and digits. -/
def exponentOf? : List Char → Option Int
  | [] => some 0
  | c :: cs =>
    let (negative, digits) := splitSign cs
    if (c = 'e' ∨ c = 'E') ∧ digits ≠ [] ∧ digits.all Char.isDigit then
      some (if negative then -digitsValue digits else digitsValue digits)
    else none

/-- The nearest number to the decimal that some characters spell, under a sign. -/
def ofDecimalText? (negative : Bool) (cs : List Char) : Option Number :=
  let whole := cs.takeWhile Char.isDigit
  let rest := cs.dropWhile Char.isDigit
  let (places, rest) := match rest with
    | '.' :: rest => (rest.takeWhile Char.isDigit, rest.dropWhile Char.isDigit)
    | rest => ([], rest)
  if whole = [] ∧ places = [] then none
  else (exponentOf? rest).map fun e =>
    ofDecimal negative (digitsValue (whole ++ places)) (e - places.length)

/-- The nearest number to the decimal that a text spells, or the special number it names. -/
def ofText? (s : String) : Option Number :=
  let (negative, cs) := splitSign s.toList
  let name := cs.map Char.toLower
  if name = "nan".toList then some (nan negative .quiet)
  else if name = "inf".toList ∨ name = "infinity".toList then some (infinity negative)
  else ofDecimalText? negative cs

end Conform.Number
