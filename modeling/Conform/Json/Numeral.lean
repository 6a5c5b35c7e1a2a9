import Conform.Json.Token

/-!
# Numbers of JSON

Reading a number. Integers that fit a 64-bit word are kept as they are. Everything else is read by
gathering as many digits as fit an unsigned word into a significand, counting the others in the
exponent, and then scaling the rounded significand by a rounded power of ten: one rounding for each
step, so that the last bit may differ from that of the nearest number.

## Main definitions

- `Json.scale?` — a magnitude times a power of ten, rounded step by step
- `Json.Reader.number` — a number after its sign
- `Json.Reader.skipNumber` — the same without keeping it
-/

namespace Conform.Json

/-- The largest unsigned 64-bit word. -/
def largestWord : Nat := Nat.pow 2 64 - 1

/-- The absolute value of the least signed 64-bit word. -/
def leastSignedWord : Nat := Nat.pow 2 63

/-- The largest exponent that is counted exactly. -/
def largestExponent : Nat := Nat.pow 2 31 - 1

/-- The largest power of ten that is a finite number. -/
def largestPower : Nat := 308

/-- The rounded power of ten. -/
def powerOfTen (n : Nat) : Magnitude := (Magnitude.ofNat? (Nat.pow 10 n)).getD .greatest

/-- A magnitude divided by a power of ten, in steps of at most `largestPower`. -/
def shrink (m : Magnitude) (n : Nat) : Magnitude :=
  if n ≤ largestPower then (Number.divMagnitude m (powerOfTen n)).getD .greatest
  else if m.rank = 0 then m
  else shrink ((Number.divMagnitude m (powerOfTen largestPower)).getD .greatest) (n - largestPower)
termination_by n
decreasing_by have : 0 < largestPower := by decide
              omega

/-- A magnitude times a power of ten, rounded step by step, or `none` on overflow. -/
def scale? (m : Magnitude) (e : Int) : Option Magnitude :=
  if e < 0 then some (shrink m (-e).toNat)
  else if e.toNat ≤ largestPower then Number.mulMagnitude m (powerOfTen e.toNat)
  else if m.rank = 0 then some m
  else none

namespace Reader

/-- The value of a decimal digit. -/
def digitValue? (b : UInt8) : Option Nat :=
  if 48 ≤ b.toNat ∧ b.toNat ≤ 57 then some (b.toNat - 48) else none

/-- The value of the next byte, if it is a digit. -/
def peekDigit : Reader (Option Nat) := do
  return (← peek).bind digitValue?

/-- Takes digits as long as the number they extend fits a word. Answers that number, how many
    digits were taken, and whether a digit was left because it did not fit. -/
def wordDigits : Nat → Nat → Nat → Reader (Nat × Nat × Bool)
  | 0, n, taken => return (n, taken, false)
  | fuel + 1, n, taken => do
    match ← peekDigit with
    | none => return (n, taken, false)
    | some d =>
      if n * 10 + d > largestWord then return (n, taken, true)
      else
        advance
        wordDigits fuel (n * 10 + d) (taken + 1)

/-- Takes all digits that follow and answers their count. -/
def skipDigits : Nat → Reader Nat
  | 0 => return 0
  | fuel + 1 => do
    match ← peekDigit with
    | none => return 0
    | some _ =>
      advance
      return (← skipDigits fuel) + 1

/-- The number of a significand and an exponent, under a sign. -/
def scaled (negative : Bool) (significand : Nat) (e : Int) : Reader Num := do
  match scale? ((Magnitude.ofNat? significand).getD .greatest) e with
  | some m => return .real (.finite negative m)
  | none => fail .numberOutOfRange

/-- Whether the next byte starts an exponent. -/
def atExponent : Reader Bool := do
  let b ← peek
  return b == some 101 || b == some 69

/-- Takes the sign of an exponent, if it has one, and answers whether it is negative. -/
def exponentSign : Reader Bool := do
  let b ← peek
  if b == some 43 then
    advance
    return false
  else if b == some 45 then
    advance
    return true
  else return false

/-- The digits of an exponent, or `none` if they are too many to count. -/
def exponentDigits : Nat → Nat → Reader (Option Nat)
  | 0, n => return some n
  | fuel + 1, n => do
    match ← peekDigit with
    | none => return some n
    | some d =>
      advance
      if n * 10 + d > largestExponent then return none
      else exponentDigits fuel (n * 10 + d)

/-- An exponent, from its letter on, and the number it makes of a significand and the exponent
    counted so far. -/
def exponent (negative : Bool) (significand : Nat) (counted : Int) : Reader Num := do
  advance
  let down ← exponentSign
  match ← next with
  | none => fail .unfinishedValue
  | some b =>
    match digitValue? b with
    | none => fail .invalidNumber
    | some d =>
      match ← exponentDigits ((← remaining) + 1) d with
      | some n => scaled negative significand (if down then counted - n else counted + n)
      | none =>
        if significand ≠ 0 ∧ down = false then fail .numberOutOfRange
        else
          let _ ← skipDigits ((← remaining) + 1)
          return .real (.finite negative .zero)

/-- What follows the digits of a number that is no plain integer: an exponent or nothing. -/
def tail (negative : Bool) (significand : Nat) (counted : Int) : Reader Num := do
  if ← atExponent then exponent negative significand counted
  else scaled negative significand counted

/-- The places after a point, from the point on. Digits that do not fit the significand are
    dropped. -/
def places (negative : Bool) (significand : Nat) (counted : Int) : Reader Num := do
  advance
  let (n, taken, full) ← wordDigits ((← remaining) + 1) significand 0
  if full then
    let _ ← skipDigits ((← remaining) + 1)
    tail negative n (counted - taken)
  else if taken = 0 then
    match ← peek with
    | some _ => failNext .invalidNumber
    | none => failNext .unfinishedValue
  else tail negative n (counted - taken)

/-- An integer as it was written, if it fits a word. Negative zero is no integer. -/
def integer (negative : Bool) (significand : Nat) : Num :=
  if negative then
    if 1 ≤ significand ∧ significand ≤ leastSignedWord then .negative significand
    else .real (Number.ofNat significand).neg
  else .natural significand

/-- What follows the integer digits of a number. -/
def afterInteger (negative : Bool) (significand : Nat) : Reader Num := do
  if (← peek) == some 46 then places negative significand 0
  else if ← atExponent then exponent negative significand 0
  else return integer negative significand

/-- A number after its sign. -/
def number (negative : Bool) : Reader Num := do
  match ← next with
  | none => fail .unfinishedValue
  | some b =>
    match digitValue? b with
    | none => fail .invalidNumber
    | some 0 =>
      match ← peekDigit with
      | some _ => failNext .invalidNumber
      | none => afterInteger negative 0
    | some d =>
      let (n, _, full) ← wordDigits ((← remaining) + 1) d 0
      if full then
        let dropped ← skipDigits ((← remaining) + 1)
        if (← peek) == some 46 then places negative n dropped
        else tail negative n dropped
      else afterInteger negative n

/-- Skips an exponent, from its letter on. -/
def skipExponent : Reader Unit := do
  advance
  let _ ← exponentSign
  match ← next with
  | none => fail .invalidNumber
  | some b =>
    match digitValue? b with
    | none => fail .invalidNumber
    | some _ =>
      let _ ← skipDigits ((← remaining) + 1)
      return ()

/-- Skips a number after its sign. -/
def skipNumber : Reader Unit := do
  match ← next with
  | none => fail .invalidNumber
  | some b =>
    match digitValue? b with
    | none => fail .invalidNumber
    | some d =>
      if d = 0 then
        match ← peekDigit with
        | some _ => failNext .invalidNumber
        | none => skipFraction
      else
        let _ ← skipDigits ((← remaining) + 1)
        skipFraction
where
  /-- Skips the places and the exponent of a number. -/
  skipFraction : Reader Unit := do
    if (← peek) == some 46 then
      advance
      if (← skipDigits ((← remaining) + 1)) = 0 then failNext .invalidNumber
      else if ← atExponent then skipExponent
      else return ()
    else if ← atExponent then skipExponent
    else return ()

end Reader

end Conform.Json
