import Conform.Number.Shortest
import Conform.Number.Rounding

/-!
# Number text

How a number is written. The digits are always the shortest that read back; what varies is which
of two equally near decimals is taken, where positional notation ends and how the exponent is
spelled, and a `Layout` holds these decisions.

## Main definitions

- `Layout` — the choices of one way of writing numbers
- `Number.text` — the text used in messages: `1e+21`, `0.000001`, `-2.5e-8`
- `Number.structuralText` — the text used when a whole structure is written out: `72.0`, `1e21`
-/

namespace Conform

/-- The choices that turn digits into text. -/
structure Layout where
  /-- Which of two equally near decimals is written. -/
  tie : Tie
  /-- Magnitudes from here on are written with an exponent. -/
  positionalBelow : Magnitude
  /-- Magnitudes below this one are written with an exponent. -/
  positionalFrom : Magnitude
  /-- The sign written before an exponent that is not negative. -/
  exponentSign : String
  /-- What is appended to a positional integer. -/
  integerSuffix : String

namespace Decimal

/-- How many digits the decimal has. -/
def length (d : Decimal) : Nat := (Nat.toDigits 10 d.digits).length

/-- Positional notation: padding zeros, a point inside the digits, or `0.` and zeros before them.
    An integer is followed by `suffix`. -/
def positional (d : Decimal) (suffix : String) : String :=
  let cs := Nat.toDigits 10 d.digits
  let point : Int := cs.length + d.exponent
  if 0 ≤ d.exponent then
    String.ofList (cs ++ List.replicate d.exponent.toNat '0') ++ suffix
  else if 0 < point then
    String.ofList (cs.take point.toNat ++ '.' :: cs.drop point.toNat)
  else
    String.ofList ('0' :: '.' :: (List.replicate (-point).toNat '0' ++ cs))

/-- Scientific notation: one digit, the other digits after a point if there are any, and the
    exponent. -/
def scientific (d : Decimal) (exponentSign : String) : String :=
  let cs := Nat.toDigits 10 d.digits
  let e : Int := cs.length + d.exponent - 1
  let mantissa := match cs with
    | [] => []
    | [c] => [c]
    | c :: rest => c :: '.' :: rest
  let sign := if e < 0 then "-" else exponentSign
  String.ofList mantissa ++ "e" ++ sign ++ String.ofList (Nat.toDigits 10 e.natAbs)

end Decimal

namespace Magnitude

/-- The text of a magnitude other than zero under a layout. -/
def textWith (layout : Layout) (m : Magnitude) : String :=
  if layout.positionalBelow.rank ≤ m.rank ∨ m.rank < layout.positionalFrom.rank then
    (m.shortest layout.tie).scientific layout.exponentSign
  else
    (m.shortest layout.tie).positional layout.integerSuffix

end Magnitude

/-- The largest magnitude stands in for a bound that overflows. -/
private def layoutBound (d : Nat) (e : Int) : Magnitude :=
  (Number.decimalMagnitude? d e).getD .greatest

/-- Messages write magnitudes from `1e-6` up to `1e21` positionally, and sign every exponent. -/
def Layout.message : Layout where
  tie := .larger
  positionalBelow := layoutBound 1 21
  positionalFrom := layoutBound 1 (-6)
  exponentSign := "+"
  integerSuffix := ""

/-- Structures write magnitudes from `1e-4` up to `1e16` positionally, with at least one place after
    the point. -/
def Layout.structural : Layout where
  tie := .larger
  positionalBelow := layoutBound 1 16
  positionalFrom := layoutBound 1 (-4)
  exponentSign := ""
  integerSuffix := ".0"

namespace Number

/-- The text of a number in messages. Both zeros are written `0`. -/
def text : Number → String
  | nan _ _ => "NaN"
  | infinity true => "-Infinity"
  | infinity false => "Infinity"
  | finite s m =>
    if m.rank = 0 then "0"
    else (if s then "-" else "") ++ m.textWith .message

/-- The text of a number inside a structure that is written out in full. -/
def structuralText : Number → String
  | nan _ _ => "NaN"
  | infinity true => "-inf"
  | infinity false => "inf"
  | finite s m =>
    (if s then "-" else "") ++ (if m.rank = 0 then "0.0" else m.textWith .structural)

end Number

end Conform
