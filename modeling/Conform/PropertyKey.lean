import Conform.Symbol

/-!
# Property keys

One step of property access: a string, an array index or a symbol. An index and its decimal
numeral name the same property, and `PropertyKey.asIndex?` is the one place that says which strings
are such numerals.

## Main definitions

- `PropertyKey` — a key
- `Numeral.value?` — the index that a string spells in canonical form
- `PropertyKey.asIndex?` — the index view of a key
- `PropertyKey.twin?` — the other key that names the same property
-/

namespace Conform

/-- A property access step. -/
inductive PropertyKey where
  /-- A string key. -/
  | string (s : String)
  /-- An array index. -/
  | index (i : Nat)
  /-- A symbol key. -/
  | symbol (s : Symbol)
deriving DecidableEq, Repr

namespace Numeral

/-- How many indices there are. -/
def indexCount : Nat := Nat.pow 2 64

/-- Whether the characters are a decimal numeral without a sign or a leading zero. -/
def IsCanonical (cs : List Char) : Prop :=
  cs = ['0'] ∨ cs ≠ [] ∧ cs.head? ≠ some '0' ∧ cs.all Char.isDigit = true

instance (cs : List Char) : Decidable (IsCanonical cs) := by
  unfold IsCanonical; infer_instance

/-- The number that a row of decimal digits denotes. -/
def ofDigits (cs : List Char) : Nat :=
  cs.foldl (fun n c => 10 * n + (c.toNat - '0'.toNat)) 0

/-- The index whose canonical numeral is `s`, or `none` if `s` is no numeral or spells a number
    that is not an index. -/
def value? (s : String) : Option Nat :=
  if IsCanonical s.toList ∧ ofDigits s.toList < indexCount then some (ofDigits s.toList) else none

end Numeral

namespace PropertyKey

/-- The index view of a key: indices themselves, and strings that are canonical numerals. -/
def asIndex? : PropertyKey → Option Nat
  | string s => Numeral.value? s
  | index i => some i
  | symbol _ => none

/-- The other key that names the same property: an index and its numeral are twins. -/
def twin? : PropertyKey → Option PropertyKey
  | string s => (Numeral.value? s).map index
  | index i => some (string (toString i))
  | symbol _ => none

end PropertyKey

end Conform
