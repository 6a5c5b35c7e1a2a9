import Conform.Value.Basic

/-!
# Equality of values

Arrays are equal item by item, objects and functions without regard to the order of their entries,
and a function only to a function with the same callable. Numbers compare numerically, so a value
that holds not-a-number anywhere is not equal to itself.

## Main definitions

- `Value.eq` — equality of values
- `Value.eqItems`, `Value.eqEntries` — its companions on lists of values and of entries
-/

namespace Conform.Value

mutual

/-- Equality of values. -/
def eq : Value → Value → Bool
  | undefined, undefined => true
  | null, null => true
  | bool a, bool b => a == b
  | number a, number b => a.eq b
  | bigint a, bigint b => a == b
  | string a, string b => a == b
  | symbol a, symbol b => a == b
  | array xs, array ys => eqItems xs ys
  | object ⟨es⟩, object fs => es.length == fs.size && eqEntries es fs
  | function f ⟨es⟩, function g fs =>
    f.stamp == g.stamp && es.length == fs.size && eqEntries es fs
  | _, _ => false

/-- Equality of lists of values, item by item. -/
def eqItems : List Value → List Value → Bool
  | [], [] => true
  | x :: xs, y :: ys => eq x y && eqItems xs ys
  | _, _ => false

/-- Whether every entry of a list is stored, with an equal value, among other entries. -/
def eqEntries : List (PropertyKey × Value) → Entries Value → Bool
  | [], _ => true
  | (key, x) :: es, fs =>
    (match fs.get? key with
      | some y => eq x y
      | none => false) && eqEntries es fs

end

instance : BEq Value := ⟨eq⟩

end Conform.Value
