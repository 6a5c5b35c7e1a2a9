import Conform.PropertyKey

/-!
# Entries

Keyed entries in insertion order: the properties of an object or a function, and the fields of a
shape. A repeated key keeps its first position and takes the last item.

## Main definitions

- `Entries` — a list of keyed items
- `Entries.get?` — the item stored under exactly this key
- `Entries.property?` — the item a property access finds: the exact key first, then its twin
- `Entries.insert`, `Entries.ofList` — building entries
- `Entries.Keyed` — each key occurs once, which every builder ensures
-/

namespace Conform

universe u

/-- Keyed items in the order in which their keys were first inserted. -/
structure Entries (α : Type u) where
  /-- The entries in order. -/
  toList : List (PropertyKey × α)
deriving Repr

namespace Entries

variable {α : Type u}

/-- No entries. -/
def empty : Entries α := ⟨[]⟩

/-- The keys in order. -/
def keys (es : Entries α) : List PropertyKey := es.toList.map Prod.fst

/-- The number of entries. -/
def size (es : Entries α) : Nat := es.toList.length

/-- The item stored under exactly this key. -/
def get? (es : Entries α) (key : PropertyKey) : Option α := es.toList.lookup key

/-- The item that access through `key` finds: the one under the key itself, or else the one under
    its twin. -/
def property? (es : Entries α) (key : PropertyKey) : Option α :=
  match es.get? key with
  | some item => some item
  | none => key.twin?.bind es.get?

/-- Stores an item under a key: in place if the key is there, at the end otherwise. -/
def insert (es : Entries α) (key : PropertyKey) (item : α) : Entries α :=
  ⟨go es.toList⟩
where
  /-- Replaces the first entry under the key, or appends one. -/
  go : List (PropertyKey × α) → List (PropertyKey × α)
    | [] => [(key, item)]
    | (k, x) :: rest => if k = key then (k, item) :: rest else (k, x) :: go rest

/-- Stores every item of a list of keyed items, in order. -/
def insertAll (es : Entries α) (items : List (PropertyKey × α)) : Entries α :=
  items.foldl (fun acc (entry : PropertyKey × α) => acc.insert entry.1 entry.2) es

/-- Entries from a list of keyed items; a repeated key keeps its first position and takes its last
    item. -/
def ofList (items : List (PropertyKey × α)) : Entries α := empty.insertAll items

/-- Each key is stored once. -/
def Keyed (es : Entries α) : Prop := es.keys.Nodup

end Entries

end Conform
