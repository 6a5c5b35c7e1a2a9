import Conform.Value.Basic

/-!
# Primitives

The base kinds a descriptor can name. Arrays count as objects and callables do not; `nullish` is
`null` or `undefined`.

## Main definitions

- `Primitive` — the base kinds
- `Primitive.all` — the registry, in its order
- `Primitive.test` — which values are of a base kind
- `Primitive.named?` — look-up by name
-/

namespace Conform

/-- A base kind that a descriptor can name. -/
inductive Primitive where
  | bigint | boolean | function | number | object | string | symbol | undefined | null | nullish
deriving DecidableEq, Repr

namespace Primitive

/-- Every base kind, in the order of the registry. -/
def all : List Primitive :=
  [bigint, boolean, function, number, object, string, symbol, undefined, null, nullish]

/-- The name in the registry. -/
def name : Primitive → String
  | bigint => "bigint"
  | boolean => "boolean"
  | function => "function"
  | number => "number"
  | object => "object"
  | string => "string"
  | symbol => "symbol"
  | undefined => "undefined"
  | null => "null"
  | nullish => "nullish"

/-- Whether a value is of the base kind. -/
def test : Primitive → Value → Bool
  | bigint, v => v.kind == .bigint
  | boolean, v => v.kind == .boolean
  | function, v => v.kind == .function
  | number, v => v.kind == .number
  | object, v => v.kind == .object || v.kind == .array
  | string, v => v.kind == .string
  | symbol, v => v.kind == .symbol
  | undefined, v => v.kind == .undefined
  | null, v => v.kind == .null
  | nullish, v => v.isNullish

/-- The base kind with a given name. -/
def named? (name : String) : Option Primitive := all.find? fun p => p.name == name

end Primitive

end Conform
