import Conform.Evaluation.Modes

/-!
# Typed views

A `View` pairs a descriptor with an extraction of a typed result from the values that conform to
it. Resolving a value through a view first checks it and then extracts.

## Main definitions

- `View` — a descriptor and an extraction
- `View.bool`, `View.number`, `View.bigint`, `View.string`, `View.symbol` — the scalar views
- `View.list`, `View.option` — views of arrays and of values that may be absent
- `View.resolve` — check, then extract
-/

namespace Conform

/-- A descriptor and an extraction from the values that conform to it. -/
structure View (α : Type) where
  /-- What a value must conform to. -/
  descriptor : Descriptor
  /-- The typed result, if the value holds one. -/
  extract : Value → Option α

namespace View

/-- Truth values. -/
def bool : View Bool := ⟨.primitive .boolean, Value.asBool?⟩

/-- Numbers. -/
def number : View Number := ⟨.primitive .number, Value.asNumber?⟩

/-- Big integers. -/
def bigint : View Int := ⟨.primitive .bigint, Value.asBigint?⟩

/-- Texts. -/
def string : View String := ⟨.primitive .string, Value.asString?⟩

/-- Symbols. -/
def symbol : View Symbol := ⟨.primitive .symbol, Value.asSymbol?⟩

/-- Arrays of what `item` views. -/
def list {α : Type} (item : View α) : View (List α) where
  descriptor := .arrayOf item.descriptor
  extract v := v.asArray?.bind fun items => items.mapM item.extract

/-- What `item` views, or nothing for `null` and `undefined`. -/
def option {α : Type} (item : View α) : View (Option α) where
  descriptor := .union [.primitive .nullish, item.descriptor]
  extract v := if v.isNullish then some none else (item.extract v).map some

/-- Checks a value and extracts the typed result. A view whose extraction disagrees with its own
    descriptor is reported against the whole value. -/
def resolve {α ε : Type} (view : View α) (va : Validator) (errors : ErrorFactory ε) (v : Value) :
    Eval ε α := do
  va.assertWith errors v view.descriptor
  match view.extract v with
  | some a => pure a
  | none => (Eval.rejectType .root view.descriptor v).mapError errors.convert

end View

end Conform
