import Conform.Value.Basic
import Conform.Number.Layout
import Conform.Text.Quoted

/-!
# Received values

The text that stands for a value in a diagnostic: its kind, with the value itself for scalars and
the common kind of the items for arrays.

## Main definitions

- `Value.commonKind?` — the kind that all items of a short array share
- `Value.received` — the text of a value
-/

namespace Conform.Value

/-- Longer arrays are not searched for a common kind. -/
def kindScanLimit : Nat := 1024

/-- The kind of the first of a list of values, if all the others share it. -/
def commonKind? : List Value → Option Kind
  | [] => none
  | v :: vs => if vs.all (fun w => w.kind == v.kind) then some v.kind else none

/-- What stands between the brackets for the items of an array. -/
def itemsText (items : List Value) : String :=
  match items with
  | [] => "empty"
  | _ :: _ =>
    if items.length > kindScanLimit then "..."
    else match commonKind? items with
      | some kind => kind.name
      | none => "..."

/-- The text of a value in a diagnostic. -/
def received : Value → String
  | undefined => "undefined"
  | null => "null"
  | bool b => "boolean(" ++ (if b then "true" else "false") ++ ")"
  | number n => "number(" ++ n.text ++ ")"
  | bigint n => "bigint(" ++ toString n ++ "n)"
  | string s => "string(" ++ Quoted.quote s ++ ")"
  | symbol s => "symbol(" ++ s.label ++ ")"
  | array items => "array<" ++ itemsText items ++ ">"
  | object _ => "object"
  | function _ _ => "function(...)"

end Conform.Value
