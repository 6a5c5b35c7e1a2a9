import Conform.Entries
import Conform.Number.Rounding

/-!
# Untyped values

What a loosely typed host can hand over: `undefined` next to `null`, big integers, symbols compared
by identity, and callables that hold properties. Values are only ever read.

## Main definitions

- `Value` — a value
- `Callable` — the callable part of a function value
- `Kind`, `Value.kind` — the kind of a value, arrays apart from other objects
- `Value.get?` — property lookup
-/

namespace Conform

/-- What a callable answers. -/
inductive Response (α : Type) where
  /-- Nothing. -/
  | nothing
  /-- How many arguments it was given. -/
  | argumentCount
  /-- Its first argument, if it has one. -/
  | firstArgument
  /-- Always the same value. -/
  | constant (value : α)

/-- The callable part of a function value. Two callables are the same when their stamps agree. -/
structure Callable (α : Type) where
  /-- Tells this callable from every other. -/
  stamp : Nat
  /-- The name it was made with, if any. -/
  name : Option String
  /-- What it answers when called. -/
  response : Response α

/-- An untyped value. -/
inductive Value where
  /-- No value at all. -/
  | undefined
  /-- The empty value. -/
  | null
  /-- A truth value. -/
  | bool (b : Bool)
  /-- A binary64 number. -/
  | number (n : Number)
  /-- An integer of any size. -/
  | bigint (n : Int)
  /-- Text. -/
  | string (s : String)
  /-- A sentinel. -/
  | symbol (s : Symbol)
  /-- A sequence of values. -/
  | array (items : List Value)
  /-- A bag of properties. -/
  | object (entries : Entries Value)
  /-- A callable, which holds properties as well. -/
  | function (callable : Callable Value) (properties : Entries Value)

instance : Inhabited Value := ⟨.undefined⟩

/-- The kinds of value. -/
inductive Kind where
  | undefined | null | boolean | number | bigint | string | symbol | array | object | function
deriving DecidableEq, Repr

namespace Kind

/-- The name of a kind. -/
def name : Kind → String
  | undefined => "undefined"
  | null => "null"
  | boolean => "boolean"
  | number => "number"
  | bigint => "bigint"
  | string => "string"
  | symbol => "symbol"
  | array => "array"
  | object => "object"
  | function => "function"

end Kind

namespace Value

/-- The kind of a value. -/
def kind : Value → Kind
  | undefined => .undefined
  | null => .null
  | bool _ => .boolean
  | number _ => .number
  | bigint _ => .bigint
  | string _ => .string
  | symbol _ => .symbol
  | array _ => .array
  | object _ => .object
  | function _ _ => .function

/-- Property lookup. A key is present whatever value is stored under it, `undefined` included;
    arrays answer to indices alone. -/
def get? : Value → PropertyKey → Option Value
  | object entries, key => entries.property? key
  | function _ properties, key => properties.property? key
  | array items, key => key.asIndex?.bind fun i => items[i]?
  | _, _ => none

/-- Whether a property is present. -/
def has (v : Value) (key : PropertyKey) : Bool := (v.get? key).isSome

/-- Objects, arrays and functions can hold properties. -/
def holdsProperties : Value → Bool
  | object _ | array _ | function _ _ => true
  | _ => false

/-- Whether the value is `null` or `undefined`. -/
def isNullish : Value → Bool
  | null | undefined => true
  | _ => false

/-- The truth value, if it is one. -/
def asBool? : Value → Option Bool
  | bool b => some b
  | _ => none

/-- The number, if it is one. -/
def asNumber? : Value → Option Number
  | number n => some n
  | _ => none

/-- The big integer, if it is one. -/
def asBigint? : Value → Option Int
  | bigint n => some n
  | _ => none

/-- The text, if it is text. -/
def asString? : Value → Option String
  | string s => some s
  | _ => none

/-- The symbol, if it is one. -/
def asSymbol? : Value → Option Symbol
  | symbol s => some s
  | _ => none

/-- The elements, if it is an array. -/
def asArray? : Value → Option (List Value)
  | array items => some items
  | _ => none

/-- Whether the value is an object, arrays and functions not counted. -/
def isObject : Value → Bool
  | object _ => true
  | _ => false

end Value

/-- The answer of a callable to a list of arguments. -/
def Callable.call (f : Callable Value) (arguments : List Value) : Value :=
  match f.response with
  | .nothing => .undefined
  | .argumentCount => .number (Number.ofNat arguments.length)
  | .firstArgument => arguments.head?.getD .undefined
  | .constant v => v

end Conform
