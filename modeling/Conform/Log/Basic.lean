/-!
# Log records

What a run remarks upon besides its result.

## Main definitions

- `Log.Level` — how much a remark matters
- `Log.Record` — a remark
-/

namespace Conform.Log

/-- How much a remark matters, from the most to the least. -/
inductive Level where
  | error | warn | info | debug | trace
deriving DecidableEq, Repr

namespace Level

/-- The name of a level in log lines. -/
def name : Level → String
  | error => "ERROR"
  | warn => "WARN"
  | info => "INFO"
  | debug => "DEBUG"
  | trace => "TRACE"

/-- Every level, from the one that matters most to the one that matters least. -/
def all : List Level := [error, warn, info, debug, trace]

/-- How verbose a log has to be to show a level. -/
def verbosity : Level → Nat
  | error => 1
  | warn => 2
  | info => 3
  | debug => 4
  | trace => 5

end Level

/-- What a field of a remark holds. -/
inductive FieldValue where
  | text (s : String)
  | count (n : Nat)
deriving DecidableEq, Repr

/-- A remark. -/
structure Record where
  /-- How much it matters. -/
  level : Level
  /-- The part of the program that makes it. -/
  target : String
  /-- What it says. -/
  message : String
  /-- What it is about. -/
  fields : List (String × FieldValue)
deriving DecidableEq, Repr

end Conform.Log
