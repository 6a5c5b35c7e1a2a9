import Conform.Json.Document

/-!
# Reading typed data

Readers that expect a certain type. A value of another type is complained about just past the value
if it is a scalar, and in front of it if it is a list or an object.

## Main definitions

- `Json.Reader.mismatch` — complains about a value of the wrong type
- `Json.Reader.text`, `Json.Reader.truth`, `Json.Reader.natural` — typed scalars
- `Json.Reader.optional`, `Json.Reader.list` — values that may be `null`, and lists
- `Json.Reader.record` — records, written as an object or as the list of their fields
-/

namespace Conform.Json

/-- A natural number below `bound`, from a number as read. -/
def Num.natural? (bound : Nat) (expected : String) : Num → Except Complaint Nat
  | .natural n =>
    if n < bound then .ok n else .error (.invalidValue (.num (.natural n)) expected)
  | .negative n => .error (.invalidValue (.num (.negative n)) expected)
  | .real x => .error (.invalidType (.num (.real x)) expected)

namespace Reader

variable {α σ : Type}

/-- Complains that the value that comes next is not of the expected type. -/
def mismatch (expected : String) : Reader α := settle do
  match ← peek with
  | none => failNext .expectedValue
  | some b =>
    if b = 91 then failOpen (.invalidType .list expected)
    else if b = 123 then failOpen (.invalidType .object expected)
    else
      let found ← scalar b
      failOpen (.invalidType (.ofJson found) expected)

/-- A text. -/
def text (expected : String) : Reader String := do
  match ← blank with
  | none => failNext .unfinishedValue
  | some b =>
    if b = 34 then
      advance
      string
    else mismatch expected

/-- A truth value. -/
def truth : Reader Bool := do
  match ← blank with
  | none => failNext .unfinishedValue
  | some b =>
    if b = 116 then
      advance
      literal [114, 117, 101]
      return true
    else if b = 102 then
      advance
      literal [97, 108, 115, 101]
      return false
    else mismatch "a boolean"

/-- A natural number below `bound`. -/
def natural (bound : Nat) (expected : String) : Reader Nat := settle do
  match ← blank with
  | none => failNext .unfinishedValue
  | some b =>
    if b = 45 then
      advance
      check (← number true)
    else if (digitValue? b).isSome then check (← number false)
    else mismatch expected
where
  /-- The number, if it is below the bound. -/
  check (n : Num) : Reader Nat :=
    match n.natural? bound expected with
    | .ok n => pure n
    | .error complaint => failOpen complaint

/-- A value that may be `null`. -/
def optional (inner : Reader α) : Reader (Option α) := do
  if (← blank) == some 110 then
    advance
    literal [117, 108, 108]
    return none
  else return some (← inner)

/-- A list. The items are read with one level less. -/
def list (levels : Nat) (item : Nat → Reader α) : Reader (List α) := do
  match ← blank with
  | none => failNext .unfinishedValue
  | some b =>
    if b = 91 then
      settle (enter levels do
        let fuel ← remaining
        closedBy closeList (items (item (levels - 1)) (fuel + 1) 0))
    else mismatch "a sequence"

/-- The item of a list at a position, if the list is long enough. -/
def item? (i : Nat) (item : Reader α) : Reader (Option α) := do
  if ← hasItem (i == 0) then return some (← within (.index i) item)
  else return none

/-- A record, written as an object, read by `byMembers`, or as a list, read by `byItems`. Both are
    given the levels left. -/
def record (levels : Nat) (expected : String) (byItems byMembers : Nat → Reader α) :
    Reader α := do
  match ← blank with
  | none => failNext .unfinishedValue
  | some b =>
    if b = 91 then settle (enter levels (closedBy closeList (byItems (levels - 1))))
    else if b = 123 then settle (enter levels (closedBy closeObject (byMembers (levels - 1))))
    else mismatch expected

/-- Folds over the members of the object that is being read. -/
def fold (member : σ → String → Reader σ) (state : σ) : Reader σ := do
  members member ((← remaining) + 1) true state

/-- The value of a field that must not have been read before. -/
def field (key : String) (sofar : Option α) (inner : Reader α) : Reader α :=
  match sofar with
  | some _ => failOpen (.duplicateField key)
  | none => memberValue key inner

/-- A field that must have been read. -/
def required (key : String) : Option α → Reader α
  | some a => pure a
  | none => failOpen (.missingField key)

end Reader

end Conform.Json
