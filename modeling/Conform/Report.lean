import Conform.Path

/-!
# Reports and failures

Why a check did not accept. Two kinds are verdicts about the value and carry a `Report`: the value
is there and has the wrong type, or a required property is missing. A `Fault` is neither; it says
that no verdict was reached, and nothing turns it into one.

## Main definitions

- `Report` — where and why a value was rejected
- `Fault` — a failure that is no verdict
- `Failure` — a verdict against the value, or a fault
- `ErrorFactory` — a caller's own errors in place of `Failure`
-/

namespace Conform

/-- Where and why a value was rejected. -/
structure Report where
  /-- The rejected place. -/
  path : Path
  /-- What was expected there. -/
  expected : String
  /-- What was found there, or `none` if there was no value at all. -/
  received : Option String
deriving DecidableEq, Repr

namespace Report

/-- The path as text. -/
def pathText (r : Report) : String := r.path.render

/-- The path as shown in messages. -/
def location (r : Report) : String := r.path.location

/-- Whether there was no value at all. -/
def isMissing (r : Report) : Bool := r.received.isNone

/-- The message of a report. -/
def message (r : Report) : String :=
  match r.received with
  | some received =>
    "Invalid value at " ++ r.location ++ ", expected " ++ r.expected ++ ", got " ++ received
  | none => "Missing property " ++ r.location ++ ", expected " ++ r.expected

end Report

/-- A failure that is no verdict about the value. -/
inductive Fault where
  /-- A guard failed for a reason of its own: a cause, and the contexts added around it. -/
  | guard (cause : String) (contexts : List String)
  /-- The evaluation went deeper than its limit. -/
  | depthExceeded (path : Path) (limit : Nat)
deriving DecidableEq, Repr

namespace Fault

/-- The message of a fault. A guard's fault shows its outermost context. -/
def message : Fault → String
  | guard cause contexts => contexts.getLastD cause
  | depthExceeded path limit =>
    "validation nested deeper than " ++ toString limit ++ " levels at " ++ path.location

end Fault

/-- Why a check did not accept. -/
inductive Failure where
  /-- The value is there and has the wrong type. -/
  | invalidType (report : Report)
  /-- A required property is missing. -/
  | missingProperty (report : Report)
  /-- No verdict was reached. -/
  | fault (fault : Fault)
deriving DecidableEq, Repr

namespace Failure

/-- The report of a verdict. -/
def report? : Failure → Option Report
  | invalidType r | missingProperty r => some r
  | fault _ => none

/-- The place a failure is about, if it is about one. -/
def path? : Failure → Option Path
  | invalidType r | missingProperty r => some r.path
  | fault (.depthExceeded path _) => some path
  | fault (.guard _ _) => none

/-- Whether the failure is a verdict about the value. -/
def isVerdict : Failure → Bool
  | fault _ => false
  | _ => true

/-- The message of a failure. -/
def message : Failure → String
  | invalidType r | missingProperty r => r.message
  | fault f => f.message

end Failure

/-- A caller's own errors. Faults go through a door of their own, so no factory can take one for a
    verdict. -/
structure ErrorFactory (ε : Type) where
  /-- The error for a value of the wrong type. -/
  invalidType : Report → ε
  /-- The error for a missing property. -/
  missingProperty : Report → ε
  /-- The error for a fault. -/
  fault : Fault → ε

namespace ErrorFactory

/-- The caller's error for a failure. -/
def convert {ε : Type} (errors : ErrorFactory ε) : Failure → ε
  | .invalidType r => errors.invalidType r
  | .missingProperty r => errors.missingProperty r
  | .fault f => errors.fault f

/-- Failures themselves. -/
def standard : ErrorFactory Failure := ⟨.invalidType, .missingProperty, .fault⟩

end ErrorFactory

end Conform
