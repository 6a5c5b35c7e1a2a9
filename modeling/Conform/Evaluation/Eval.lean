import Conform.Descriptor.Basic

/-!
# Evaluations

An evaluation is an outcome together with the events that led to it. The events are the history of
the walk: which places were entered at which depth, which guards were called and what they
answered, the notes they left and the reports that were written.

## Main definitions

- `Event` — one step of the history
- `Eval` — an outcome and its history, a monad that stops at the first error
- `Eval.attempt` — turns an error into an answer
-/

namespace Conform

/-- One step of the history of an evaluation. -/
inductive Event where
  /-- A value was to be checked at this path and depth. -/
  | entered (path : Path) (depth : Nat)
  /-- A guard was called. -/
  | called (guard : Guard Descriptor) (value : Value) (path : Path) (depth : Nat)
  /-- The guard called last among those still running ended. -/
  | returned (outcome : Except Failure Bool)
  /-- A guard left a note. -/
  | noted (note : Note)
  /-- A report was written about a value of the wrong type. -/
  | wrongType (report : Report)
  /-- A report was written about a missing property. -/
  | absent (report : Report)

/-- An outcome and the history that led to it. -/
structure Eval (ε α : Type) where
  /-- What happened, in order. -/
  events : List Event
  /-- The outcome. -/
  outcome : Except ε α

namespace Eval

variable {ε ε' α β : Type}

/-- Goes on with the result, or stops at an error. -/
def bind (x : Eval ε α) (f : α → Eval ε β) : Eval ε β :=
  match x.outcome with
  | .ok a =>
    let y := f a
    ⟨x.events ++ y.events, y.outcome⟩
  | .error e => ⟨x.events, .error e⟩

instance : Monad (Eval ε) where
  pure a := ⟨[], .ok a⟩
  bind := bind

/-- Stops with an error. -/
def fail (e : ε) : Eval ε α := ⟨[], .error e⟩

/-- Records an event. -/
def emit (event : Event) : Eval ε Unit := ⟨[event], .ok ()⟩

/-- Runs an evaluation and answers with its outcome, whatever it is. -/
def attempt (x : Eval ε α) : Eval ε' (Except ε α) := ⟨x.events, .ok x.outcome⟩

/-- The same evaluation with another type of error. -/
def mapError (f : ε → ε') (x : Eval ε α) : Eval ε' α := ⟨x.events, x.outcome.mapError f⟩

/-- The notes that were left, in order. -/
def notes (x : Eval ε α) : List Note :=
  x.events.filterMap fun
    | .noted note => some note
    | _ => none

end Eval

end Conform
