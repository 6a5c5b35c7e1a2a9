import Conform.Evaluation.Eval
import Conform.Descriptor.Render

/-!
# The two modes of evaluation

*Assert mode* finds the first failure of a value against a descriptor, with its path; *predicate
mode* answers yes or no. They are written separately, and they meet in two places: assert mode
probes the members of unions and intersections in predicate mode, since one member's report says
nothing about the whole, and guards may ask for either.

## Main definitions

- `Level` — the two modes as seen from one level above
- `Scope` — the place of a step, and the level below it
- `Program.run` — what a guard does in its scope
- `Scope.assertHere`, `Scope.acceptsHere` — one step of each mode
- `Validator.level` — the two modes with a number of levels to go
- `Validator.assert`, `Validator.accepts` — the two modes on a whole value

## Design notes

Every descent, into a value, into a member of a combinator or out of a guard, goes one level down.
The number of levels left is the measure of the recursion, so descriptors that refer to each other
by name need no further argument: at the last level the answer is a fault.
-/

namespace Conform

/-- The two modes as seen from one level above. -/
structure Level where
  /-- Assert mode: success, or the first failure. -/
  assert : Value → Descriptor → Path → Eval Failure Unit
  /-- Predicate mode: a verdict, or a fault. -/
  accepts : Value → Descriptor → Path → Eval Fault Bool

/-- The settings of an evaluation. -/
structure Validator where
  /-- The deepest level that is still evaluated; the value itself is at level zero. -/
  maxDepth : Nat := 256
  /-- The descriptors known by name. -/
  known : String → Option Descriptor := fun _ => none

/-- The fault of asking for a name that is not known. -/
def Fault.unknownName (name : String) : Fault := .guard ("no descriptor named " ++ name) []

namespace Eval

/-- Writes a report about a value of the wrong type and stops. -/
def rejectType {α : Type} (path : Path) (expected : Descriptor) (v : Value) : Eval Failure α := do
  emit (.wrongType ⟨path, expected.render, some v.received⟩)
  fail (.wrongType path expected v)

/-- Writes a report about a missing property and stops. -/
def rejectAbsent {α : Type} (path : Path) (expected : Descriptor) : Eval Failure α := do
  emit (.absent ⟨path, expected.render, none⟩)
  fail (.absent path expected)

/-- Success if the test came out, a report about the value otherwise. -/
def expectType (verdict : Bool) (path : Path) (expected : Descriptor) (v : Value) :
    Eval Failure Unit :=
  if verdict then pure () else rejectType path expected v

end Eval

/-- Where a step of an evaluation takes place, and the two modes one level down. A guard sees the
    scope it is called in and makes its requests there. -/
structure Scope where
  /-- The descriptors known by name. -/
  known : String → Option Descriptor
  /-- The level below this one. -/
  below : Level
  /-- The path of the value. -/
  path : Path
  /-- The depth of this level. -/
  depth : Nat

namespace Scope

/-- The path a request is about: the guard's own, or one key below it. -/
def place (scope : Scope) : Option PropertyKey → Path
  | some key => scope.path.child key
  | none => scope.path

/-- The descriptor a request is about. A name that is not known is a fault. -/
def resolve (scope : Scope) : Target Descriptor → Except Fault Descriptor
  | .inline d => .ok d
  | .named name =>
    match scope.known name with
    | some d => .ok d
    | none => .error (.unknownName name)

/-- Asserts that a value conforms, at the guard's own path or one key below it. -/
def check (scope : Scope) (key : Option PropertyKey) (v : Value) (target : Target Descriptor) :
    Eval Failure Unit :=
  match scope.resolve target with
  | .ok d => scope.below.assert v d (scope.place key)
  | .error fault => Eval.fail (.fault fault)

/-- Asks whether a value conforms, at the guard's own path. -/
def conforms (scope : Scope) (v : Value) (target : Target Descriptor) : Eval Fault Bool :=
  match scope.resolve target with
  | .ok d => scope.below.accepts v d scope.path
  | .error fault => Eval.fail fault

end Scope

namespace Program

/-- Runs a guard's program, answering its requests one level down. -/
def run (scope : Scope) : Program Descriptor → Eval Failure Bool
  | answer outcome => ⟨[], outcome⟩
  | note n next => do
    Eval.emit (.noted n)
    next.run scope
  | knows name next => (next (scope.known name).isSome).run scope
  | check key v target next =>
    Eval.bind (scope.check key v target).attempt fun outcome => (next outcome).run scope
  | conforms v target next =>
    Eval.bind (scope.conforms v target).attempt fun outcome => (next outcome).run scope

end Program

/-- Calls a guard on a value. -/
def Guard.call (g : Guard Descriptor) (scope : Scope) (v : Value) : Eval Failure Bool := do
  Eval.emit (.called g v scope.path scope.depth)
  let outcome ← ((g.body v scope.path).run scope).attempt
  Eval.emit (.returned outcome)
  ⟨[], outcome⟩

namespace Scope

/-- One step of assert mode at a depth within the limit. -/
def assertHere (scope : Scope) (v : Value) (d : Descriptor) : Eval Failure Unit := do
  match d with
  | .primitive p => Eval.expectType (p.test v) scope.path d v
  | .literal s =>
    match v with
    | .symbol t => Eval.expectType (t == s) scope.path d v
    | _ => Eval.rejectType scope.path d v
  | .guard g => Eval.expectType (← g.call scope v) scope.path d v
  | .arrayOf item =>
    match v with
    | .array items =>
      items.zipIdx.forM fun (x, i) => scope.below.assert x item (scope.path.child (.index i))
    | _ => Eval.rejectType scope.path d v
  | .union members =>
    let verdict ← members.anyM fun member =>
      (scope.below.accepts v member scope.path).mapError Failure.fault
    Eval.expectType verdict scope.path d v
  | .intersection members =>
    let verdict ← members.allM fun member =>
      (scope.below.accepts v member scope.path).mapError Failure.fault
    Eval.expectType verdict scope.path d v
  | .shape fields =>
    if v.holdsProperties then
      fields.toList.forM fun (key, field) =>
        match v.get? key with
        | some property => scope.below.assert property field (scope.path.child key)
        | none => Eval.rejectAbsent (scope.path.child key) field
    else
      Eval.rejectType scope.path d v

/-- The verdict behind a guard's outcome: its failures about the value are a no. -/
def verdictOf : Except Failure Bool → Except Fault Bool
  | .ok verdict => .ok verdict
  | .error (.fault f) => .error f
  | .error (.invalidType _) | .error (.missingProperty _) => .ok false

/-- One step of predicate mode at a depth within the limit. -/
def acceptsHere (scope : Scope) (v : Value) (d : Descriptor) : Eval Fault Bool := do
  match d with
  | .primitive p => pure (p.test v)
  | .literal s =>
    match v with
    | .symbol t => pure (t == s)
    | _ => pure false
  | .guard g =>
    let outcome ← (g.call scope v).attempt
    ⟨[], verdictOf outcome⟩
  | .arrayOf item =>
    match v with
    | .array items =>
      items.zipIdx.allM fun (x, i) => scope.below.accepts x item (scope.path.child (.index i))
    | _ => pure false
  | .union members => members.anyM fun member => scope.below.accepts v member scope.path
  | .intersection members => members.allM fun member => scope.below.accepts v member scope.path
  | .shape fields =>
    if v.holdsProperties then
      fields.toList.allM fun (key, field) =>
        match v.get? key with
        | some property => scope.below.accepts property field (scope.path.child key)
        | none => pure false
    else
      pure false

end Scope

namespace Validator

/-- The two modes with a number of levels to go: with none left both end in a fault. The depth of a
    level is what the levels above it have used up. -/
def level (va : Validator) : Nat → Level
  | 0 => {
      assert := fun _ _ path => do
        Eval.emit (.entered path (va.maxDepth + 1))
        Eval.fail (.fault (.depthExceeded path va.maxDepth))
      accepts := fun _ _ path => do
        Eval.emit (.entered path (va.maxDepth + 1))
        Eval.fail (.depthExceeded path va.maxDepth) }
  | left + 1 => {
      assert := fun v d path => do
        Eval.emit (.entered path (va.maxDepth - left))
        Scope.assertHere ⟨va.known, va.level left, path, va.maxDepth - left⟩ v d
      accepts := fun v d path => do
        Eval.emit (.entered path (va.maxDepth - left))
        Scope.acceptsHere ⟨va.known, va.level left, path, va.maxDepth - left⟩ v d }

/-- The two modes at a depth, whatever it is. -/
def levelAt (va : Validator) (depth : Nat) : Level := va.level (va.maxDepth + 1 - depth)

/-- Assert mode on a whole value. -/
def assert (va : Validator) (v : Value) (d : Descriptor) : Eval Failure Unit :=
  (va.levelAt 0).assert v d .root

/-- Predicate mode on a whole value. -/
def accepts (va : Validator) (v : Value) (d : Descriptor) : Eval Fault Bool :=
  (va.levelAt 0).accepts v d .root

/-- Assert mode on a whole value, with the caller's own errors. -/
def assertWith {ε : Type} (va : Validator) (errors : ErrorFactory ε) (v : Value)
    (d : Descriptor) : Eval ε Unit :=
  (va.assert v d).mapError errors.convert

end Validator

end Conform
