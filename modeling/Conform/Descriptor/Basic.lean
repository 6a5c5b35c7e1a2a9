import Conform.Primitive
import Conform.Report

/-!
# Descriptors

A descriptor describes the shape a value must have. Next to the fixed forms there are *guards*,
checks of the caller's own. A guard is a program over a few requests: it can ask whether a value
conforms to a descriptor at its own place or one key below, and it can ask this of descriptors
known by name, itself included. What a guard does with an answer is any function of that answer.

## Main definitions

- `Program` — what a guard does on one value at one path
- `Guard` — a named program for every value and path
- `Descriptor` — the descriptor grammar
- `Descriptor.union?`, `Descriptor.intersection?` — combinators that refuse an empty member list
- `DescriptorError` — why a descriptor cannot be built

## Design notes

`Program` is a tree of requests with a branch for every possible answer, so running a program is
structural recursion and a guard cannot run forever by itself. Every request about a descriptor is
answered one level further down, and the number of levels is limited.
-/

namespace Conform

/-- A line a guard leaves behind: a label, its path and the value it saw, both as text. -/
structure Note where
  /-- The text chosen by the guard. -/
  label : String
  /-- The path of the guard. -/
  path : String
  /-- The value the guard was called on. -/
  received : String
deriving DecidableEq, Repr

/-- What a request is about: a descriptor given in place, or one known by name. -/
inductive Target (δ : Type) where
  /-- This descriptor. -/
  | inline (descriptor : δ)
  /-- The descriptor known by this name. -/
  | named (name : String)

/-- What a guard does on one value at one path, where `δ` stands for descriptors. -/
inductive Program (δ : Type) where
  /-- Ends with a verdict or a failure. -/
  | answer (outcome : Except Failure Bool)
  /-- Leaves a note behind. -/
  | note (note : Note) (next : Program δ)
  /-- Asks whether a descriptor is known by a name. -/
  | knows (name : String) (next : Bool → Program δ)
  /-- Asserts that a value conforms, at the guard's own path or one key below it. -/
  | check (below : Option PropertyKey) (value : Value) (target : Target δ)
      (next : Except Failure Unit → Program δ)
  /-- Asks whether a value conforms, at the guard's own path. -/
  | conforms (value : Value) (target : Target δ) (next : Except Fault Bool → Program δ)

/-- A check of the caller's own. -/
structure Guard (δ : Type) where
  /-- The name of the guard, if it has one. -/
  name : Option String
  /-- The text shown as the guard's expectation, if it has one of its own. -/
  expecting : Option String
  /-- What the guard does on a value at a path. -/
  body : Value → Path → Program δ

/-- A description of the shape a value must have. -/
inductive Descriptor where
  /-- A value of a base kind. -/
  | primitive (p : Primitive)
  /-- One exact symbol. -/
  | literal (s : Symbol)
  /-- Whatever the guard accepts. -/
  | guard (g : Guard Descriptor)
  /-- An array whose items all conform. -/
  | arrayOf (item : Descriptor)
  /-- A holder of properties in which every field is present and conforms, checked in order. -/
  | shape (fields : Entries Descriptor)
  /-- A value that conforms to some member. -/
  | union (members : List Descriptor)
  /-- A value that conforms to every member. -/
  | intersection (members : List Descriptor)

instance : Inhabited Descriptor := ⟨.union []⟩

/-- The two combinators. -/
inductive Combinator where
  | union | intersection
deriving DecidableEq, Repr

/-- Why a descriptor cannot be built. -/
inductive DescriptorError where
  /-- No primitive has this name. -/
  | unknownPrimitive (name : String)
  /-- A combinator was given no members. -/
  | emptyCombinator (combinator : Combinator)
deriving DecidableEq, Repr

namespace Combinator

/-- The name of a combinator. -/
def name : Combinator → String
  | union => "union"
  | intersection => "intersection"

end Combinator

namespace DescriptorError

/-- The message of an error. -/
def message : DescriptorError → String
  | unknownPrimitive name => "unknown primitive kind `" ++ name ++ "`"
  | emptyCombinator combinator => combinator.name ++ " needs at least one member descriptor"

end DescriptorError

namespace Program

/-- Accepts. -/
def accept {δ : Type} : Program δ := .answer (.ok true)

/-- Fails. -/
def fail {δ : Type} (failure : Failure) : Program δ := .answer (.error failure)

/-- Asserts conformance, hands on every failure and goes on otherwise. -/
def require {δ : Type} (below : Option PropertyKey) (value : Value) (target : Target δ)
    (next : Program δ) : Program δ :=
  .check below value target fun
    | .ok () => next
    | .error failure => fail failure

/-- Asks for conformance, hands on every fault and goes on with the verdict otherwise. -/
def test {δ : Type} (value : Value) (target : Target δ) (next : Bool → Program δ) : Program δ :=
  .conforms value target fun
    | .ok verdict => next verdict
    | .error fault => fail (.fault fault)

end Program

namespace Descriptor

/-- The primitive with a given name. -/
def named? (name : String) : Except DescriptorError Descriptor :=
  match Primitive.named? name with
  | some p => .ok (primitive p)
  | none => .error (.unknownPrimitive name)

/-- The union of at least one member. -/
def union? (members : List Descriptor) : Except DescriptorError Descriptor :=
  if members.isEmpty then .error (.emptyCombinator .union) else .ok (union members)

/-- The intersection of at least one member. -/
def intersection? (members : List Descriptor) : Except DescriptorError Descriptor :=
  if members.isEmpty then .error (.emptyCombinator .intersection) else .ok (intersection members)

end Descriptor

end Conform
