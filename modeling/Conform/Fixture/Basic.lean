import Conform.Descriptor.Basic
import Conform.Json.Basic
import Conform.Text.Inspection

/-!
# Fixtures

A fixture is a case with a known outcome: a document, what it is checked against, and what the check
should come to.

## Main definitions

- `DescriptorSpec` — a descriptor spelled out as data
- `DescriptorSpec.build` — the descriptor that a specification spells out
- `Fixture.Target` — what a document is checked against
- `Fixture.Expectation` — what a check should come to
- `Fixture` — a case
-/

namespace Conform

/-- A descriptor spelled out as data. -/
inductive DescriptorSpec where
  /-- The primitive of this name. -/
  | named (name : String)
  /-- An array of items. -/
  | arrayOf (item : DescriptorSpec)
  /-- A union of members. -/
  | union (members : List DescriptorSpec)
  /-- An intersection of members. -/
  | intersection (members : List DescriptorSpec)
  /-- A shape with fields. -/
  | shape (fields : List (String × DescriptorSpec))

namespace DescriptorSpec

mutual

/-- The descriptor that a specification spells out, or the first error from left to right. -/
def build : DescriptorSpec → Except DescriptorError Descriptor
  | named name => Descriptor.named? name
  | arrayOf item => item.build.map .arrayOf
  | union members => (buildMembers members).bind Descriptor.union?
  | intersection members => (buildMembers members).bind Descriptor.intersection?
  | shape fields => (buildFields fields).map fun fields => .shape (Entries.ofList fields)

/-- The descriptors of members. -/
def buildMembers : List DescriptorSpec → Except DescriptorError (List Descriptor)
  | [] => .ok []
  | s :: specs =>
    match s.build with
    | .error e => .error e
    | .ok d => (buildMembers specs).map (d :: ·)

/-- The descriptors of fields. -/
def buildFields :
    List (String × DescriptorSpec) → Except DescriptorError (List (PropertyKey × Descriptor))
  | [] => .ok []
  | (key, s) :: fields =>
    match s.build with
    | .error e => .error e
    | .ok d => (buildFields fields).map ((.string key, d) :: ·)

end

end DescriptorSpec

/-- What a document is checked against. -/
inductive Fixture.Target where
  /-- The rules of render options, over the defaults or as the document stands. -/
  | options (mergeDefaults : Bool)
  /-- A descriptor. -/
  | descriptor (spec : DescriptorSpec)

/-- What a check should come to. A message is a regular expression that some part of the message
    has to match. -/
inductive Fixture.Expectation where
  /-- The document is accepted. -/
  | ok
  /-- The value at a path is refused. -/
  | invalid (path : String) (message : Option String)
  /-- The property at a path is missing. -/
  | missing (path : String) (message : Option String)
  /-- No verdict is reached. -/
  | fault (message : Option String)
deriving DecidableEq, Repr

/-- A case with a known outcome. -/
structure Fixture where
  /-- The name of the case. -/
  name : String
  /-- What the document is checked against. -/
  target : Fixture.Target
  /-- The document. -/
  document : Json
  /-- The deepest level that is still evaluated, if not the usual one. -/
  maxDepth : Option Nat
  /-- What the check should come to. -/
  expect : Fixture.Expectation

/-- An expectation for inspection. -/
def Fixture.Expectation.inspection : Fixture.Expectation → Inspection
  | ok => .word "Ok"
  | invalid path message =>
    .record "Invalid" [("path", .quoted path), ("message", .optional .quoted message)]
  | missing path message =>
    .record "Missing" [("path", .quoted path), ("message", .optional .quoted message)]
  | fault message => .record "Fault" [("message", .optional .quoted message)]

end Conform
