import Conform.Descriptor.Basic
import Conform.Value.Received

/-!
# Expectations

The text of a descriptor in a diagnostic, and the failures that name a descriptor.

## Main definitions

- `Descriptor.render` — the text of a descriptor
- `Failure.wrongType` — a value that does not conform to a descriptor
- `Failure.unexpected` — a value that does not meet an expectation given as text
- `Failure.absent` — a property that is not there
-/

namespace Conform

namespace Descriptor

mutual

/-- The text of a descriptor. Combinators are written without parentheses, and a shape is just an
    object. -/
def render : Descriptor → String
  | primitive p => p.name
  | literal s => "symbol(" ++ s.label ++ ")"
  | guard ⟨name, expecting, _⟩ =>
    match expecting, name with
    | some text, _ => text
    | none, some name => "guard(" ++ name ++ ")"
    | none, none => "guard"
  | arrayOf item => "array<" ++ render item ++ ">"
  | shape _ => "object"
  | union members => " | ".intercalate (renderAll members)
  | intersection members => " & ".intercalate (renderAll members)

/-- The texts of several descriptors. -/
def renderAll : List Descriptor → List String
  | [] => []
  | d :: ds => render d :: renderAll ds

end

end Descriptor

namespace Failure

/-- A value that does not conform to a descriptor. -/
def wrongType (path : Path) (expected : Descriptor) (v : Value) : Failure :=
  .invalidType ⟨path, expected.render, some v.received⟩

/-- A value that does not meet an expectation given as text. -/
def unexpected (path : Path) (expected : String) (v : Value) : Failure :=
  .invalidType ⟨path, expected, some v.received⟩

/-- A property that is not there. -/
def absent (path : Path) (expected : Descriptor) : Failure :=
  .missingProperty ⟨path, expected.render, none⟩

end Failure

end Conform
