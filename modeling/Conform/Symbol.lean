/-!
# Symbols

A symbol is a unique sentinel: it is equal only to itself, whatever its description. Each instance
carries a stamp that no other instance has.

## Main definitions

- `Symbol` — an instance, with its optional description
- `Symbol.label` — the description as shown in text, empty if there is none
-/

namespace Conform

/-- A sentinel that is equal to itself alone. -/
structure Symbol where
  /-- Tells this instance from every other. -/
  stamp : Nat
  /-- The text the symbol is shown with, if any. -/
  description : Option String
deriving DecidableEq, Repr

namespace Symbol

/-- The description, or the empty text of an anonymous symbol. -/
def label (s : Symbol) : String := s.description.getD ""

/-- The symbol as shown inside an access path. -/
def text (s : Symbol) : String := "Symbol(" ++ s.label ++ ")"

end Symbol

end Conform
