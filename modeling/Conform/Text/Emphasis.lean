/-!
# Emphasis

Terminal sequences that set a piece of text off from the text around it.

## Main definitions

- `Emphasis` — how a text is set off
- `Emphasis.paint` — a text that is set off
-/

namespace Conform

/-- How a text is set off. -/
inductive Emphasis where
  | strong | faint | slanted | red | green | yellow | blue | purple
deriving DecidableEq, Repr

namespace Emphasis

/-- The number of the sequence that starts an emphasis. -/
def code : Emphasis → Nat
  | strong => 1
  | faint => 2
  | slanted => 3
  | red => 31
  | green => 32
  | yellow => 33
  | blue => 34
  | purple => 35

/-- The sequence that starts an emphasis. -/
def opening (e : Emphasis) : String := "\x1b[" ++ toString e.code ++ "m"

/-- The sequence that ends every emphasis. -/
def closing : String := "\x1b[0m"

/-- A text that is set off. Where the text ends every emphasis, this one is started again. -/
def paint (e : Emphasis) (s : String) : String :=
  e.opening ++ s.replace closing (closing ++ e.opening) ++ closing

/-- A text that is set off if `colored` holds. -/
def paintIf (colored : Bool) (e : Emphasis) (s : String) : String :=
  if colored then e.paint s else s

end Emphasis

end Conform
