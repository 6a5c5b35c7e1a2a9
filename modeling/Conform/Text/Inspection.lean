import Conform.Text.Inspected

/-!
# Inspections

Structured data written out for inspection, on one line or with every part on a line of its own.

## Main definitions

- `Inspection` — what is to be written out
- `Inspection.compact` — on one line
- `Inspection.pretty` — over several lines, indented by four blanks a level
-/

namespace Conform

/-- Data to be written out. -/
inductive Inspection where
  /-- A text that stands for itself. -/
  | word (text : String)
  /-- A name around one part. -/
  | wrapped (name : String) (inner : Inspection)
  /-- A name around named parts. -/
  | record (name : String) (fields : List (String × Inspection))
  /-- Parts in a row. -/
  | list (items : List Inspection)

namespace Inspection

/-- A text in quotes. -/
def quoted (s : String) : Inspection := word (Inspected.quote s)

/-- A truth value. -/
def truth (b : Bool) : Inspection := word (if b then "true" else "false")

/-- A number. -/
def count (n : Nat) : Inspection := word (toString n)

/-- A part that may be missing. -/
def optional {α : Type} (inner : α → Inspection) : Option α → Inspection
  | some a => wrapped "Some" (inner a)
  | none => word "None"

mutual

/-- The data on one line. -/
def compact : Inspection → String
  | word text => text
  | wrapped name inner => name ++ "(" ++ inner.compact ++ ")"
  | record name fields => name ++ " \x7b " ++ ", ".intercalate (compactFields fields) ++ " \x7d"
  | list items => "[" ++ ", ".intercalate (compactItems items) ++ "]"

/-- Parts in a row, each on one line. -/
def compactItems : List Inspection → List String
  | [] => []
  | item :: items => item.compact :: compactItems items

/-- Named parts, each on one line. -/
def compactFields : List (String × Inspection) → List String
  | [] => []
  | (name, field) :: fields => (name ++ ": " ++ field.compact) :: compactFields fields

end

/-- Parts between brackets, each on a line of its own one level further in and followed by a
    comma. -/
def block (level : Nat) (opening closing : String) (parts : List String) : String :=
  let indentation := fun level : Nat => String.ofList (List.replicate (4 * level) ' ')
  opening ++ "\n" ++ String.join (parts.map fun part => indentation (level + 1) ++ part ++ ",\n") ++
    indentation level ++ closing

mutual

/-- The data over several lines, seen from a level of indentation. -/
def prettyAt (level : Nat) : Inspection → String
  | word text => text
  | wrapped name inner => block level (name ++ "(") ")" [inner.prettyAt (level + 1)]
  | record name fields => block level (name ++ " \x7b") "\x7d" (prettyFields (level + 1) fields)
  | list items =>
    if items.isEmpty then "[]" else block level "[" "]" (prettyItems (level + 1) items)

/-- Parts in a row, each over several lines. -/
def prettyItems (level : Nat) : List Inspection → List String
  | [] => []
  | item :: items => item.prettyAt level :: prettyItems level items

/-- Named parts, each over several lines. -/
def prettyFields (level : Nat) : List (String × Inspection) → List String
  | [] => []
  | (name, field) :: fields => (name ++ ": " ++ field.prettyAt level) :: prettyFields level fields

end

/-- The data over several lines, indented by four blanks a level. -/
def pretty (i : Inspection) : String := i.prettyAt 0

end Inspection

end Conform
