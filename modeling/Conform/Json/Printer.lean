import Conform.Json.Error
import Conform.Text.Quoted

/-!
# Writing JSON

Documents as text, on one line or with every item and member on a line of its own.

## Main definitions

- `Json.compact` — a document on one line, without blanks
- `Json.pretty` — a document over several lines, indented by two blanks a level
-/

namespace Conform.Json

/-- The text of a number. -/
def Num.text : Num → String
  | natural n => toString n
  | negative n => "-" ++ toString n
  | real x => x.complaintText

mutual

/-- A document on one line, without blanks. -/
def compact : Json → String
  | .null => "null"
  | .bool b => if b then "true" else "false"
  | .num n => n.text
  | .str s => Quoted.quote s
  | .arr items => "[" ++ ",".intercalate (compactItems items) ++ "]"
  | .obj members => "\x7b" ++ ",".intercalate (compactMembers members) ++ "\x7d"

/-- Items on one line each. -/
def compactItems : List Json → List String
  | [] => []
  | j :: js => j.compact :: compactItems js

/-- Members on one line each. -/
def compactMembers : List (String × Json) → List String
  | [] => []
  | (k, j) :: ms => (Quoted.quote k ++ ":" ++ j.compact) :: compactMembers ms

end

/-- The blanks in front of a line at some level. -/
def indentation (level : Nat) : String := String.ofList (List.replicate (2 * level) ' ')

/-- The parts of a list or an object between brackets, each on a line of its own one level further
    in. Without parts the brackets stand together. -/
def block (level : Nat) (opening closing : String) (parts : List String) : String :=
  if parts.isEmpty then opening ++ closing
  else
    let lines := parts.map fun part => indentation (level + 1) ++ part
    opening ++ "\n" ++ ",\n".intercalate lines ++ "\n" ++ indentation level ++ closing

mutual

/-- A document over several lines, seen from a level of indentation. -/
def prettyAt (level : Nat) : Json → String
  | .arr items => block level "[" "]" (prettyItems (level + 1) items)
  | .obj members => block level "\x7b" "\x7d" (prettyMembers (level + 1) members)
  | .null => "null"
  | .bool b => if b then "true" else "false"
  | .num n => n.text
  | .str s => Quoted.quote s

/-- Items over several lines. -/
def prettyItems (level : Nat) : List Json → List String
  | [] => []
  | j :: js => j.prettyAt level :: prettyItems level js

/-- Members over several lines. -/
def prettyMembers (level : Nat) : List (String × Json) → List String
  | [] => []
  | (k, j) :: ms => (Quoted.quote k ++ ": " ++ j.prettyAt level) :: prettyMembers level ms

end

/-- A document over several lines, indented by two blanks a level. -/
def pretty (document : Json) : String := document.prettyAt 0

end Conform.Json
