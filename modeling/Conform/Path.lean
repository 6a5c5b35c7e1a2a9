import Conform.PropertyKey
import Conform.Text.Quoted

/-!
# Access paths

A path is the list of keys that leads from a value to one of its parts. It is written the way a
reader would write the access: `a.b`, `items[2]`, `headers["content-type"]`, `[Symbol(tag)]`.

## Main definitions

- `Path` — the keys, outermost first
- `Path.IsIdentifier` — the strings that are written after a dot
- `Path.render` — the text of a path, empty for the root
- `Path.location` — the text of a path inside a message, where the root has a name
-/

namespace Conform

/-- The keys that lead from a value to one of its parts. -/
structure Path where
  /-- The keys, outermost first. -/
  keys : List PropertyKey
deriving DecidableEq, Repr

namespace Path

/-- The path of the value itself. -/
def root : Path := ⟨[]⟩

/-- The path one key deeper. -/
def child (p : Path) (key : PropertyKey) : Path := ⟨p.keys ++ [key]⟩

/-- The number of keys. -/
def length (p : Path) : Nat := p.keys.length

/-- Whether the path is that of the value itself. -/
def isRoot (p : Path) : Bool := p.keys.isEmpty

/-- Characters an identifier can start with: ASCII letters, the dollar sign and the underscore. -/
def isIdentifierStart (c : Char) : Bool := c.isAlpha || c == '$' || c == '_'

/-- Characters an identifier can go on with: also the ASCII digits. -/
def isIdentifierPart (c : Char) : Bool := isIdentifierStart c || c.isDigit

/-- Whether the characters form an identifier. -/
def IsIdentifier : List Char → Prop
  | [] => False
  | c :: cs => isIdentifierStart c = true ∧ cs.all isIdentifierPart = true

instance (cs : List Char) : Decidable (IsIdentifier cs) := by
  cases cs <;> unfold IsIdentifier <;> infer_instance

/-- The text of one key: identifiers after a dot, everything else in brackets. -/
def segment : PropertyKey → String
  | .string s => if IsIdentifier s.toList then "." ++ s else "[" ++ Quoted.quote s ++ "]"
  | .index i => "[" ++ toString i ++ "]"
  | .symbol s => "[" ++ s.text ++ "]"

/-- The text of the keys, each with its mark in front. -/
def segments (keys : List PropertyKey) : String := String.join (keys.map segment)

/-- The text of a path. A dot at the very front is left out; the root is the empty text. -/
def render (p : Path) : String :=
  match (segments p.keys).toList with
  | '.' :: rest => String.ofList rest
  | cs => String.ofList cs

/-- The text of a path inside a message. -/
def location (p : Path) : String := if p.isRoot then "<root>" else p.render

end Path

end Conform
