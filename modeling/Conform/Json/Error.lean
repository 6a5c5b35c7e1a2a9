import Conform.Json.Basic
import Conform.Number.Layout
import Conform.Text.Inspected

/-!
# Errors of reading

Why a text could not be read, where in the text and where in the document. The place in the
document is a path of keys and positions; keys are shown as they are, and a place that has no key
yet is shown as a question mark.

## Main definitions

- `Json.Complaint` — what is wrong
- `Json.Found` — what was found in place of what was expected
- `Json.Segment`, `Json.pathText` — the place in the document
- `Json.PathError` — a complaint with both places
-/

namespace Conform

/-- Numbers inside complaints are positional from `1e-5` up to `1e16`, with at least one place after
    the point, and every exponent has a sign. Of two equally near decimals the even one is taken. -/
def Layout.complaint : Layout where
  tie := .even
  positionalBelow := (Number.decimalMagnitude? 1 16).getD .greatest
  positionalFrom := (Number.decimalMagnitude? 1 (-5)).getD .zero
  exponentSign := "+"
  integerSuffix := ".0"

/-- The text of a number inside a complaint. -/
def Number.complaintText : Number → String
  | .nan _ _ => "NaN"
  | .infinity s => if s then "-inf" else "inf"
  | .finite s m =>
    (if s then "-" else "") ++ (if m.rank = 0 then "0.0" else m.textWith .complaint)

namespace Json

/-- What was found in place of what was expected. -/
inductive Found where
  | null
  | bool (b : Bool)
  | num (n : Num)
  | str (s : String)
  | list
  | object
deriving Repr

/-- What is wrong with a text. -/
inductive Complaint where
  | unfinishedList
  | unfinishedObject
  | unfinishedString
  | unfinishedValue
  | expectedColon
  | expectedListCommaOrEnd
  | expectedObjectCommaOrEnd
  | expectedIdent
  | expectedValue
  | invalidEscape
  | invalidNumber
  | numberOutOfRange
  | invalidCodePoint
  | controlCharacter
  | keyMustBeString
  | loneSurrogate
  | unfinishedSurrogate
  | trailingComma
  | trailingCharacters
  | recursionLimit
  | invalidType (found : Found) (expected : String)
  | invalidValue (found : Found) (expected : String)
  | invalidLength (length : Nat) (expected : String)
  | unknownVariant (name : String) (known : List String)
  | missingField (name : String)
  | duplicateField (name : String)
  | noVariant (type : String)

namespace Found

/-- What a document would be found to be. -/
def ofJson : Json → Found
  | .null => null
  | .bool b => bool b
  | .num n => num n
  | .str s => str s
  | .arr _ => list
  | .obj _ => object

/-- What was found, as text. -/
def text : Found → String
  | null => "null"
  | bool b => "boolean `" ++ (if b then "true" else "false") ++ "`"
  | num (.natural n) => "integer `" ++ toString n ++ "`"
  | num (.negative n) => "integer `-" ++ toString n ++ "`"
  | num (.real x) => "floating point `" ++ x.complaintText ++ "`"
  | str s => "string " ++ Inspected.quote s
  | list => "sequence"
  | object => "map"

end Found

/-- A choice of names, as text. -/
def oneOfText : List String → String
  | [] => "there are no variants"
  | [a] => "expected `" ++ a ++ "`"
  | [a, b] => "expected `" ++ a ++ "` or `" ++ b ++ "`"
  | names => "expected one of " ++ ", ".intercalate (names.map fun n => "`" ++ n ++ "`")

/-- What is wrong, as text. -/
def Complaint.text : Complaint → String
  | unfinishedList => "EOF while parsing a list"
  | unfinishedObject => "EOF while parsing an object"
  | unfinishedString => "EOF while parsing a string"
  | unfinishedValue => "EOF while parsing a value"
  | expectedColon => "expected `:`"
  | expectedListCommaOrEnd => "expected `,` or `]`"
  | expectedObjectCommaOrEnd => "expected `,` or `\x7d`"
  | expectedIdent => "expected ident"
  | expectedValue => "expected value"
  | invalidEscape => "invalid escape"
  | invalidNumber => "invalid number"
  | numberOutOfRange => "number out of range"
  | invalidCodePoint => "invalid unicode code point"
  | controlCharacter =>
    "control character (\\u0000-\\u001F) found while parsing a string"
  | keyMustBeString => "key must be a string"
  | loneSurrogate => "lone leading surrogate in hex escape"
  | unfinishedSurrogate => "unexpected end of hex escape"
  | trailingComma => "trailing comma"
  | trailingCharacters => "trailing characters"
  | recursionLimit => "recursion limit exceeded"
  | invalidType found expected => "invalid type: " ++ found.text ++ ", expected " ++ expected
  | invalidValue found expected => "invalid value: " ++ found.text ++ ", expected " ++ expected
  | invalidLength length expected =>
    "invalid length " ++ toString length ++ ", expected " ++ expected
  | unknownVariant name known => "unknown variant `" ++ name ++ "`, " ++ oneOfText known
  | missingField name => "missing field `" ++ name ++ "`"
  | duplicateField name => "duplicate field `" ++ name ++ "`"
  | noVariant type => "data did not match any variant of untagged enum " ++ type

/-- A step into a document. -/
inductive Segment where
  /-- To the member with this key. -/
  | key (key : String)
  /-- To the item at this position. -/
  | index (i : Nat)
  /-- To a member whose key could not be read. -/
  | unknown
deriving DecidableEq, Repr

/-- A place in a document as text: keys after dots, positions in brackets, a lone dot for the
    document itself. -/
def pathText (path : List Segment) : String :=
  match path with
  | [] => "."
  | first :: rest =>
    (match first with
      | .key k => k
      | .index i => "[" ++ toString i ++ "]"
      | .unknown => "?") ++
    String.join (rest.map fun
      | .key k => "." ++ k
      | .index i => "[" ++ toString i ++ "]"
      | .unknown => ".?")

/-- A place in a text: the line, counted from one, and how many of its bytes come before the
    place. -/
structure Position where
  /-- The line. -/
  line : Nat
  /-- The bytes of the line up to the place. -/
  column : Nat
deriving DecidableEq, Repr

/-- Why a text could not be read, where in the document and where in the text. -/
structure PathError where
  /-- The place in the document. -/
  path : List Segment
  /-- What is wrong. -/
  complaint : Complaint
  /-- The place in the text. -/
  position : Position

namespace PathError

/-- The complaint with its place in the text. -/
def source (e : PathError) : String :=
  e.complaint.text ++ " at line " ++ toString e.position.line ++ " column " ++
    toString e.position.column

/-- The complaint with both places. -/
def message (e : PathError) : String :=
  "at JSON path " ++ pathText e.path ++ " → " ++ e.source

/-- The message, followed by the complaint that it reports. -/
def fullMessage (e : PathError) : String := e.message ++ ": " ++ e.source

end PathError

end Json

end Conform
