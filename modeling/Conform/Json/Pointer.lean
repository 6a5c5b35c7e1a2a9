import Conform.Json.Document
import Conform.Text.Separated

/-!
# Pointers into documents

A JSON Pointer is empty, for the whole document, or a row of tokens each after a slash. In a token
`~1` stands for a slash and `~0` for a tilde. A token names a member of an object or, as a
canonical numeral, an item of a list.

## Main definitions

- `Json.Pointer.tokens?` — the tokens of a pointer
- `Json.at?` — the part of a document that a pointer selects
- `Document.read` — reads a text and selects a part of it
-/

namespace Conform

namespace Json

namespace Pointer

/-- The characters of a token with its escapes resolved. -/
def unescape : List Char → List Char
  | '~' :: '0' :: cs => '~' :: unescape cs
  | '~' :: '1' :: cs => '/' :: unescape cs
  | c :: cs => c :: unescape cs
  | [] => []

/-- The tokens of a pointer, or `none` if it is neither empty nor starts with a slash. -/
def tokens? (pointer : String) : Option (List String) :=
  match pointer.toList with
  | [] => some []
  | '/' :: cs => some ((Separated.split '/' cs).map fun token => String.ofList (unescape token))
  | _ :: _ => none

end Pointer

/-- The part of a document one token further. -/
def step? (document : Json) (token : String) : Option Json :=
  match document with
  | .obj members => members.lookup token
  | .arr items => (Numeral.value? token).bind fun i => items[i]?
  | _ => none

/-- The part of a document that a pointer selects. -/
def at? (document : Json) (pointer : String) : Option Json :=
  (Pointer.tokens? pointer).bind fun tokens => tokens.foldlM step? document

end Json

/-- Reads a text as a value, narrowed to the part that a pointer selects if one is given. The
    answer is `none` when the pointer selects nothing. -/
def Document.read (bytes : List UInt8) (pointer : Option String) :
    Except Json.PathError (Option Value) :=
  (Json.read bytes).map fun document =>
    match pointer with
    | none => some (Value.ofJson document)
    | some p => (document.at? p).map Value.ofJson

end Conform
