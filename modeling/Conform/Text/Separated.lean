/-!
# Separated text

Texts cut at every occurrence of one character. The parts are kept even where they are empty, so a
text always has one part more than it has separators.

## Main definitions

- `Separated.split` — the parts of a row of characters
- `Separated.splitText` — the parts of a text
-/

namespace Conform.Separated

/-- The parts between separators. -/
def split (separator : Char) : List Char → List (List Char)
  | [] => [[]]
  | c :: cs =>
    if c = separator then [] :: split separator cs
    else
      match split separator cs with
      | [] => [[c]]
      | part :: parts => (c :: part) :: parts

/-- The parts of a text between separators. -/
def splitText (separator : Char) (s : String) : List String :=
  (split separator s.toList).map String.ofList

end Conform.Separated
