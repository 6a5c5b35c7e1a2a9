import Conform.Text.CharSet
import Conform.Text.Hexadecimal
import Conform.Text.Separated

/-!
# Tables of code points

How properties of characters are written down. A set is written as its ranges, in ascending order:
`41-5A 61-7A AA`, in hexadecimal numbers. A partition of all code points into classes is written as
runs from zero on, each with its class and, where it has more than one code point, its length:
`Cc:20 Zs Po:3 Sc`.

## Main definitions

- `Unicode.setOf` — the set that some lines write down
- `Unicode.Partition` — a partition of the code points
- `Unicode.Partition.ofRuns` — the partition that some lines write down
- `Unicode.Partition.select` — the characters of some of its classes
-/

namespace Conform.Unicode

/-- The words of some lines. -/
def wordsOf (lines : List String) : List (List Char) :=
  lines.flatMap fun line => Separated.split ' ' line.toList

/-- The range that a word gives: its two ends around a dash, or one code point. -/
def rangeOf (word : List Char) : Nat × Nat :=
  let low := word.takeWhile (· ≠ '-')
  match word.drop low.length with
  | [] => (Hexadecimal.ofDigits low, Hexadecimal.ofDigits low)
  | _ :: high => (Hexadecimal.ofDigits low, Hexadecimal.ofDigits high)

/-- The set that some lines write down. -/
def setOf (lines : List String) : CharSet := CharSet.ofAscending ((wordsOf lines).map rangeOf)

/-- A partition of the code points: runs in ascending order, each with the code point after its last
    and the name of its class. -/
structure Partition where
  /-- The runs. -/
  runs : List (Nat × String)
deriving DecidableEq, Repr

namespace Partition

/-- The class and the length of the run that a word gives. -/
def runOf (word : List Char) : String × Nat :=
  let name := word.takeWhile (· ≠ ':')
  match word.drop name.length with
  | [] => (String.ofList name, 1)
  | _ :: size => (String.ofList name, Hexadecimal.ofDigits size)

/-- Runs of given lengths from a code point on. -/
def follow (start : Nat) : List (String × Nat) → List (Nat × String)
  | [] => []
  | (name, size) :: more => (start + size, name) :: follow (start + size) more

/-- The partition that some lines write down. -/
def ofRuns (lines : List String) : Partition := ⟨follow 0 ((wordsOf lines).map runOf)⟩

/-- The ranges of the runs whose classes pass a test, where the first run starts at `start`. -/
def rangesFrom (test : String → Bool) (start : Nat) : List (Nat × String) → List (Nat × Nat)
  | [] => []
  | (stop, name) :: more =>
    if test name then (start, stop - 1) :: rangesFrom test stop more
    else rangesFrom test stop more

/-- The characters of the classes that pass a test. -/
def select (p : Partition) (test : String → Bool) : CharSet :=
  CharSet.ofAscending (rangesFrom test 0 p.runs)

end Partition

end Conform.Unicode
