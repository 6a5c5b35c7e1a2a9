/-!
# Sets of characters

A set of characters is kept as the code points at which membership changes, in ascending order: from
the first of them on the characters are in the set, from the second on they are not, and so on. Two
sets are combined in one pass over these points.

## Main definitions

- `CharSet` — a set of characters
- `CharSet.contains` — whether a character is in a set
- `CharSet.complement`, `CharSet.union`, `CharSet.common`, `CharSet.without`, `CharSet.difference` —
  the operations
- `CharSet.ranges` — a set as separate ranges
-/

namespace Conform

/-- A set of characters. -/
structure CharSet where
  /-- The code points at which membership changes, in ascending order. -/
  flips : List Nat
deriving DecidableEq, Repr

namespace CharSet

/-- No character. -/
def empty : CharSet := ⟨[]⟩

/-- Every character. -/
def all : CharSet := ⟨[0]⟩

/-- The greatest code point. -/
def maxPoint : Nat := 0x10FFFF

/-- The characters from one code point to another. -/
def range (low high : Nat) : CharSet :=
  if low ≤ high then ⟨low :: if high < maxPoint then [high + 1] else []⟩ else empty

/-- The set of one character. -/
def single (c : Char) : CharSet := range c.toNat c.toNat

/-- Whether a code point is inside after the changes up to it. -/
def isInside (n : Nat) : Bool → List Nat → Bool
  | inside, [] => inside
  | inside, p :: ps => if n < p then inside else isInside n (!inside) ps

/-- Whether a code point is in a set. -/
def containsPoint (s : CharSet) (n : Nat) : Bool := isInside n false s.flips

/-- Whether a character is in a set. -/
def contains (s : CharSet) (c : Char) : Bool := s.containsPoint c.toNat

/-- The characters that are not in a set. -/
def complement (s : CharSet) : CharSet :=
  match s.flips with
  | 0 :: ps => ⟨ps⟩
  | ps => ⟨0 :: ps⟩

/-- The points at which what an operation makes of two memberships changes, where these are `x` and
    `y` so far. -/
def merge (op : Bool → Bool → Bool) (x y : Bool) : List Nat → List Nat → List Nat
  | [], [] => []
  | p :: ps, [] => note p (op x y) (op (!x) y) (merge op (!x) y ps [])
  | [], q :: qs => note q (op x y) (op x (!y)) (merge op x (!y) [] qs)
  | p :: ps, q :: qs =>
    if p < q then note p (op x y) (op (!x) y) (merge op (!x) y ps (q :: qs))
    else if q < p then note q (op x y) (op x (!y)) (merge op x (!y) (p :: ps) qs)
    else note p (op x y) (op (!x) (!y)) (merge op (!x) (!y) ps qs)
termination_by ps qs => ps.length + qs.length
where
  /-- Puts a point in front if membership changes there. -/
  note (p : Nat) (before after : Bool) (ps : List Nat) : List Nat :=
    if before = after then ps else p :: ps

/-- The characters in either set. -/
def union (a b : CharSet) : CharSet := ⟨merge (· || ·) false false a.flips b.flips⟩

/-- The characters in both sets. -/
def common (a b : CharSet) : CharSet := ⟨merge (· && ·) false false a.flips b.flips⟩

/-- The characters in the first set that are not in the second. -/
def without (a b : CharSet) : CharSet := ⟨merge (· && !·) false false a.flips b.flips⟩

/-- The characters in exactly one of two sets. -/
def difference (a b : CharSet) : CharSet := ⟨merge (· != ·) false false a.flips b.flips⟩

/-- The characters in any of some sets. -/
def unions (sets : List CharSet) : CharSet := sets.foldl union empty

/-- The set of ranges that come in ascending order and do not overlap. -/
def ofAscending (ranges : List (Nat × Nat)) : CharSet :=
  ⟨ranges.foldr (fun (low, high) ps =>
    match ps with
    | p :: rest => if p = high + 1 then low :: rest else low :: (high + 1) :: ps
    | [] => (range low high).flips) []⟩

/-- The set of some code points. -/
def ofPoints (points : List Nat) : CharSet :=
  ofAscending (points.mergeSort.eraseReps.map fun n => (n, n))

/-- A set as separate ranges in ascending order. -/
def ranges (s : CharSet) : List (Nat × Nat) := pairs s.flips
where
  /-- The ranges between changes. -/
  pairs : List Nat → List (Nat × Nat)
    | low :: next :: ps => (low, next - 1) :: pairs ps
    | [low] => [(low, maxPoint)]
    | [] => []

end CharSet

end Conform
