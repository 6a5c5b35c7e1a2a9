import Conform.Value.Basic

/-!
# JSON documents

A JSON document as it was written: numbers keep the distinction between integers that fit a machine
word and all others, and objects keep every member in the order of the text, repeated keys
included.

## Main definitions

- `Json` — a document
- `Json.Num` — a number as read
- `Value.ofJson` — a document as an untyped value, where every number is a binary64 number
-/

namespace Conform

/-- A number as read. -/
inductive Json.Num where
  /-- An integer from zero up to the largest unsigned 64-bit word. -/
  | natural (n : Nat)
  /-- An integer below zero that fits a signed 64-bit word, by its absolute value. -/
  | negative (n : Nat)
  /-- Any other number. -/
  | real (x : Number)
deriving DecidableEq, Repr

/-- A JSON document. -/
inductive Json where
  /-- The literal `null`. -/
  | null
  /-- A truth value. -/
  | bool (b : Bool)
  /-- A number. -/
  | num (n : Json.Num)
  /-- A text. -/
  | str (s : String)
  /-- A list. -/
  | arr (items : List Json)
  /-- An object, with its members in the order of the text. -/
  | obj (members : List (String × Json))

instance : Inhabited Json := ⟨.null⟩

/-- The number as a binary64 number. -/
def Json.Num.toNumber : Json.Num → Number
  | natural n => .ofNat n
  | negative n => (Number.ofNat n).neg
  | real x => x

namespace Value

mutual

/-- A document as an untyped value. A repeated key keeps its first position and takes its last
    value. -/
def ofJson : Json → Value
  | .null => .null
  | .bool b => .bool b
  | .num n => .number n.toNumber
  | .str s => .string s
  | .arr items => .array (ofItems items)
  | .obj members => .object (Entries.ofList (ofMembers members))

/-- The items of a document as untyped values. -/
def ofItems : List Json → List Value
  | [] => []
  | j :: js => ofJson j :: ofItems js

/-- The members of a document as keyed values. -/
def ofMembers : List (String × Json) → List (PropertyKey × Value)
  | [] => []
  | (k, j) :: ms => (.string k, ofJson j) :: ofMembers ms

end

end Value

namespace Json

/-- Adds a member to a list of members without repetitions: in place if the key is there. -/
def insertMember (key : String) (item : Json) : List (String × Json) → List (String × Json)
  | [] => [(key, item)]
  | (k, j) :: ms => if k = key then (k, item) :: ms else (k, j) :: insertMember key item ms

/-- The members with repeated keys merged: the first position and the last item of each. -/
def mergeMembers (members : List (String × Json)) : List (String × Json) :=
  members.foldl (fun acc (m : String × Json) => insertMember m.1 m.2 acc) []

mutual

/-- The document with repeated keys merged in every object. -/
def merged : Json → Json
  | .null => .null
  | .bool b => .bool b
  | .num n => .num n
  | .str s => .str s
  | .arr items => .arr (mergedItems items)
  | .obj members => .obj (mergeMembers (mergedMembers members))

/-- The items with repeated keys merged in every object. -/
def mergedItems : List Json → List Json
  | [] => []
  | j :: js => merged j :: mergedItems js

/-- The members with repeated keys merged in every object among their items. -/
def mergedMembers : List (String × Json) → List (String × Json)
  | [] => []
  | (k, j) :: ms => (k, merged j) :: mergedMembers ms

end

end Json

end Conform
