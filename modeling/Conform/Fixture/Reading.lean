import Conform.Fixture.Basic
import Conform.Json.Typed

/-!
# Reading fixtures

Fixtures are records in a JSON list. Their targets and expectations come in several variants, told
apart by a tag that may stand anywhere among the members. So the other members are set aside as they
are read, and looked into once the tag is known; what is wrong with them is then known only for the
variant as a whole.

## Main definitions

- `DescriptorSpec.ofJson?` — a specification from a document
- `Json.Reader.tagged` — the tag of a variant and what was set aside
- `Fixture.reader` — reads a fixture
- `Fixture.readAll` — reads a list of fixtures
-/

namespace Conform

namespace DescriptorSpec

/-- Fields with repeated keys merged: the first position and the last specification of each. -/
def mergeFields (fields : List (String × DescriptorSpec)) : List (String × DescriptorSpec) :=
  fields.foldl (fun acc (f : String × DescriptorSpec) => insertField f.1 f.2 acc) []
where
  /-- Adds a field: in place if it is there. -/
  insertField (key : String) (spec : DescriptorSpec) :
      List (String × DescriptorSpec) → List (String × DescriptorSpec)
    | [] => [(key, spec)]
    | (k, s) :: rest => if k = key then (k, spec) :: rest else (k, s) :: insertField key spec rest

mutual

/-- The specification that a document gives: a name, or an object whose one member builds a
    combinator. -/
def ofJson? : Json → Option DescriptorSpec
  | .str name => some (named name)
  | .obj [(key, j)] =>
    if key = "array_of" then (ofJson? j).map arrayOf
    else
      match j with
      | .arr items =>
        if key = "union" then (ofItems? items).map union
        else if key = "intersection" then (ofItems? items).map intersection
        else none
      | .obj members =>
        if key = "shape" then (ofMembers? members).map fun fields => shape (mergeFields fields)
        else none
      | _ => none
  | _ => none

/-- The specifications that items give. -/
def ofItems? : List Json → Option (List DescriptorSpec)
  | [] => some []
  | j :: js => do return (← ofJson? j) :: (← ofItems? js)

/-- The specifications that members give. -/
def ofMembers? : List (String × Json) → Option (List (String × DescriptorSpec))
  | [] => some []
  | (k, j) :: ms => do return (k, ← ofJson? j) :: (← ofMembers? ms)

end

end DescriptorSpec

namespace Json

/-- What was set aside while the tag of a variant was looked for. -/
inductive Aside where
  /-- The items after the tag. -/
  | items (items : List Json)
  /-- The members other than the tag. -/
  | members (members : List (String × Json))

namespace Reader

/-- One of several words, as the tag of a variant. -/
def variant (known : List String) : Reader String := settle do
  let word ← text "variant identifier"
  if known.contains word then return word else failOpen (.unknownVariant word known)

/-- A list or an object with a tag, and what was set aside: the first item of a list, or the member
    of an object under the given key. -/
def tagged (levels : Nat) (key type : String) (known : List String) : Reader (String × Aside) :=
  record levels ("internally tagged enum " ++ type)
    (fun levels => do
      match ← item? 0 (variant known) with
      | none => failOpen (.missingField key)
      | some word =>
        let fuel ← remaining
        return (word, .items (← items (value levels) (fuel + 1) 1)))
    (fun levels => do
      let (word, members) ← fold (fun (state : Option String × List (String × Json)) name => do
        if name = key then return (some (← field key state.1 (variant known)), state.2)
        else return (state.1, (name, ← memberValue name (value levels)) :: state.2)) (none, [])
      return (← required key word, .members members.reverse))

end Reader

namespace Aside

variable {α σ : Type}

/-- A text. -/
def text : Json → Except Complaint String
  | .str s => .ok s
  | j => .error (.invalidType (.ofJson j) "a string")

/-- A text that may be `null`. -/
def optionalText : Json → Except Complaint (Option String)
  | .null => .ok none
  | j => (text j).map some

/-- A truth value. -/
def truth : Json → Except Complaint Bool
  | .bool b => .ok b
  | j => .error (.invalidType (.ofJson j) "a boolean")

/-- A field that must not be there twice. -/
def once (key : String) (sofar : Option α) (value : Except Complaint α) :
    Except Complaint (Option α) :=
  match sofar with
  | some _ => .error (.duplicateField key)
  | none => value.map some

/-- A field that must be there. -/
def required (key : String) : Option α → Except Complaint α
  | some a => .ok a
  | none => .error (.missingField key)

/-- Folds over members. -/
def fold (step : σ → String → Json → Except Complaint σ) (state : σ)
    (members : List (String × Json)) : Except Complaint σ :=
  members.foldlM (fun state (m : String × Json) => step state m.1 m.2) state

/-- A result that takes up the first `size` of some items; there must be no others. -/
def closing (items : List Json) (size : Nat) (result : Except Complaint α) :
    Except Complaint α := do
  let a ← result
  if items.length ≤ size then return a
  else
    .error (.invalidLength items.length
      (toString size ++ (if size = 1 then " element" else " elements") ++ " in sequence"))

end Aside

end Json

namespace Fixture

open Json (Aside Complaint)

/-- The specification that a document gives. -/
def specification (j : Json) : Except Complaint DescriptorSpec :=
  match DescriptorSpec.ofJson? j with
  | some spec => .ok spec
  | none => .error (.noVariant "DescriptorSpec")

/-- Whether to lay the document over the defaults, which is the rule. -/
def mergeDefaults : Aside → Except Complaint Bool
  | .items items =>
    Aside.closing items 1 (match items with
      | [] => .ok true
      | j :: _ => Aside.truth j)
  | .members members => do
    let merge ← Aside.fold (fun sofar key j =>
      if key = "merge_defaults" then Aside.once key sofar (Aside.truth j) else .ok sofar)
      none members
    return merge.getD true

/-- The specification of a target. -/
def targetSpecification : Aside → Except Complaint DescriptorSpec
  | .items items =>
    Aside.closing items 1 (match items with
      | [] => .error (.invalidLength 0 "struct variant Target::Descriptor with 1 element")
      | j :: _ => specification j)
  | .members members => do
    let spec ← Aside.fold (fun sofar key j =>
      if key = "descriptor" then Aside.once key sofar (specification j) else .ok sofar)
      none members
    Aside.required "descriptor" spec

/-- The target with a tag. -/
def Target.ofTag (tag : String) (aside : Aside) : Except Complaint Target :=
  if tag = "options" then (mergeDefaults aside).map .options
  else (targetSpecification aside).map .descriptor

/-- The path and the message of an expectation. -/
def placed (name : String) : Aside → Except Complaint (String × Option String)
  | .items items =>
    Aside.closing items 2 (match items with
      | [] =>
        .error (.invalidLength 0 ("struct variant Expect::" ++ name ++ " with 2 elements"))
      | [path] => do return (← Aside.text path, none)
      | path :: message :: _ => do return (← Aside.text path, ← Aside.optionalText message))
  | .members members => do
    let (path, message) ← Aside.fold
      (fun (state : Option String × Option (Option String)) key j =>
        if key = "path" then do return (← Aside.once key state.1 (Aside.text j), state.2)
        else if key = "message" then do
          return (state.1, ← Aside.once key state.2 (Aside.optionalText j))
        else .ok state) (none, none) members
    return (← Aside.required "path" path, message.join)

/-- The message of an expectation without a path. -/
def placeless : Aside → Except Complaint (Option String)
  | .items items =>
    Aside.closing items 1 (match items with
      | [] => .ok none
      | j :: _ => Aside.optionalText j)
  | .members members => do
    let message ← Aside.fold (fun sofar key j =>
      if key = "message" then Aside.once key sofar (Aside.optionalText j) else .ok sofar)
      none members
    return message.join

/-- The expectation with a tag. -/
def Expectation.ofTag (tag : String) (aside : Aside) : Except Complaint Expectation :=
  if tag = "ok" then
    match aside with
    | .items items => Aside.closing items 0 (.ok .ok)
    | .members _ => .ok .ok
  else if tag = "invalid" then
    (placed "Invalid" aside).map fun (path, message) => .invalid path message
  else if tag = "missing" then
    (placed "Missing" aside).map fun (path, message) => .missing path message
  else (placeless aside).map .fault

open Json.Reader

/-- Goes on with what was made of parts that were set aside. The place of a complaint about them is
    no longer known. -/
def settled {α : Type} : Except Complaint α → Json.Reader α
  | .ok a => pure a
  | .error complaint => failOpen complaint

/-- Reads a target. -/
def targetReader (levels : Nat) : Json.Reader Target := do
  let (tag, aside) ← tagged levels "kind" "Target" ["options", "descriptor"]
  settled (Target.ofTag tag aside)

/-- Reads an expectation. -/
def expectationReader (levels : Nat) : Json.Reader Expectation := do
  let (tag, aside) ← tagged levels "outcome" "Expect" ["ok", "invalid", "missing", "fault"]
  settled (Expectation.ofTag tag aside)

/-- Reads a name. -/
def nameReader : Json.Reader String := Json.Reader.text "a string"

/-- Reads a depth that may be `null`. -/
def depthReader : Json.Reader (Option Nat) :=
  Json.Reader.optional (Json.Reader.natural (Nat.pow 2 64) "usize")

/-- The members of a fixture, as far as they have been read. -/
structure Partial where
  name : Option String := none
  target : Option Target := none
  document : Option Json := none
  maxDepth : Option (Option Nat) := none
  expect : Option Expectation := none

/-- Reads one member of a fixture. Members without a meaning are skipped. -/
def memberReader (levels : Nat) (p : Partial) (key : String) : Json.Reader Partial := do
  if key = "name" then return { p with name := some (← field key p.name nameReader) }
  else if key = "target" then
    return { p with target := some (← field key p.target (targetReader levels)) }
  else if key = "document" then
    return { p with document := some (← field key p.document (value levels)) }
  else if key = "max_depth" then
    return { p with maxDepth := some (← field key p.maxDepth depthReader) }
  else if key = "expect" then
    return { p with expect := some (← field key p.expect (expectationReader levels)) }
  else
    memberValue key skipValue
    return p

/-- An item of a fixture that is written as a list. -/
def itemReader {α : Type} (i : Nat) (reader : Json.Reader α) : Json.Reader α := do
  match ← item? i reader with
  | some a => return a
  | none => failOpen (.invalidLength i "struct Fixture with 5 elements")

/-- Reads a fixture, written as an object or as the list of its fields. -/
def reader (levels : Nat) : Json.Reader Fixture :=
  record levels "struct Fixture"
    (fun levels => do
      let name ← itemReader 0 nameReader
      let target ← itemReader 1 (targetReader levels)
      let document ← itemReader 2 (value levels)
      let maxDepth ← item? 3 depthReader
      let expect ← itemReader 4 (expectationReader levels)
      return { name, target, document, maxDepth := maxDepth.join, expect })
    (fun levels => do
      let p ← fold (memberReader levels) {}
      let name ← required "name" p.name
      let target ← required "target" p.target
      let document ← required "document" p.document
      let expect ← required "expect" p.expect
      return { name, target, document, maxDepth := p.maxDepth.join, expect })

/-- Reads a list of fixtures. -/
def readAll (bytes : List UInt8) : Except Json.PathError (List Fixture) :=
  (Json.Reader.list Json.nestingLimit reader).run bytes

end Fixture

end Conform
