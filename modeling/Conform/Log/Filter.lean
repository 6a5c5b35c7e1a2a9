import Conform.Log.Basic
import Conform.Number.Parse
import Conform.Text.Count
import Conform.Text.Regex.Reading

/-!
# Log filters

A filter is a list of directives between commas. A directive names the least important level that
is shown, a target, or both with an equals sign between them; brackets restrict it to remarks with
certain fields, or to remarks made inside a named span of the run. The most specific directive that
applies to a remark decides.

## Main definitions

- `Log.Directive` — one rule
- `Log.Directive.read` — reads a directive
- `Log.Filter.read` — reads a filter and lists what it ignores
- `Log.Filter.shows` — whether a remark is shown
-/

namespace Conform.Log

/-- One rule of a filter. -/
structure Directive where
  /-- What the target has to start with. -/
  target : Option String
  /-- Fields that the remark must have. -/
  fields : List String
  /-- Whether the rule is about a span of the run, or about what a field holds. No remark is made
      inside a span, so such a rule shows none. -/
  isScoped : Bool
  /-- The verbosity up to which remarks are shown; zero shows none. -/
  verbosity : Nat
deriving DecidableEq, Repr

/-- Why a directive is ignored. -/
inductive DirectiveError where
  | malformed
  | badLevel
  /-- What a field is compared to is no pattern. -/
  | badPattern
  /-- What a field is compared to asks about words, which no pattern for fields may. -/
  | patternAboutWords
deriving DecidableEq, Repr

/-- The message of an error. -/
def DirectiveError.message : DirectiveError → String
  | malformed => "invalid filter directive"
  | badLevel =>
    "error parsing level filter: expected one of \"off\", \"error\", \"warn\", \"info\", " ++
      "\"debug\", \"trace\", or a number 0-5"
  | badPattern => "invalid field filter: error building NFA"
  | patternAboutWords =>
    "invalid field filter: unsupported regex feature for DFAs: cannot build DFAs for regexes " ++
      "with Unicode word boundaries; switch to ASCII word boundaries, or heuristically enable " ++
      "Unicode word boundaries or use a different regex engine"

/-- The verbosity that a text names: by its number, by a level in letters of either case, or `off`
    for none. Nothing names that of errors. -/
def verbosity? (s : String) : Option Nat :=
  match (Count.ofText? s).filter (· ≤ 5) with
  | some n => some n
  | none =>
    if s = "" then some Level.error.verbosity
    else
      let name := s.map Char.toUpper
      if name = "OFF" then some 0
      else (Level.all.find? fun level => level.name == name).map Level.verbosity

/-- Whether a character may start a directive. -/
def startsDirective (c : Char) : Bool :=
  c == '-' || c == ':' || c == '_' || CharacterClass.isAlphanumeric c

/-- The bytes that some characters take up. -/
def byteSize (cs : List Char) : Nat := cs.foldl (fun n c => n + c.utf8Size) 0

/-- The characters after so many bytes. -/
def dropBytes : Nat → List Char → List Char
  | 0, cs => cs
  | _ + 1, [] => []
  | n + 1, c :: cs => dropBytes (n + 1 - c.utf8Size) cs

/-- The characters in so many bytes. -/
def takeBytes : Nat → List Char → List Char
  | 0, _ => []
  | _ + 1, [] => []
  | n + 1, c :: cs => c :: takeBytes (n + 1 - c.utf8Size) cs

namespace Directive

/-- Whether a field may be compared to a text: to a truth value, to a number, or to anything that
    matches the text as a regular expression. -/
def comparison (s : String) : Except DirectiveError Unit :=
  if (Number.ofText? s).isSome then .ok ()
  else
    match Regex.read s with
    | .error _ => .error .badPattern
    | .ok r => if r.asksAboutWords then .error .patternAboutWords else .ok ()

/-- Reads a field between braces, and what it is compared to after an equals sign: the name, and
    whether there is a comparison. -/
def readField (cs : List Char) : Except DirectiveError (String × Bool) :=
  match Separated.split '=' cs with
  | [] => .error .malformed
  | [name] => if name.isEmpty then .error .malformed else .ok (String.ofList name, false)
  | name :: value :: _ => do
    comparison (String.ofList value)
    return (String.ofList name, true)

/-- The verbosity after an equals sign; all of it if nothing follows. -/
def readVerbosity (cs : List Char) : Except DirectiveError Nat :=
  if cs.isEmpty then .ok Level.trace.verbosity
  else
    match verbosity? (String.ofList cs) with
    | some n => .ok n
    | none => .error .badLevel

/-- Reads what follows the closing bracket. -/
def readAfterBracket (source : List Char) (target : Option String) (fields : List String)
    (isScoped : Bool) (place : Nat) : List Char → Except DirectiveError Directive
  | [] => .ok ⟨target, fields, isScoped, Level.trace.verbosity⟩
  | c :: _ =>
    if c = '=' then
      (Directive.mk target fields isScoped ·) <$> readVerbosity (dropBytes (place + 1) source)
    else .error .malformed

/-- Reads what is inside brackets and what follows: the name of a span, and a field between braces
    that may be compared to something. -/
def readBracket (source : List Char) (target : Option String) (place : Nat) (cs : List Char) :
    Except DirectiveError Directive :=
  let name := cs.takeWhile fun c => c ≠ ']' ∧ c ≠ '\x7b'
  let afterName := place + byteSize name
  match cs.drop name.length with
  | [] => .error .malformed
  | c :: rest =>
    if c = ']' then readAfterBracket source target [] true (afterName + 1) rest
    else
      let field := rest.takeWhile (· ≠ '\x7d')
      let afterField := afterName + 1 + byteSize field
      match rest.drop field.length with
      | [] => .error .malformed
      | _ :: after => do
        let (fieldName, isCompared) ←
          readField (takeBytes (byteSize field) (dropBytes (afterName + 1) source))
        match after with
        | ']' :: after =>
          readAfterBracket source target [fieldName] (!name.isEmpty || isCompared)
            (afterField + 2) after
        | _ => .error .malformed

/-- Reads a directive. Blanks around it do not count when its marks are looked for, but its parts
    are cut from the directive as it is written: by the places, counted in bytes, that the marks
    have without those blanks. -/
def read (s : String) : Except DirectiveError Directive :=
  let source := s.toList
  let dropBlanks := List.dropWhile CharacterClass.isBlank
  let trimmed := (dropBlanks (dropBlanks source).reverse).reverse
  match trimmed with
  | [] => .error .malformed
  | first :: rest =>
    if first = '[' then readBracket source none 1 rest
    else if !startsDirective first then .error .malformed
    else
      let size := byteSize (trimmed.takeWhile fun c => c ≠ '=' ∧ c ≠ '[')
      let target := some (String.ofList (takeBytes size source))
      match dropBytes size trimmed with
      | [] =>
        match verbosity? s with
        | some n => .ok ⟨none, [], false, n⟩
        | none => .ok ⟨some s, [], false, Level.trace.verbosity⟩
      | mark :: rest =>
        if mark = '=' then
          (Directive.mk target [] false ·) <$> readVerbosity (dropBytes (size + 1) source)
        else readBracket source target (size + 1) rest

/-- Whether a directive has a say about a remark. -/
def applies (r : Record) (d : Directive) : Bool :=
  !d.isScoped && (d.target.getD "").isPrefixOf r.target &&
    d.fields.all fun name => name == "message" || r.fields.any fun f => f.1 == name

/-- The length of the target of a directive, where any target is longer than none. -/
def targetRank (d : Directive) : Nat :=
  match d.target with
  | some t => t.utf8ByteSize + 1
  | none => 0

/-- Whether a directive is no less specific than another: by the length of its target, then by the
    number of its fields, and then by their names, of which the later ones in the alphabet go
    first. -/
def overrides (d e : Directive) : Bool :=
  if d.targetRank = e.targetRank then
    if d.fields.length = e.fields.length then !decide (d.fields < e.fields)
    else decide (e.fields.length < d.fields.length)
  else decide (e.targetRank < d.targetRank)

end Directive

/-- The directives of a filter, in order. -/
structure Filter where
  /-- The directives. -/
  directives : List Directive
deriving DecidableEq, Repr

namespace Filter

/-- Reads a filter, and answers also with one line about each directive that is ignored. A filter
    without directives shows errors. -/
def read (s : String) : Filter × List String :=
  let readings := ((Separated.splitText ',' s).filter (· ≠ "")).map fun part =>
    (part, Directive.read part)
  let directives := readings.filterMap fun (_, reading) => reading.toOption
  let ignored := readings.filterMap fun (part, reading) =>
    match reading with
    | .ok _ => none
    | .error e => some ("ignoring `" ++ part ++ "`: " ++ e.message)
  (⟨if directives.isEmpty then [⟨none, [], false, Level.error.verbosity⟩] else directives⟩, ignored)

/-- The directive that decides about a remark: the most specific that applies, and of several such
    the last. -/
def decisive? (f : Filter) (r : Record) : Option Directive :=
  (f.directives.filter (Directive.applies r)).foldl (fun best d =>
    match best with
    | none => some d
    | some e => some (if d.overrides e then d else e)) none

/-- Whether a remark is shown. -/
def shows (f : Filter) (r : Record) : Bool :=
  match f.decisive? r with
  | some d => r.level.verbosity ≤ d.verbosity
  | none => false

end Filter

end Conform.Log
