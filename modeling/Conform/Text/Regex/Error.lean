import Conform.Text.Separated

/-!
# Errors in regular expressions

Why a text is no regular expression, and the message about it, which shows the text with the wrong
places marked below it. A text of several lines is shown with its lines numbered.

## Main definitions

- `Regex.ReadFault` — what is wrong
- `Regex.Span` — a stretch of the text
- `Regex.ReadError` — a fault with its place
- `Regex.ReadError.message` — the message
-/

namespace Conform.Regex

/-- What is wrong with a text that is no regular expression. -/
inductive ReadFault where
  | backreference
  | badClassEscape
  | badClassRange
  | badRangeBound
  | unclosedClass
  | unreadableCount
  | emptyHex
  | noScalarValue
  | badHexDigit
  | unfinishedEscape
  | unknownEscape
  | danglingNegation
  | repeatedFlag
  | repeatedNegation
  | unfinishedFlags
  | unknownFlag
  | repeatedName
  | emptyName
  | badName
  | unfinishedName
  | unclosedGroup
  | unopenedGroup
  | badCountRange
  | noCount
  | unclosedCount
  | nothingToRepeat
  | unclosedWordMark
  | unknownWordMark
  | unfinishedWordMark
  | badProperty
  | unknownProperty
  | unknownPropertyValue
  | lookAround
  | nestedTooDeep
  | beyondAscii
  | brokenText
deriving DecidableEq, Repr

/-- What is wrong, as text. -/
def ReadFault.text : ReadFault → String
  | backreference => "backreferences are not supported"
  | badClassEscape => "invalid escape sequence found in character class"
  | badClassRange => "invalid character class range, the start must be <= the end"
  | badRangeBound => "invalid range boundary, must be a literal"
  | unclosedClass => "unclosed character class"
  | unreadableCount => "decimal literal invalid"
  | emptyHex => "hexadecimal literal empty"
  | noScalarValue => "hexadecimal literal is not a Unicode scalar value"
  | badHexDigit => "invalid hexadecimal digit"
  | unfinishedEscape => "incomplete escape sequence, reached end of pattern prematurely"
  | unknownEscape => "unrecognized escape sequence"
  | danglingNegation => "dangling flag negation operator"
  | repeatedFlag => "duplicate flag"
  | repeatedNegation => "flag negation operator repeated"
  | unfinishedFlags => "expected flag but got end of regex"
  | unknownFlag => "unrecognized flag"
  | repeatedName => "duplicate capture group name"
  | emptyName => "empty capture group name"
  | badName => "invalid capture group character"
  | unfinishedName => "unclosed capture group name"
  | unclosedGroup => "unclosed group"
  | unopenedGroup => "unopened group"
  | badCountRange => "invalid repetition count range, the start must be <= the end"
  | noCount => "repetition quantifier expects a valid decimal"
  | unclosedCount => "unclosed counted repetition"
  | nothingToRepeat => "repetition operator missing expression"
  | unclosedWordMark =>
    "special word boundary assertion is either unclosed or contains an invalid character"
  | unknownWordMark =>
    "unrecognized special word boundary assertion, valid choices are: start, end, start-half " ++
      "or end-half"
  | unfinishedWordMark =>
    "found either the beginning of a special word boundary or a bounded repetition on a \\b " ++
      "with an opening brace, but no closing brace"
  | badProperty => "invalid Unicode character class"
  | unknownProperty => "Unicode property not found"
  | unknownPropertyValue => "Unicode property value not found"
  | lookAround => "look-around, including look-ahead and look-behind, is not supported"
  | nestedTooDeep => "exceed the maximum number of nested parentheses/brackets (250)"
  | beyondAscii => "Unicode not allowed here"
  | brokenText => "pattern can match invalid UTF-8"

/-- A stretch of a text, from one character up to another. -/
structure Span where
  /-- The first character. -/
  start : Nat
  /-- The character after the last. -/
  stop : Nat
deriving DecidableEq, Repr

/-- Why and where a text is no regular expression. -/
structure ReadError where
  /-- What is wrong. -/
  fault : ReadFault
  /-- Where it is wrong. -/
  span : Span
  /-- An earlier stretch that the fault refers to. -/
  earlier : Option Span := none
deriving DecidableEq, Repr

/-- A place in a text of several lines. -/
structure LinePlace where
  /-- The line, counted from zero. -/
  line : Nat
  /-- The characters of the line before the place. -/
  column : Nat
deriving DecidableEq, Repr

/-- The place that some characters end at. -/
def LinePlace.after (cs : List Char) : LinePlace :=
  cs.foldl (fun p c => if c = '\n' then ⟨p.line + 1, 0⟩ else ⟨p.line, p.column + 1⟩) ⟨0, 0⟩

/-- The lines of a text. A line end at the end of the text starts no line, and a carriage return
    before a line end belongs to it. -/
def linesOf (source : List Char) : List String :=
  let pieces := Separated.split '\n' source
  let ended := pieces.dropLast.map fun cs => if cs.getLast? = some '\r' then cs.dropLast else cs
  let last := pieces.getLast?.getD []
  (ended ++ if last = [] then [] else [last]).map String.ofList

/-- A number of blanks. -/
def spaces (n : Nat) : String := String.ofList (List.replicate n ' ')

/-- Marks below the columns of some stretches of a line, which come in order. -/
def underline : Nat → List (Nat × Nat) → String
  | _, [] => ""
  | column, (start, stop) :: more =>
    let size := max 1 (stop - start)
    spaces (start - column) ++ String.ofList (List.replicate size '^') ++
      underline (max column start + size) more

namespace ReadError

/-- The stretches that an error is about, in order. -/
def spans (e : ReadError) : List Span :=
  match e.earlier with
  | none => [e.span]
  | some s => if s.start ≤ e.span.start then [s, e.span] else [e.span, s]

/-- The message about a text that is no regular expression: the text with the wrong places marked
    below it, and what is wrong. -/
def message (source : String) (e : ReadError) : String :=
  let cs := source.toList
  let places := e.spans.map fun s =>
    (LinePlace.after (cs.take s.start), LinePlace.after (cs.take s.stop))
  let lines := linesOf cs
  let isLong := cs.contains '\n'
  let count := lines.length + if cs.getLast? = some '\n' then 1 else 0
  let width := (toString count).length
  let notated := lines.zipIdx.map fun (line, i) =>
    let number := toString (i + 1)
    let label := if count ≤ 1 then spaces 4 else spaces (width - number.length) ++ number ++ ": "
    let marked := (places.filter fun (a, b) => a.line = i ∧ b.line = i).map fun (a, b) =>
      (a.column, b.column)
    let marks :=
      if marked.isEmpty then "" else spaces label.length ++ underline 0 marked ++ "\n"
    label ++ line ++ "\n" ++ marks
  let across := (places.filter fun (a, b) => a.line ≠ b.line).map fun (a, b) =>
    "on line " ++ toString (a.line + 1) ++ " (column " ++ toString (a.column + 1) ++
      ") through line " ++ toString (b.line + 1) ++ " (column " ++ toString b.column ++ ")"
  let rule := String.ofList (List.replicate 79 '~') ++ "\n"
  let body :=
    if isLong then
      rule ++ String.join notated ++ rule ++
        if across.isEmpty then "" else "\n".intercalate across ++ "\n"
    else String.join notated
  "regex parse error:\n" ++ body ++ "error: " ++ e.fault.text

end ReadError

end Conform.Regex
