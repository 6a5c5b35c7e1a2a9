import Conform.Text.Regex.Term

/-!
# The meaning of written regular expressions

What the parts of a written regular expression match under the flags that hold for them. Where
characters of all scripts are meant, case and classes are those of one edition of the character
set. Where only ASCII characters are meant, a part may not match what is no whole character.

## Main definitions

- `Regex.Flags` — the flags that hold for a part
- `Regex.SetTerm.characters` — the characters that a set stands for
- `Regex.Term.meaning` — the regular expression that a part stands for
-/

namespace Conform.Regex

/-- The flags that hold for a part. -/
structure Flags where
  /-- Letters stand for both cases. -/
  isCaseless : Bool := false
  /-- The marks for start and end are about lines. -/
  isByLine : Bool := false
  /-- A dot stands for line ends too. -/
  isDotAll : Bool := false
  /-- Characters of all scripts are meant, not of ASCII alone. -/
  isWide : Bool := true
  /-- Lines may end in two characters. -/
  isPaired : Bool := false
deriving DecidableEq, Repr

namespace Flags

/-- The flags after one is set or taken away. -/
def change (f : Flags) (flag : Flag) (value : Bool) : Flags :=
  match flag with
  | .caseless => { f with isCaseless := value }
  | .byLine => { f with isByLine := value }
  | .dotAll => { f with isDotAll := value }
  | .wide => { f with isWide := value }
  | .pairedEnds => { f with isPaired := value }
  | .reluctant | .spaced => f

/-- The flags after some changes. -/
def apply (f : Flags) (changes : FlagChanges) : Flags :=
  changes.foldl (fun f (flag, value) => f.change flag value) f

end Flags

/-- A set of ASCII characters with their counterparts in the other case. -/
def closeAscii (s : CharSet) : CharSet :=
  let pairs := (List.range 26).map fun i => (0x41 + i, 0x61 + i)
  let met := pairs.filter fun (upper, lower) => s.containsPoint upper || s.containsPoint lower
  s.union (.ofPoints (met.flatMap fun (upper, lower) => [upper, lower]))

/-- A set with the counterparts of its characters in the other case, if case does not matter. -/
def Flags.close (f : Flags) (s : CharSet) : CharSet :=
  if !f.isCaseless then s
  else if f.isWide then Unicode.Casing.close edition s
  else closeAscii s

/-- A set or its complement, for a part at a stretch. The complement of a set of ASCII characters
    among bytes would have parts of characters in it. -/
def Flags.complementIf (f : Flags) (span : Span) (isNegated : Bool) (s : CharSet) :
    Except ReadError CharSet :=
  if !isNegated then .ok s
  else if f.isWide then .ok s.complement
  else .error ⟨.brokenText, span, none⟩

/-- The decimal digits of every script. -/
def decimalDigits : CharSet := Unicode.Category.set edition "Nd"

/-- What is wrong with a question about a property. -/
def ReadFault.ofProperty : Unicode.PropertyFault → ReadFault
  | .unknownProperty => unknownProperty
  | .unknownValue => unknownPropertyValue

/-- The characters of a class or of its complement. Case matters to the classes for digits, blanks
    and words even where it does not elsewhere. -/
def NamedClass.characters (f : Flags) (span : Span) (isNegated : Bool) :
    NamedClass → Except ReadError CharSet
  | digits =>
    f.complementIf span isNegated (if f.isWide then decimalDigits else .range 0x30 0x39)
  | blanks =>
    let ascii : CharSet := .ofAscending [(9, 0xD), (0x20, 0x20)]
    f.complementIf span isNegated (if f.isWide then Unicode.whiteSpace else ascii)
  | wordParts =>
    f.complementIf span isNegated (if f.isWide then Regex.wordParts else asciiWordParts)
  | ascii s => f.complementIf span isNegated (f.close s)
  | property query =>
    if f.isWide then
      match query.set edition with
      | .ok s => f.complementIf span isNegated (f.close s)
      | .error fault => .error ⟨.ofProperty fault, span, none⟩
    else .error ⟨.beyondAscii, span, none⟩

/-- Complains about a literal that gives a byte which is no character. -/
def Literal.checkByte (f : Flags) (l : Literal) : Except ReadError Unit :=
  if !f.isWide && l.isByte && 0x80 ≤ l.char.toNat then .error ⟨.brokenText, l.span, none⟩
  else .ok ()

/-- The code point of a literal in a set. -/
def Literal.point (f : Flags) (l : Literal) : Except ReadError Nat := do
  l.checkByte f
  if !f.isWide && 0x80 ≤ l.char.toNat then .error ⟨.beyondAscii, l.span, none⟩
  else return l.char.toNat

/-- What an operation makes of two sets. -/
def SetOperation.apply : SetOperation → CharSet → CharSet → CharSet
  | intersection, a, b => a.common b
  | subtraction, a, b => a.without b
  | symmetricDifference, a, b => a.difference b

mutual

/-- The characters that a set stands for. -/
def SetTerm.characters (f : Flags) (t : SetTerm) : Except ReadError CharSet :=
  match t with
  | .nothing _ => .ok .empty
  | .char l => do
    let n ← l.point f
    return .range n n
  | .range low high => do
    let n ← low.point f
    let m ← high.point f
    return .range n m
  | .named span isNegated c => c.characters f span isNegated
  | .bracketed span isNegated inside => do
    let s ← inside.characters f
    f.complementIf span isNegated (f.close s)
  | .union _ items => SetTerm.charactersOf f .empty items
  | .operation _ op a b => do
    let s ← a.characters f
    let t ← b.characters f
    return op.apply (f.close s) (f.close t)

/-- The characters of some sets and of one that is known. -/
def SetTerm.charactersOf (f : Flags) (known : CharSet) :
    List SetTerm → Except ReadError CharSet
  | [] => .ok known
  | t :: ts =>
    match t.characters f with
    | .ok s => SetTerm.charactersOf f (known.union s) ts
    | .error e => .error e

end

/-- The mark that a written mark stands for. -/
def MarkTerm.meaning (f : Flags) : MarkTerm → Mark
  | start => if f.isByLine then .lineStart f.isPaired else .start
  | finish => if f.isByLine then .lineEnd f.isPaired else .finish
  | textStart => .start
  | textEnd => .finish
  | word m => .word (!f.isWide) m

/-- The characters that a literal stands for. -/
def Literal.characters (f : Flags) (l : Literal) : Except ReadError CharSet := do
  l.checkByte f
  return f.close (.single l.char)

/-- The characters that a dot stands for. -/
def dotCharacters (f : Flags) (span : Span) : Except ReadError CharSet :=
  if !f.isWide then .error ⟨.brokenText, span, none⟩
  else if f.isDotAll then .ok .all
  else if f.isPaired then .ok ((CharSet.single '\n').union (.single '\r')).complement
  else .ok (CharSet.single '\n').complement

mutual

/-- The regular expression that a part stands for, and the flags that hold after it. -/
def Term.meaning (f : Flags) (t : Term) : Except ReadError (Regex × Flags) :=
  match t with
  | .nothing _ => .ok (.empty, f)
  | .changes _ given => .ok (.empty, f.apply given)
  | .char l => do return (.oneOf (← l.characters f), f)
  | .dot span => do return (.oneOf (← dotCharacters f span), f)
  | .mark _ m => .ok (.mark (m.meaning f), f)
  | .oneOf s => do return (.oneOf (← s.characters f), f)
  | .repeated _ least most inner => do
    let (r, g) ← inner.meaning f
    return (.repeated least most r, g)
  | .group _ isNoted given inner => do
    let (r, _) ← inner.meaning (f.apply given)
    return (if isNoted then .noted r else r, f)
  | .choice _ items => do
    let (rs, g) ← Term.meaningOf f [] items
    return (.choice rs, g)
  | .sequence _ items => do
    let (rs, g) ← Term.meaningOf f [] items
    return (.sequence rs, g)

/-- The regular expressions that some parts stand for, after others, which are given last first. -/
def Term.meaningOf (f : Flags) (done : List Regex) :
    List Term → Except ReadError (List Regex × Flags)
  | [] => .ok (done.reverse, f)
  | t :: ts =>
    match t.meaning f with
    | .ok (r, g) => Term.meaningOf g (r :: done) ts
    | .error e => .error e

end

end Conform.Regex
