import Conform.Json.Document
import Conform.Text.Utf8
import Conform.Proofs.Json.Laws

/-!
# The grammar of documents

Which texts are documents and what each of them says, without reference to a reader. A text is a
list of bytes. Blanks stand around the parts of lists and objects; no blank belongs to a document at
its ends. The limits are those of the reader: how deep lists and objects nest, and which numbers are
in range.

## Main definitions

- `Json.StringText` — the texts of strings
- `Json.NumberText` — the texts of numbers, with `NumberText.value?` the number of each
- `Json.Row` — texts of parts with commas between them
- `Json.Spells` — the texts of documents
- `Json.Stops` — where the text of a number ends
- `Json.StartsWith`, `Json.IsDocument` — texts that start with a document and those that are one
-/

namespace Conform.Json

open Reader (hexValue? isLeadingSurrogate isTrailingSurrogate letterEscape?)

-- ════════════════════════════════════════════════════════════════════════
-- Strings
-- ════════════════════════════════════════════════════════════════════════

/-- Four hexadecimal digits and the code unit that they make. -/
def HexUnit (digits : List UInt8) (unit : Nat) : Prop :=
  ∃ w x y z, digits.map hexValue? = [some w, some x, some y, some z] ∧
    unit = ((w * 16 + x) * 16 + y) * 16 + z

/-- The texts of escapes after their backslash, and the characters they stand for. -/
inductive EscapeText : List UInt8 → Char → Prop where
  /-- A letter of its own. -/
  | letter {b : UInt8} {c : Char} (letter : letterEscape? b = some c) : EscapeText [b] c
  /-- A code unit that is a code point. -/
  | unit {digits : List UInt8} {unit : Nat} (digits_unit : HexUnit digits unit)
      (not_leading : isLeadingSurrogate unit = false)
      (not_trailing : isTrailingSurrogate unit = false) :
      EscapeText (117 :: digits) (Char.ofNat unit)
  /-- Both halves of a pair of code units. -/
  | pair {digits digits' : List UInt8} {lead trail : Nat} (digits_lead : HexUnit digits lead)
      (leading : isLeadingSurrogate lead = true) (digits_trail : HexUnit digits' trail)
      (trailing : isTrailingSurrogate trail = true) :
      EscapeText (117 :: (digits ++ 92 :: 117 :: digits'))
        (Char.ofNat ((lead - 0xD800) * 0x400 + (trail - 0xDC00) + 0x10000))

/-- Texts between quotes, and the bytes they stand for. -/
inductive Contents : List UInt8 → List UInt8 → Prop where
  | nil : Contents [] []
  /-- A byte that stands for itself. -/
  | plain {b : UInt8} {text bytes : List UInt8} (printable : 32 ≤ b.toNat) (quote : b ≠ 34)
      (backslash : b ≠ 92) (more : Contents text bytes) : Contents (b :: text) (b :: bytes)
  | escape {escaped text bytes : List UInt8} {c : Char} (escape : EscapeText escaped c)
      (more : Contents text bytes) :
      Contents (92 :: (escaped ++ text)) (String.utf8EncodeChar c ++ bytes)

/-- The texts of strings. The bytes that they stand for are UTF-8. -/
def StringText (text : List UInt8) (s : String) : Prop :=
  ∃ contents, text = 34 :: (contents ++ [34]) ∧ Contents contents (Utf8.encode s)

-- ════════════════════════════════════════════════════════════════════════
-- Numbers
-- ════════════════════════════════════════════════════════════════════════

abbrev Digits : Type := List (Fin 10)

def digitByte (d : Fin 10) : UInt8 := UInt8.ofNat (48 + d)

/-- The number that digits make of the number in front of them. -/
def extend (n : Nat) (ds : Digits) : Nat := ds.foldl (fun n (d : Fin 10) => n * 10 + d.val) n

def Digits.text (ds : Digits) : List UInt8 := ds.map digitByte

structure Exponent where
  /-- The letter in front, either `e` or `E`. -/
  letter : UInt8
  /-- Whether it counts down, if it has a sign. -/
  sign : Option Bool
  /-- The digits. -/
  digits : Digits
  letter_eq : letter = 101 ∨ letter = 69
  digits_ne : digits ≠ []

namespace Exponent

def signText : Option Bool → List UInt8
  | none => []
  | some false => [43]
  | some true => [45]

def text (e : Exponent) : List UInt8 := e.letter :: (signText e.sign ++ e.digits.text)

/-- The exponent without its sign, unless it is too large to be counted. -/
def count? (e : Exponent) : Option Nat :=
  if extend 0 e.digits ≤ largestExponent then some (extend 0 e.digits) else none

end Exponent

/-- The parts of a number as it is written. -/
structure NumberText where
  /-- Whether there is a minus in front. -/
  negative : Bool
  /-- The digits in front of the point. -/
  whole : Digits
  /-- The digits after the point; without any there is no point. -/
  places : Digits
  /-- The exponent. -/
  exponent : Option Exponent
  whole_ne : whole ≠ []
  /-- A zero in front stands alone. -/
  whole_zero : whole.head? = some 0 → whole = [0]

/-- The text of places, with the point in front. -/
def placesText : Digits → List UInt8
  | [] => []
  | d :: ds => 46 :: Digits.text (d :: ds)

def exponentText : Option Exponent → List UInt8
  | none => []
  | some e => e.text

/-- What becomes of digits that extend a number of one word. -/
structure Gathered where
  /-- The number they make, as far as it is one word. -/
  significand : Nat
  /-- The digits of it. -/
  taken : Digits
  /-- The digits that did not fit. -/
  dropped : Digits

/-- Digits are taken as long as the number they make is one word. -/
def gather (n : Nat) : Digits → Gathered
  | [] => ⟨n, [], []⟩
  | d :: ds =>
    if n * 10 + d > largestWord then ⟨n, [], d :: ds⟩
    else
      let rest := gather (n * 10 + d) ds
      ⟨rest.significand, d :: rest.taken, rest.dropped⟩

/-- The number of a significand and a power of ten, if it is in range. -/
def scaled? (negative : Bool) (significand : Nat) (e : Int) : Option Num :=
  (scale? ((Magnitude.ofNat? significand).getD .greatest) e).map fun m => .real (.finite negative m)

/-- The number of a significand, the power of ten counted in its digits and an exponent, if it is in
    range. An exponent too large to be counted makes zero or leaves the range. -/
def scaledBy? (negative : Bool) (significand : Nat) (counted : Int) : Option Exponent → Option Num
  | none => scaled? negative significand counted
  | some e =>
    match e.count? with
    | some n =>
      scaled? negative significand (if e.sign = some true then counted - n else counted + n)
    | none =>
      if significand ≠ 0 ∧ e.sign ≠ some true then none else some (.real (.finite negative .zero))

/-- The number that the parts of a text make, if it is in range. An integer that fits a word is kept
    as it is. Of any other number the digits that do not fit a word are dropped; those in front of
    the point still count. -/
def numberOf? (negative : Bool) (whole places : Digits) (exponent : Option Exponent) : Option Num :=
  let front := gather 0 whole
  if front.dropped = [] ∧ places = [] ∧ exponent = none then
    some (Reader.integer negative front.significand)
  else
    let all := gather front.significand places
    scaledBy? negative all.significand (front.dropped.length - all.taken.length) exponent

namespace NumberText

def unsigned (t : NumberText) : List UInt8 :=
  t.whole.text ++ (placesText t.places ++ exponentText t.exponent)

def text (t : NumberText) : List UInt8 := if t.negative then 45 :: t.unsigned else t.unsigned

def value? (t : NumberText) : Option Num := numberOf? t.negative t.whole t.places t.exponent

end NumberText

/-- A number with these places and this exponent does not go on: no digit follows, nor what would
    add an exponent or places to a number that has none. -/
def EndsNumber (places : Digits) (exponent : Option Exponent) (rest : List UInt8) : Prop :=
  (∀ d, rest.head? ≠ some (digitByte d)) ∧
    (exponent = none → rest.head? ≠ some 101 ∧ rest.head? ≠ some 69 ∧
      (places = [] → rest.head? ≠ some 46))

/-- If the text is a number, it does not go on. -/
def Stops (text rest : List UInt8) : Prop :=
  ∀ t : NumberText, t.text = text → EndsNumber t.places t.exponent rest

-- ════════════════════════════════════════════════════════════════════════
-- Documents
-- ════════════════════════════════════════════════════════════════════════

section

variable {α : Type} (Part : List UInt8 → α → Prop)

/-- Texts of further parts, each after a comma. -/
inductive Tail : List UInt8 → List α → Prop where
  | done {ws : List UInt8} (blanks : IsBlanks ws) : Tail ws []
  | more {before after part text : List UInt8} {a : α} {as : List α} (blanks : IsBlanks before)
      (blanks' : IsBlanks after) (first : Part part a) (tail : Tail text as) :
      Tail (before ++ 44 :: (after ++ (part ++ text))) (a :: as)

/-- Texts of parts with commas between them. -/
inductive Row : List UInt8 → List α → Prop where
  | none {ws : List UInt8} (blanks : IsBlanks ws) : Row ws []
  | some {ws part text : List UInt8} {a : α} {as : List α} (blanks : IsBlanks ws)
      (first : Part part a) (tail : Tail Part text as) : Row (ws ++ (part ++ text)) (a :: as)

end

/-- Texts of members: a key, a colon and an item. -/
inductive MemberText (Item : List UInt8 → Json → Prop) : List UInt8 → String × Json → Prop where
  | mk {key before after text : List UInt8} {name : String} {item : Json}
      (key_name : StringText key name) (blanks : IsBlanks before) (blanks' : IsBlanks after)
      (text_item : Item text item) :
      MemberText Item (key ++ (before ++ 58 :: (after ++ text))) (name, item)

/-- Texts of documents that are no list and no object. -/
inductive ScalarText : List UInt8 → Json → Prop where
  | null : ScalarText [110, 117, 108, 108] .null
  | true : ScalarText [116, 114, 117, 101] (.bool true)
  | false : ScalarText [102, 97, 108, 115, 101] (.bool false)
  | num {t : NumberText} {n : Num} (value : t.value? = some n) : ScalarText t.text (.num n)
  | str {text : List UInt8} {s : String} (string : StringText text s) : ScalarText text (.str s)

/-- Texts of lists and objects, given those of what is inside. -/
inductive CompoundText (Item : List UInt8 → Json → Prop) : List UInt8 → Json → Prop where
  | list {row : List UInt8} {items : List Json} (row_items : Row Item row items) :
      CompoundText Item (91 :: (row ++ [93])) (.arr items)
  | object {row : List UInt8} {members : List (String × Json)}
      (row_members : Row (MemberText Item) row members) :
      CompoundText Item (123 :: (row ++ [125])) (.obj members)

/-- Texts of documents in which at most so many lists and objects stand inside each other. -/
def Spells : Nat → List UInt8 → Json → Prop
  | 0, text, document => ScalarText text document
  | levels + 1, text, document =>
    ScalarText text document ∨ CompoundText (Spells levels) text document

/-- The text starts with a document, after any blanks, and goes on with the rest. -/
def StartsWith (bytes : List UInt8) (document : Json) (rest : List UInt8) : Prop :=
  ∃ ws text, IsBlanks ws ∧ Spells (nestingLimit - 1) text document ∧ Stops text rest ∧
    bytes = ws ++ (text ++ rest)

/-- The whole text is a document, up to blanks before and after it. -/
def IsDocument (bytes : List UInt8) (document : Json) : Prop :=
  ∃ ws text ws', IsBlanks ws ∧ IsBlanks ws' ∧ Spells (nestingLimit - 1) text document ∧
    bytes = ws ++ (text ++ ws')

end Conform.Json
