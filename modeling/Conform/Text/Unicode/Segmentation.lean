import Conform.Text.Unicode.Derived
import Conform.Text.Unicode.Script

/-!
# Places where text may be divided

Classes of characters by which a text is divided into what a reader takes for one character, into
words and into sentences. A class is known by its abbreviation. Characters in no class may be
divided everywhere.

## Main definitions

- `Unicode.Segmentation.grapheme?` — the classes for what a reader takes for one character
- `Unicode.Segmentation.word?` — the classes for words
- `Unicode.Segmentation.sentence?` — the classes for sentences
-/

namespace Conform.Unicode.Segmentation

/-- What goes with the character before it. -/
def extend (e : Edition) : CharSet := (graphemeExtend e).union Listed.emojiModifier

/-- Controls that may be in the middle of a character or a word. -/
def joiners : CharSet := .range 0x200C 0x200D

/-- Controls and what is not shown. -/
def control (e : Edition) : CharSet :=
  let hidden := (Category.set e "Cn").common (defaultIgnorable e)
  let controls := (Category.sets e ["Zl", "Zp", "Cc", "Cf"]).union hidden
  let apart : List CharSet := [setOf ["A D"], joiners, Listed.prependedConcatenationMark, extend e]
  controls.without (.unions apart)

/-- Marks that take up space with the character before them. -/
def spacingMark (e : Edition) : CharSet :=
  (((Category.set e "Mc").union (setOf ["E33 EB3"])).without (extend e)).without (setOf [
    "102B-102C 1038 1062-1064 1067-106D 1083 1087-108C 108F 109A-109C 1A61 1A63-1A64 AA7B AA7D",
    "11720-11721"])

/-- Signs that go with the character after them. -/
def prepended : CharSet := Listed.prependedConcatenationMark.union
  (setOf ["D4E 111C2-111C3 113D1 1193F 11941 11A84-11A89 11D46 11F02"])

/-- Syllables of two sounds in the Korean script: every twenty-eighth. -/
def openSyllables : CharSet := .ofPoints ((List.range 399).map fun i => 0xAC00 + 28 * i)

/-- The characters of a class for what a reader takes for one character. -/
def grapheme? (e : Edition) (name : String) : Option CharSet :=
  match name with
  | "CR" => some (.single '\r')
  | "LF" => some (.single '\n')
  | "CN" => some (control e)
  | "EX" => some (extend e)
  | "ZWJ" => some (.range 0x200D 0x200D)
  | "RI" => some Listed.regionalIndicator
  | "PP" => some (e.restrict prepended)
  | "SM" => some (spacingMark e)
  | "L" => some (setOf ["1100-115F A960-A97C"])
  | "V" => some (setOf ["1160-11A7 D7B0-D7C6 16D63 16D67-16D6A"])
  | "T" => some (setOf ["11A8-11FF D7CB-D7FB"])
  | "LV" => some openSyllables
  | "LVT" => some ((CharSet.range 0xAC00 0xD7A3).without openSyllables)
  | _ => none

/-- What goes with the character before it in words and sentences. -/
def wordExtend (e : Edition) : CharSet := (extend e).union (Category.set e "Mc")

/-- Signs of one of the Japanese scripts. -/
def katakana (e : Edition) : CharSet :=
  (Script.set e "Kana").union (setOf ["3031-3035 309B-309C 30A0 30FC FF70"])

/-- Letters of the Hebrew script. -/
def hebrewLetter (e : Edition) : CharSet := (Category.set e "Lo").common (Script.set e "Hebr")

/-- Letters of scripts that are written without blanks between words. -/
def unspaced : CharSet := setOf [
    "E01-E30 E32-E33 E40-E46 E81-E82 E84 E86-E8A E8C-EA3 EA5 EA7-EB0 EB2-EB3 EBD EC0-EC4 EC6",
    "EDC-EDF 1000-102A 103F 1050-1055 105A-105D 1061 1065-1066 106E-1070 1075-1081 108E",
    "1780-17B3 17D7 17DC 1950-196D 1970-1974 1980-19AB 19B0-19C9 1A20-1A54 1AA7 A9E0-A9E4",
    "A9E6-A9EF A9FA-A9FE AA60-AA76 AA7A AA7E-AAAF AAB1 AAB5-AAB6 AAB9-AABD AAC0 AAC2 AADB-AADD",
    "11700-1171A 11740-11746"]

/-- Signs that are like letters in words. -/
def likeLetters : CharSet := setOf [
    "B8 2C2-2C5 2D2-2D7 2DE-2DF 2E5-2EB 2ED 2EF-2FF 55A-55C 55E 58A 5F3 70F A708-A716",
    "A720-A721 A789-A78A AB5B"]

/-- Letters of scripts that are written with blanks between words. -/
def letter (e : Edition) : CharSet :=
  let apart := [Listed.ideographic, katakana e, unspaced, Script.set e "Hira", wordExtend e,
    hebrewLetter e]
  ((alphabetic e).without (.unions apart)).union likeLetters

/-- Digits and what belongs to numbers. -/
def numeric (e : Edition) : CharSet :=
  (Category.set e "Nd").union (setOf ["600-605 66B 6DD 890-891 8E2 19DA 110BD 110CD"])

/-- Controls of the format in words. -/
def wordFormat (e : Edition) : CharSet :=
  (Category.set e "Cf").without
    (.unions [.range 0x200B 0x200D, wordExtend e, numeric e, letter e])

/-- The characters of a class for words. -/
def word? (e : Edition) (name : String) : Option CharSet :=
  match name with
  | "CR" => some (.single '\r')
  | "LF" => some (.single '\n')
  | "NL" => some (setOf ["B-C 85 2028-2029"])
  | "Extend" => some ((wordExtend e).without (.range 0x200D 0x200D))
  | "ZWJ" => some (.range 0x200D 0x200D)
  | "RI" => some Listed.regionalIndicator
  | "KA" => some (katakana e)
  | "HL" => some (hebrewLetter e)
  | "LE" => some (letter e)
  | "NU" => some (numeric e)
  | "FO" => some (wordFormat e)
  | "EX" => some ((Category.set e "Pc").union (setOf ["202F"]))
  | "ML" => some (setOf ["3A B7 387 55F 5F4 2027 FE13 FE55 FF1A"])
  | "MN" => some (setOf ["2C 3B 37E 589 60C-60D 66C 7F8 2044 FE50 FE54 FF0C FF1B"])
  | "MB" => some (setOf ["2E 2018-2019 2024 FE52 FF07 FF0E"])
  | "SQ" => some (setOf ["27"])
  | "DQ" => some (setOf ["22"])
  | "WSegSpace" => some (setOf ["20 1680 2000-2006 2008-200A 205F 3000"])
  | _ => none

/-- What goes with the character before it in sentences. -/
def sentenceExtend (e : Edition) : CharSet :=
  .unions [graphemeExtend e, Category.set e "Mc", .range 0x200D 0x200D]

/-- Ends of paragraphs. -/
def paragraphEnd : CharSet := setOf ["85 2028-2029"]

/-- Capital letters that start sentences. -/
def sentenceUpper (e : Edition) : CharSet :=
  ((uppercase e).union (Category.set e "Lt")).without (setOf ["1C90-1CBA 1CBD-1CBF"])

/-- Small letters. -/
def sentenceLower (e : Edition) : CharSet :=
  ((lowercase e).without (sentenceExtend e)).without (setOf ["10D0-10FA 10FD-10FF"])

/-- Full stops of several kinds. -/
def fullStops : CharSet := setOf ["2E 2024 FE52 FF0E"]

/-- The characters of a class for sentences. -/
def sentence? (e : Edition) (name : String) : Option CharSet :=
  match name with
  | "CR" => some (.single '\r')
  | "LF" => some (.single '\n')
  | "EX" => some (sentenceExtend e)
  | "SE" => some paragraphEnd
  | "FO" => some ((Category.set e "Cf").without (.unions [joiners, sentenceExtend e, numeric e]))
  | "SP" => some (whiteSpace.without (paragraphEnd.union (setOf ["A D"])))
  | "UP" => some (sentenceUpper e)
  | "LO" => some (sentenceLower e)
  | "LE" => some (((alphabetic e).without
      (.unions [sentenceLower e, sentenceUpper e, sentenceExtend e])).union (setOf ["5F3"]))
  | "NU" => some ((numeric e).union (setOf ["66C"]))
  | "AT" => some fullStops
  | "ST" => some ((e.restrict Listed.sentenceTerminal).without fullStops)
  | "CL" => some ((CharSet.unions [Category.sets e ["Ps", "Pe", "Pi", "Pf"], Listed.quotationMark,
      setOf ["275B-2760 2E00-2E01 2E06-2E08 2E0B 1F676-1F678"]]).without (setOf ["FF02 FF07"]))
  | "SC" => some (setOf [
      "2C-2D 3A-3B 37E 55D 60C-60D 7F8 1802 1808 2013-2014 3001 FE10-FE11 FE13-FE14 FE31-FE32",
      "FE50-FE51 FE54-FE55 FE58 FE63 FF0C-FF0D FF1A-FF1B FF64"])
  | _ => none

end Conform.Unicode.Segmentation
