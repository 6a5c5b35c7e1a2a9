import Conform.Text.Unicode.Edition

/-!
# Upper and lower case

Characters that differ by case alone fold to one character, which is one of them.

## Main definitions

- `Unicode.Casing.foldings` — what characters fold to
- `Unicode.Casing.close` — a set with all characters that differ from its own by case alone
-/

namespace Conform.Unicode.Casing

/-- Code points that fold to others at one distance: every one of a range, or every second one. -/
structure Folding where
  /-- The first code point. -/
  first : Nat
  /-- The last code point. -/
  last : Nat
  /-- The distance from one to the next. -/
  step : Nat
  /-- What the first one folds to. -/
  target : Nat
deriving DecidableEq, Repr

/-- Foldings of edition 17.0: a range, `/2` if every second code point of it is meant, and what the
    first one folds to. -/
def foldingLines : List String := [
    "41-5A>61 B5>3BC C0-D6>E0 D8-DE>F8 100-12E/2>101 132-136/2>133 139-147/2>13A 14A-176/2>14B",
    "178>FF 179-17D/2>17A 17F>73 181>253 182-184/2>183 186>254 187>188 189-18A>256 18B>18C",
    "18E>1DD 18F>259 190>25B 191>192 193>260 194>263 196>269 197>268 198>199 19C>26F 19D>272",
    "19F>275 1A0-1A4/2>1A1 1A6>280 1A7>1A8 1A9>283 1AC>1AD 1AE>288 1AF>1B0 1B1-1B2>28A",
    "1B3-1B5/2>1B4 1B7>292 1B8>1B9 1BC>1BD 1C4>1C6 1C5>1C6 1C7>1C9 1C8>1C9 1CA>1CC",
    "1CB-1DB/2>1CC 1DE-1EE/2>1DF 1F1>1F3 1F2-1F4/2>1F3 1F6>195 1F7>1BF 1F8-21E/2>1F9 220>19E",
    "222-232/2>223 23A>2C65 23B>23C 23D>19A 23E>2C66 241>242 243>180 244>289 245>28C",
    "246-24E/2>247 345>3B9 370-372/2>371 376>377 37F>3F3 386>3AC 388-38A>3AD 38C>3CC",
    "38E-38F>3CD 391-3A1>3B1 3A3-3AB>3C3 3C2>3C3 3CF>3D7 3D0>3B2 3D1>3B8 3D5>3C6 3D6>3C0",
    "3D8-3EE/2>3D9 3F0>3BA 3F1>3C1 3F4>3B8 3F5>3B5 3F7>3F8 3F9>3F2 3FA>3FB 3FD-3FF>37B",
    "400-40F>450 410-42F>430 460-480/2>461 48A-4BE/2>48B 4C0>4CF 4C1-4CD/2>4C2 4D0-52E/2>4D1",
    "531-556>561 10A0-10C5>2D00 10C7>2D27 10CD>2D2D 13F8-13FD>13F0 1C80>432 1C81>434 1C82>43E",
    "1C83-1C84>441 1C85>442 1C86>44A 1C87>463 1C88>A64B 1C89>1C8A 1C90-1CBA>10D0",
    "1CBD-1CBF>10FD 1E00-1E94/2>1E01 1E9B>1E61 1E9E>DF 1EA0-1EFE/2>1EA1 1F08-1F0F>1F00",
    "1F18-1F1D>1F10 1F28-1F2F>1F20 1F38-1F3F>1F30 1F48-1F4D>1F40 1F59-1F5F/2>1F51",
    "1F68-1F6F>1F60 1F88-1F8F>1F80 1F98-1F9F>1F90 1FA8-1FAF>1FA0 1FB8-1FB9>1FB0 1FBA-1FBB>1F70",
    "1FBC>1FB3 1FBE>3B9 1FC8-1FCB>1F72 1FCC>1FC3 1FD3>390 1FD8-1FD9>1FD0 1FDA-1FDB>1F76",
    "1FE3>3B0 1FE8-1FE9>1FE0 1FEA-1FEB>1F7A 1FEC>1FE5 1FF8-1FF9>1F78 1FFA-1FFB>1F7C 1FFC>1FF3",
    "2126>3C9 212A>6B 212B>E5 2132>214E 2160-216F>2170 2183>2184 24B6-24CF>24D0 2C00-2C2F>2C30",
    "2C60>2C61 2C62>26B 2C63>1D7D 2C64>27D 2C67-2C6B/2>2C68 2C6D>251 2C6E>271 2C6F>250",
    "2C70>252 2C72>2C73 2C75>2C76 2C7E-2C7F>23F 2C80-2CE2/2>2C81 2CEB-2CED/2>2CEC 2CF2>2CF3",
    "A640-A66C/2>A641 A680-A69A/2>A681 A722-A72E/2>A723 A732-A76E/2>A733 A779-A77B/2>A77A",
    "A77D>1D79 A77E-A786/2>A77F A78B>A78C A78D>265 A790-A792/2>A791 A796-A7A8/2>A797 A7AA>266",
    "A7AB>25C A7AC>261 A7AD>26C A7AE>26A A7B0>29E A7B1>287 A7B2>29D A7B3>AB53 A7B4-A7C2/2>A7B5",
    "A7C4>A794 A7C5>282 A7C6>1D8E A7C7-A7C9/2>A7C8 A7CB>264 A7CC-A7DA/2>A7CD A7DC>19B",
    "A7F5>A7F6 AB70-ABBF>13A0 FB05>FB06 FF21-FF3A>FF41 10400-10427>10428 104B0-104D3>104D8",
    "10570-10594/2>10597 10571-10579/2>10598 1057D-10589/2>105A4 1058D-10591/2>105B4",
    "10595>105BC 10C80-10CB2>10CC0 10D50-10D65>10D70 118A0-118BF>118C0 16E40-16E5F>16E60",
    "16EA0-16EB8>16EBB 1E900-1E921>1E922"]

namespace Folding

/-- The folding that a word gives. -/
def ofWord (word : List Char) : Folding :=
  let sources := word.takeWhile (· ≠ '>')
  let extent := sources.takeWhile (· ≠ '/')
  let (first, last) := rangeOf extent
  { first, last
    step := if extent.length = sources.length then 1 else 2
    target := Hexadecimal.ofDigits (word.drop (sources.length + 1)) }

/-- The code points that fold, with what they fold to. -/
def pairs (f : Folding) : List (Nat × Nat) :=
  (List.range ((f.last - f.first) / f.step + 1)).map fun i =>
    (f.first + i * f.step, f.target + i * f.step)

end Folding

/-- Code points with what they fold to. A code point that is not listed folds to itself. -/
def foldings : List (Nat × Nat) :=
  (wordsOf foldingLines).flatMap fun word => (Folding.ofWord word).pairs

/-- A set with what its characters fold to. -/
def addFolded (s : CharSet) : CharSet :=
  s.union (.ofPoints ((foldings.filter fun p => s.containsPoint p.1).map Prod.snd))

/-- A set with what folds to its characters. -/
def addFolding (s : CharSet) : CharSet :=
  s.union (.ofPoints ((foldings.filter fun p => s.containsPoint p.2).map Prod.fst))

/-- A set with all characters of an edition that differ from its own by case alone. -/
def close (e : Edition) (s : CharSet) : CharSet :=
  s.union (e.restrict (addFolding (addFolded (e.restrict s))))

/-- Capital letters that have no small form. -/
def withoutSmallForm : CharSet :=
  setOf [
    "3D2-3D4 2102 2107 210B-210D 2110-2112 2115 2119-211D 2124 2128 212C-212D 2130-2131 2133",
    "213E-213F 2145 1D400-1D419 1D434-1D44D 1D468-1D481 1D49C 1D49E-1D49F 1D4A2 1D4A5-1D4A6",
    "1D4A9-1D4AC 1D4AE-1D4B5 1D4D0-1D4E9 1D504-1D505 1D507-1D50A 1D50D-1D514 1D516-1D51C",
    "1D538-1D539 1D53B-1D53E 1D540-1D544 1D546 1D54A-1D550 1D56C-1D585 1D5A0-1D5B9 1D5D4-1D5ED",
    "1D608-1D621 1D63C-1D655 1D670-1D689 1D6A8-1D6C0 1D6E2-1D6FA 1D71C-1D734 1D756-1D76E",
    "1D790-1D7A8 1D7CA 1F130-1F149 1F150-1F169 1F170-1F189"]

/-- Small letters that have no capital form. -/
def withoutCapitalForm : CharSet :=
  setOf [
    "AA BA 138 18D 1AA-1AB 1BA 1BE 221 234-239 255 258 25A 25D-25F 262 267 26D-26E 270 273-274",
    "276-27C 27E-27F 281 284-286 28D-291 293 295-29C 29F-2B8 2C0-2C1 2E0-2E4 37A 3FC 560 588",
    "10FC 1D00-1D78 1D7A-1D7C 1D7E-1D8D 1D8F-1DBF 1E9C-1E9D 1E9F 2071 207F 2090-209C 210A",
    "210E-210F 2113 212F 2134 2139 213C-213D 2146-2149 2C71 2C74 2C77-2C7D 2CE4 A69C-A69D",
    "A730-A731 A770-A778 A78E A795 A7AF A7F1-A7F4 A7F8-A7FA AB30-AB52 AB54-AB5A AB5C-AB69",
    "10780 10783-10785 10787-107B0 107B2-107BA 1D41A-1D433 1D44E-1D454 1D456-1D467 1D482-1D49B",
    "1D4B6-1D4B9 1D4BB 1D4BD-1D4C3 1D4C5-1D4CF 1D4EA-1D503 1D51E-1D537 1D552-1D56B 1D586-1D59F",
    "1D5BA-1D5D3 1D5EE-1D607 1D622-1D63B 1D656-1D66F 1D68A-1D6A5 1D6C2-1D6DA 1D6DC-1D6E1",
    "1D6FC-1D714 1D716-1D71B 1D736-1D74E 1D750-1D755 1D770-1D788 1D78A-1D78F 1D7AA-1D7C2",
    "1D7C4-1D7C9 1D7CB 1DF00-1DF09 1DF0B-1DF1E 1DF25-1DF2A 1E030-1E06D"]

/-- Letters that have a capital form but start a word as they are. -/
def ownTitleForm : CharSet :=
  setOf ["1C5 1C8 1CB 1F2 10D0-10FA 10FD-10FF 1F88-1F8F 1F98-1F9F 1FA8-1FAF 1FBC 1FCC 1FFC"]

/-- Letters without a capital form that change at the start of a word. -/
def otherTitleForm : CharSet := setOf ["1C4 1C7 1CA 1F1"]

/-- Capital letters that folding leaves alone. -/
def foldedAsCapitals : CharSet := setOf ["13A0-13F5"]

/-- Small letters that folding changes. -/
def foldedSmallLetters : CharSet :=
  setOf [
    "B5 DF 149 17F 345 3C2 3D0-3D1 3D5-3D6 3F0-3F1 3F5 587 13F8-13FD 1C80-1C88 1E9A-1E9B",
    "1F80-1F87 1F90-1F97 1FA0-1FA7 1FB2-1FB4 1FB7 1FC2-1FC4 1FC7 1FF2-1FF4 1FF7 AB70-ABBF",
    "FB00-FB06 FB13-FB17"]

end Conform.Unicode.Casing
