import Conform.Text.Unicode.Segmentation

/-!
# Questions about properties

A property of characters is asked for by its name alone, by the name of a general category or of a
script, or by the name of a property and one of its values. In names, case, blanks, hyphens and
underscores do not count, nor does `is` in front.

## Main definitions

- `Unicode.PropertyQuery` — a question
- `Unicode.PropertyFault` — why a question has no answer
- `Unicode.PropertyQuery.set` — the characters that have the property
-/

namespace Conform.Unicode

/-- A question about a property. -/
inductive PropertyQuery where
  /-- By one name. -/
  | named (name : String)
  /-- By a property and its value. -/
  | valued (property value : String)
deriving DecidableEq, Repr

/-- Why a question about a property has no answer. -/
inductive PropertyFault where
  | unknownProperty
  | unknownValue
deriving DecidableEq, Repr

/-- A name without all that does not count in it. Of the names with `is` in front, one is not cut: a
    category of the same name without it has one letter only. -/
def plainName (name : String) : String :=
  let plain := fun (cs : List Char) =>
    (cs.filter fun c => c.toNat < 128 && c != ' ' && c != '_' && c != '-').map Char.toLower
  match name.toList with
  | i :: s :: rest =>
    if i.toLower = 'i' ∧ s.toLower = 's' then
      if plain rest = ['c'] then "isc" else String.ofList (plain rest)
    else String.ofList (plain (i :: s :: rest))
  | cs => String.ofList (plain cs)

/-- The properties that a character has or has not: their names and their characters. -/
def binaryProperties : List (List String × (Edition → CharSet)) :=
  let listed := fun (s : CharSet) (e : Edition) => e.restrict s
  [(["alphabetic", "alpha"], alphabetic),
    (["asciihexdigit", "ahex"], listed Listed.asciiHexDigit),
    (["bidicontrol", "bidic"], listed Listed.bidiControl),
    (["cased"], cased),
    (["caseignorable", "ci"], caseIgnorable),
    (["changeswhencasefolded", "cwcf"], changesFolded),
    (["changeswhencasemapped", "cwcm"], changesCase),
    (["changeswhenlowercased", "cwl"], changesLowercased),
    (["changeswhentitlecased", "cwt"], changesTitlecased),
    (["changeswhenuppercased", "cwu"], changesUppercased),
    (["dash"], listed Listed.dash),
    (["defaultignorablecodepoint", "di"], defaultIgnorable),
    (["deprecated", "dep"], listed Listed.deprecated),
    (["diacritic", "dia"], listed Listed.diacritic),
    (["emoji"], listed Listed.emoji),
    (["emojicomponent", "ecomp"], listed Listed.emojiComponent),
    (["emojimodifier", "emod"], listed Listed.emojiModifier),
    (["emojimodifierbase", "ebase"], listed Listed.emojiModifierBase),
    (["emojipresentation", "epres"], listed Listed.emojiPresentation),
    (["extendedpictographic", "extpict"], pictographic),
    (["extender", "ext"], listed Listed.extender),
    (["graphemebase", "grbase"], graphemeBase),
    (["graphemeextend", "grext"], graphemeExtend),
    (["graphemelink", "grlink"], listed Listed.graphemeLink),
    (["hexdigit", "hex"], listed Listed.hexDigit),
    (["hyphen"], listed Listed.hyphen),
    (["idcompatmathcontinue"], listed Listed.idCompatMathContinue),
    (["idcompatmathstart"], listed Listed.idCompatMathStart),
    (["idcontinue", "idc"], idContinue),
    (["ideographic", "ideo"], listed Listed.ideographic),
    (["idstart", "ids"], idStart),
    (["idsbinaryoperator", "idsb"], listed Listed.idsBinaryOperator),
    (["idstrinaryoperator", "idst"], listed Listed.idsTrinaryOperator),
    (["idsunaryoperator", "idsu"], listed Listed.idsUnaryOperator),
    (["joincontrol", "joinc"], listed Listed.joinControl),
    (["logicalorderexception", "loe"], listed Listed.logicalOrderException),
    (["lowercase", "lower"], lowercase),
    (["math"], math),
    (["modifiercombiningmark", "mcm"], listed Listed.modifierCombiningMark),
    (["noncharactercodepoint", "nchar"], fun _ => Listed.noncharacter),
    (["otheralphabetic", "oalpha"], listed Listed.otherAlphabetic),
    (["otherdefaultignorablecodepoint", "odi"], fun _ => Listed.otherDefaultIgnorable),
    (["othergraphemeextend", "ogrext"], listed Listed.otherGraphemeExtend),
    (["otheridcontinue", "oidc"], listed Listed.otherIdContinue),
    (["otheridstart", "oids"], listed Listed.otherIdStart),
    (["otherlowercase", "olower"], listed Listed.otherLowercase),
    (["othermath", "omath"], listed Listed.otherMath),
    (["otheruppercase", "oupper"], listed Listed.otherUppercase),
    (["patternsyntax", "patsyn"], fun _ => Listed.patternSyntax),
    (["patternwhitespace", "patws"], fun _ => Listed.patternWhiteSpace),
    (["prependedconcatenationmark", "pcm"], listed Listed.prependedConcatenationMark),
    (["quotationmark", "qmark"], listed Listed.quotationMark),
    (["radical"], listed Listed.radical),
    (["regionalindicator", "ri"], listed Listed.regionalIndicator),
    (["sentenceterminal", "sterm"], listed Listed.sentenceTerminal),
    (["softdotted", "sd"], listed Listed.softDotted),
    (["terminalpunctuation", "term"], listed Listed.terminalPunctuation),
    (["unifiedideograph", "uideo"], listed Listed.unifiedIdeograph),
    (["uppercase", "upper"], uppercase),
    (["variationselector", "vs"], listed Listed.variationSelector),
    (["whitespace", "wspace", "space"], fun _ => whiteSpace),
    (["xidcontinue", "xidc"], xidContinue),
    (["xidstart", "xids"], xidStart)]

/-- Names of properties about which no question is answered. -/
def otherProperties : List String := (wordsOf [
  "bidimirrored bidim ce compositionexclusion compex fullcompositionexclusion cwkcf",
  "changeswhennfkccasefolded expandsonnfc xonfc expandsonnfd xonfd expandsonnfkc xonfkc",
  "expandsonnfkd xonfkd kehnomirror kehnorotate age bc bidiclass blk block bpt",
  "bidipairedbrackettype ccc canonicalcombiningclass dt decompositiontype ea eastasianwidth gc",
  "generalcategory gcb graphemeclusterbreak hst hangulsyllabletype incb indicconjunctbreak inpc",
  "indicpositionalcategory insc indicsyllabiccategory jg joininggroup jt joiningtype lb",
  "linebreak nfcqc nfcquickcheck nfdqc nfdquickcheck nfkcqc nfkcquickcheck nfkdqc",
  "nfkdquickcheck nt numerictype sb sentencebreak sc script scx scriptextensions vo",
  "verticalorientation wb wordbreak bmg bidimirroringglyph bpb bidipairedbracket cf casefolding",
  "dm decompositionmapping equideo equivalentunifiedideograph fcnfkc fcnfkcclosure lc",
  "lowercasemapping nfkccf nfkccasefold nfkcscf nfkcsimplecasefold scf simplecasefolding sfc",
  "slc simplelowercasemapping stc simpletitlecasemapping suc simpleuppercasemapping tc",
  "titlecasemapping uc uppercasemapping nv numericvalue cjkaccountingnumeric kaccountingnumeric",
  "cjkothernumeric kothernumeric cjkprimarynumeric kprimarynumeric cjkcompatibilityvariant",
  "kcompatibilityvariant cjkiicore kiicore cjkirggsource kirggsource cjkirghsource kirghsource",
  "cjkirgjsource kirgjsource cjkirgkpsource kirgkpsource cjkirgksource kirgksource",
  "cjkirgmsource kirgmsource cjkirgssource kirgssource cjkirgtsource kirgtsource",
  "cjkirguksource kirguksource cjkirgusource kirgusource cjkirgvsource kirgvsource",
  "cjkmandarin kmandarin cjkrsunicode krsunicode unicoderadicalstroke urs cjktotalstrokes",
  "ktotalstrokes cjkunihancore2020 kunihancore2020 isc jsn jamoshortname kehcat kehcore kehdesc",
  "kehfunc kehfval kehhg kehifao kehjsesh kehunik na name na1 unicode1name namealias"]).map
    String.ofList

/-- Names of general categories and of groups of them, with the categories. -/
def categoryNames : List (List String × List String) :=
  [(["c", "other"], ["C"]), (["cc", "control", "cntrl"], ["Cc"]), (["cf", "format"], ["Cf"]),
    (["cn", "unassigned"], ["Cn"]), (["co", "privateuse"], ["Co"]), (["l", "letter"], ["L"]),
    (["lc", "casedletter"], ["Lu", "Ll", "Lt"]), (["ll", "lowercaseletter"], ["Ll"]),
    (["lm", "modifierletter"], ["Lm"]), (["lo", "otherletter"], ["Lo"]),
    (["lt", "titlecaseletter"], ["Lt"]), (["lu", "uppercaseletter"], ["Lu"]),
    (["m", "mark", "combiningmark"], ["M"]), (["mc", "spacingmark"], ["Mc"]),
    (["me", "enclosingmark"], ["Me"]), (["mn", "nonspacingmark"], ["Mn"]),
    (["n", "number"], ["N"]), (["nd", "decimalnumber", "digit"], ["Nd"]),
    (["nl", "letternumber"], ["Nl"]), (["no", "othernumber"], ["No"]),
    (["p", "punctuation", "punct"], ["P"]), (["pc", "connectorpunctuation"], ["Pc"]),
    (["pd", "dashpunctuation"], ["Pd"]), (["pe", "closepunctuation"], ["Pe"]),
    (["pf", "finalpunctuation"], ["Pf"]), (["pi", "initialpunctuation"], ["Pi"]),
    (["po", "otherpunctuation"], ["Po"]), (["ps", "openpunctuation"], ["Ps"]),
    (["s", "symbol"], ["S"]), (["sc", "currencysymbol"], ["Sc"]),
    (["sk", "modifiersymbol"], ["Sk"]), (["sm", "mathsymbol"], ["Sm"]),
    (["so", "othersymbol"], ["So"]), (["z", "separator"], ["Z"]),
    (["zl", "lineseparator"], ["Zl"]), (["zp", "paragraphseparator"], ["Zp"]),
    (["zs", "spaceseparator"], ["Zs"])]

/-- The numbers of the editions up to one, with the letters that stand for them too. -/
def editionNumbers : List (String × String) :=
  [("1.1", "v11"), ("2.0", "v20"), ("2.1", "v21"), ("3.0", "v30"), ("3.1", "v31"), ("3.2", "v32"),
    ("4.0", "v40"), ("4.1", "v41"), ("5.0", "v50"), ("5.1", "v51"), ("5.2", "v52"), ("6.0", "v60"),
    ("6.1", "v61"), ("6.2", "v62"), ("6.3", "v63"), ("7.0", "v70"), ("8.0", "v80"), ("9.0", "v90"),
    ("10.0", "v100"), ("11.0", "v110"), ("12.0", "v120"), ("12.1", "v121"), ("13.0", "v130"),
    ("14.0", "v140"), ("15.0", "v150"), ("15.1", "v151"), ("16.0", "v160"), ("17.0", "v170")]

/-- Names of the classes for what a reader takes for one character. -/
def graphemeNames : List (String × String) :=
  [("CN", "control"), ("CR", "cr"), ("EX", "extend"), ("L", "l"), ("LF", "lf"), ("LV", "lv"),
    ("LVT", "lvt"), ("PP", "prepend"), ("RI", "regionalindicator"), ("SM", "spacingmark"),
    ("T", "t"), ("V", "v"), ("ZWJ", "zwj")]

/-- Names of the classes for words. -/
def wordNames : List (String × String) :=
  [("CR", "cr"), ("DQ", "doublequote"), ("EX", "extendnumlet"), ("Extend", "extend"),
    ("FO", "format"), ("HL", "hebrewletter"), ("KA", "katakana"), ("LE", "aletter"), ("LF", "lf"),
    ("MB", "midnumlet"), ("ML", "midletter"), ("MN", "midnum"), ("NL", "newline"),
    ("NU", "numeric"), ("RI", "regionalindicator"), ("SQ", "singlequote"),
    ("WSegSpace", "wsegspace"), ("ZWJ", "zwj")]

/-- Names of the classes for sentences. -/
def sentenceNames : List (String × String) :=
  [("AT", "aterm"), ("CL", "close"), ("CR", "cr"), ("EX", "extend"), ("FO", "format"),
    ("LE", "oletter"), ("LF", "lf"), ("LO", "lower"), ("NU", "numeric"), ("SC", "scontinue"),
    ("SE", "sep"), ("SP", "sp"), ("ST", "sterm"), ("UP", "upper")]

/-- The code that a code or a name in small letters names. -/
def codeOf? (names : List (String × String)) (name : String) : Option String :=
  (names.find? fun (code, long) => code.map Char.toLower == name || long == name).map Prod.fst

/-- The characters of a general category or of a group. -/
def categorySet? (e : Edition) (name : String) : Option CharSet :=
  if name = "any" then some .all
  else if name = "ascii" then some (.range 0 0x7F)
  else if name = "assigned" then some (Category.set e "Cn").complement
  else (categoryNames.find? fun (names, _) => names.contains name).map fun (_, codes) =>
    Category.sets e codes

/-- Whether a name is that of the category of surrogates, which no character has. -/
def isSurrogate (name : String) : Bool := name == "cs" || name == "surrogate"

/-- The characters of a script, or `none` if it has none. -/
def scriptSet? (characters : String → CharSet) (code : String) : Option CharSet :=
  if code = "Zzzz" ∨ code = "Hrkt" then none else some (characters code)

/-- The characters that an edition and those before it added, by the number of that edition. -/
def ageSet? (e : Edition) (value : String) : Option CharSet :=
  let known := match e with
    | .v16 => editionNumbers.dropLast
    | .v17 => editionNumbers
  if known.any fun (number, long) => number == value || long == value then
    let earlier := known.takeWhile fun (number, long) => number ≠ value ∧ long ≠ value
    let last := known.filter fun (number, long) => number == value || long == value
    some (Edition.addedUpTo ((earlier ++ last).map Prod.fst))
  else none

/-- The characters with a value of a property that has values; the inner `none` if the value is not
    known, the outer one if the property is not. -/
def valueSet? (e : Edition) (property value : String) : Option (Option CharSet) :=
  match property with
  | "gc" | "generalcategory" => some (categorySet? e value)
  | "sc" | "script" => some ((Script.ofName? e value).bind (scriptSet? (Script.set e)))
  | "scx" | "scriptextensions" =>
    some ((Script.ofName? e value).bind (scriptSet? (Script.extendedSet e)))
  | "age" => some (ageSet? e value)
  | "gcb" | "graphemeclusterbreak" =>
    some ((codeOf? graphemeNames value).bind (Segmentation.grapheme? e))
  | "wb" | "wordbreak" => some ((codeOf? wordNames value).bind (Segmentation.word? e))
  | "sb" | "sentencebreak" => some ((codeOf? sentenceNames value).bind (Segmentation.sentence? e))
  | _ =>
    if otherProperties.contains property ||
        binaryProperties.any fun (names, _) => names.contains property then some none
    else none

/-- The characters of a property that is asked for by one name. Three names are those of general
    categories although they are abbreviations of properties too. -/
def namedSet (e : Edition) (name : String) : Except PropertyFault CharSet :=
  let isCategory := name == "cf" || name == "sc" || name == "lc"
  match binaryProperties.find? fun (names, _) => names.contains name with
  | some (_, characters) => .ok (characters e)
  | none =>
    if otherProperties.contains name && !isCategory then .error .unknownProperty
    else if isSurrogate name then .error .unknownValue
    else
      match categorySet? e name, Script.ofName? e name with
      | some s, _ => .ok s
      | none, some code =>
        match scriptSet? (Script.set e) code with
        | some s => .ok s
        | none => .error .unknownValue
      | none, none => .error .unknownProperty

/-- The characters that have a property. -/
def PropertyQuery.set (e : Edition) : PropertyQuery → Except PropertyFault CharSet
  | named name => namedSet e (plainName name)
  | valued property value =>
    match valueSet? e (plainName property) (plainName value) with
    | some (some s) => .ok s
    | some none => .error .unknownValue
    | none => .error .unknownProperty

end Conform.Unicode
