import ItemPipeline.Unicode.Age
import ItemPipeline.Unicode.Class
import ItemPipeline.Unicode.Script

/-!
Sets of characters by the name of a property, or by those of a property and a value.
-/

namespace ItemPipeline.Unicode

/-- Names are compared without case, blanks, hyphens and underscores, and without `is` before them. -/
def looseName (s : String) : String :=
  let lower := s.toList.map Char.toLower
  let affixed := ['i', 's'].isPrefixOf lower
  let kept := (if affixed then lower.drop 2 else lower).filter fun c =>
    c.toNat < 128 && !(c == ' ' || c == '-' || c == '_')
  if affixed && kept == ['c'] then "isc" else String.ofList kept

structure Value where
  names : List String
  set : Unit → CharSet

def Value.find? (values : List Value) (loose : String) : Option CharSet :=
  (values.find? fun v => v.names.contains loose).map fun v => v.set ()

def ofCategories (names : List String) : CharSet :=
  CharSet.ofRanges (names.flatMap fun n => (Category.ofShortName? n).getD [])

def combined (sets : List CharSet) (more less : String) : CharSet :=
  CharSet.diff (CharSet.ofRanges (sets.flatten ++ CharSet.parse more)) (CharSet.ofRanges (CharSet.parse less))

section Categories

def categories : List (List String × List String) :=
  [(["letter", "l"], ["L"]), (["casedletter", "lc"], ["Lu", "Ll", "Lt"]), (["uppercaseletter", "lu"], ["Lu"]),
    (["lowercaseletter", "ll"], ["Ll"]), (["titlecaseletter", "lt"], ["Lt"]), (["modifierletter", "lm"], ["Lm"]),
    (["otherletter", "lo"], ["Lo"]), (["mark", "combiningmark", "m"], ["M"]), (["nonspacingmark", "mn"], ["Mn"]),
    (["spacingmark", "mc"], ["Mc"]), (["enclosingmark", "me"], ["Me"]), (["number", "n"], ["N"]),
    (["decimalnumber", "digit", "nd"], ["Nd"]), (["letternumber", "nl"], ["Nl"]), (["othernumber", "no"], ["No"]),
    (["punctuation", "punct", "p"], ["P"]), (["connectorpunctuation", "pc"], ["Pc"]),
    (["dashpunctuation", "pd"], ["Pd"]), (["openpunctuation", "ps"], ["Ps"]), (["closepunctuation", "pe"], ["Pe"]),
    (["initialpunctuation", "pi"], ["Pi"]), (["finalpunctuation", "pf"], ["Pf"]),
    (["otherpunctuation", "po"], ["Po"]), (["symbol", "s"], ["S"]), (["mathsymbol", "sm"], ["Sm"]),
    (["currencysymbol", "sc"], ["Sc"]), (["modifiersymbol", "sk"], ["Sk"]), (["othersymbol", "so"], ["So"]),
    (["separator", "z"], ["Z"]), (["spaceseparator", "zs"], ["Zs"]), (["lineseparator", "zl"], ["Zl"]),
    (["paragraphseparator", "zp"], ["Zp"]), (["control", "cntrl", "cc"], ["Cc"]), (["format", "cf"], ["Cf"]),
    (["privateuse", "co"], ["Co"])]

def assignedSet : CharSet :=
  combined [ofCategories ["L", "M", "N", "P", "S", "Z", "Cc", "Cf", "Co"]] "D800-DFFF" ""

def categorySet? (loose : String) : Option CharSet :=
  if loose == "any" then some [(0, CharSet.maxCode)]
  else if loose == "ascii" then some [(0, 127)]
  else if loose == "assigned" then some assignedSet
  else if loose == "unassigned" || loose == "cn" then some assignedSet.complement
  else if loose == "other" || loose == "c" then
    some (ofCategories ["L", "M", "N", "P", "S", "Z"]).complement
  else (categories.find? fun e => e.1.contains loose).map fun e => ofCategories e.2

end Categories

section Properties

def casedSet : CharSet :=
  combined [Property.lowercaseSet, Property.uppercaseSet, ofCategories ["Lt"]] "" ""

def movedBy (table : List Case.Shift) : CharSet :=
  table.flatMap fun e => (List.range ((e.last - e.first) / e.stride + 1)).map fun i =>
    (e.first + i * e.stride, e.first + i * e.stride)

def changesLowercased : CharSet :=
  combined [movedBy Case.lowerTable] "41-5A 130" ""

def changesUppercased : CharSet :=
  combined [movedBy Case.upperTable, Case.longUpperTable.map fun e => (e.1, e.1)] "61-7A" ""

def changesTitlecased : CharSet :=
  combined [changesUppercased] "1C4 1C7 1CA 1F1"
    "1C5 1C8 1CB 1F2 10D0-10FA 10FD-10FF 1F88-1F8F 1F98-1F9F 1FA8-1FAF 1FBC 1FCC 1FFC"

def changesCasefolded : CharSet :=
  combined [changesLowercased]
    (String.intercalate " "
      ["B5 DF 149 17F 345 3C2 3D0-3D1 3D5-3D6 3F0-3F1 3F5 587 13F8-13FD 1C80-1C88 1E9A-1E9B 1F80-1F87 1F90-1F97",
        "1FA0-1FA7 1FB2-1FB4 1FB7 1FC2-1FC4 1FC7 1FF2-1FF4 1FF7 AB70-ABBF FB00-FB06 FB13-FB17"])
    "13A0-13F5"

def idStartSet : CharSet :=
  combined [ofCategories ["L", "Nl"]] "1885-1886 2118 212E 309B-309C" "2E2F"

def idContinueSet : CharSet :=
  combined [idStartSet, ofCategories ["Mn", "Mc", "Nd", "Pc"]] "B7 387 1369-1371 19DA" ""

def graphemeBaseSet : CharSet :=
  CharSet.diff assignedSet
    (combined [ofCategories ["C", "Zl", "Zp"], Property.graphemeExtendSet] "D800-DFFF" "")

def properties : List Value :=
  [⟨["asciihexdigit", "ahex"], fun _ => CharSet.parse "30-39 41-46 61-66"⟩,
    ⟨["alphabetic", "alpha"], fun _ => Property.alphabeticSet⟩,
    ⟨["bidicontrol", "bidic"], fun _ => CharSet.parse "61C 200E-200F 202A-202E 2066-2069"⟩,
    ⟨["bidimirrored", "bidim"], fun _ => CharSet.parse Property.bidiMirrored⟩,
    ⟨["caseignorable", "ci"], fun _ => combined [ofCategories ["Mn", "Me", "Cf", "Lm", "Sk"]]
      "27 2E 3A B7 387 55F 5F4 2018-2019 2024 2027 FE13 FE52 FE55 FF07 FF0E FF1A" ""⟩,
    ⟨["cased"], fun _ => casedSet⟩,
    ⟨["changeswhencasefolded", "cwcf"], fun _ => changesCasefolded⟩,
    ⟨["changeswhencasemapped", "cwcm"], fun _ =>
      combined [changesLowercased, changesUppercased, changesTitlecased] "" ""⟩,
    ⟨["changeswhenlowercased", "cwl"], fun _ => changesLowercased⟩,
    ⟨["changeswhentitlecased", "cwt"], fun _ => changesTitlecased⟩,
    ⟨["changeswhenuppercased", "cwu"], fun _ => changesUppercased⟩,
    ⟨["dash"], fun _ => CharSet.parse Property.dashes⟩,
    ⟨["defaultignorablecodepoint", "di"], fun _ => CharSet.parse Property.defaultIgnorables⟩,
    ⟨["deprecated", "dep"], fun _ => CharSet.parse "149 673 F77 F79 17A3-17A4 206A-206F 2329-232A E0001"⟩,
    ⟨["diacritic", "dia"], fun _ => CharSet.parse Property.diacritics⟩,
    ⟨["emoji"], fun _ => CharSet.parse Property.emoji⟩,
    ⟨["emojicomponent", "ecomp"], fun _ => CharSet.parse
      "23 2A 30-39 200D 20E3 FE0F 1F1E6-1F1FF 1F3FB-1F3FF 1F9B0-1F9B3 E0020-E007F"⟩,
    ⟨["emojimodifier", "emod"], fun _ => CharSet.parse "1F3FB-1F3FF"⟩,
    ⟨["emojimodifierbase", "ebase"], fun _ => CharSet.parse Property.emojiBases⟩,
    ⟨["emojipresentation", "epres"], fun _ => CharSet.parse Property.emojiPresentation⟩,
    ⟨["extendedpictographic", "extpict"], fun _ => CharSet.parse Property.extendedPictographic⟩,
    ⟨["extender", "ext"], fun _ => CharSet.parse Property.extenders⟩,
    ⟨["graphemebase", "grbase"], fun _ => graphemeBaseSet⟩,
    ⟨["graphemeextend", "grext"], fun _ => Property.graphemeExtendSet⟩,
    ⟨["graphemelink", "grlink"], fun _ => CharSet.parse Property.viramas⟩,
    ⟨["hexdigit", "hex"], fun _ => CharSet.parse "30-39 41-46 61-66 FF10-FF19 FF21-FF26 FF41-FF46"⟩,
    ⟨["hyphen"], fun _ => CharSet.parse "2D AD 58A 1806 2010-2011 2E17 30FB FE63 FF0D FF65"⟩,
    ⟨["idsbinaryoperator", "idsb"], fun _ => CharSet.parse "2FF0-2FF1 2FF4-2FFB"⟩,
    ⟨["idstrinaryoperator", "idst"], fun _ => CharSet.parse "2FF2-2FF3"⟩,
    ⟨["idcontinue", "idc"], fun _ => idContinueSet⟩,
    ⟨["idstart", "ids"], fun _ => idStartSet⟩,
    ⟨["ideographic", "ideo"], fun _ => CharSet.parse Property.ideographic⟩,
    ⟨["joincontrol", "joinc"], fun _ => CharSet.parse "200C-200D"⟩,
    ⟨["logicalorderexception", "loe"], fun _ => CharSet.parse "E40-E44 EC0-EC4 19B5-19B7 19BA AAB5-AAB6 AAB9 AABB-AABC"⟩,
    ⟨["lowercase", "lower"], fun _ => Property.lowercaseSet⟩,
    ⟨["math"], fun _ => CharSet.parse Property.mathematical⟩,
    ⟨["noncharactercodepoint", "nchar"], fun _ => CharSet.parse Property.noncharacters⟩,
    ⟨["otheralphabetic", "oalpha"], fun _ => CharSet.diff Property.alphabeticSet (ofCategories ["L", "Nl"])⟩,
    ⟨["otherdefaultignorablecodepoint", "odi"], fun _ => CharSet.parse
      "34F 115F-1160 17B4-17B5 2065 3164 FFA0 FFF0-FFF8 E0000 E0002-E001F E0080-E00FF E01F0-E0FFF"⟩,
    ⟨["othergraphemeextend", "ogrext"], fun _ =>
      CharSet.diff Property.graphemeExtendSet (ofCategories ["Me", "Mn"])⟩,
    ⟨["otheridcontinue", "oidc"], fun _ => CharSet.parse "B7 387 1369-1371 19DA"⟩,
    ⟨["otheridstart", "oids"], fun _ => CharSet.parse "1885-1886 2118 212E 309B-309C"⟩,
    ⟨["otherlowercase", "olower"], fun _ => CharSet.diff Property.lowercaseSet (ofCategories ["Ll"])⟩,
    ⟨["othermath", "omath"], fun _ => CharSet.diff (CharSet.parse Property.mathematical) (ofCategories ["Sm"])⟩,
    ⟨["otheruppercase", "oupper"], fun _ => CharSet.diff Property.uppercaseSet (ofCategories ["Lu"])⟩,
    ⟨["patternsyntax", "patsyn"], fun _ => CharSet.parse Property.patternSyntax⟩,
    ⟨["patternwhitespace", "patws"], fun _ => CharSet.parse "9-D 20 85 200E-200F 2028-2029"⟩,
    ⟨["prependedconcatenationmark", "pcm"], fun _ => CharSet.parse "600-605 6DD 70F 890-891 8E2 110BD 110CD"⟩,
    ⟨["quotationmark", "qmark"], fun _ => CharSet.parse
      "22 27 AB BB 2018-201F 2039-203A 2E42 300C-300F 301D-301F FE41-FE44 FF02 FF07 FF62-FF63"⟩,
    ⟨["radical"], fun _ => CharSet.parse "2E80-2E99 2E9B-2EF3 2F00-2FD5"⟩,
    ⟨["regionalindicator", "ri"], fun _ => CharSet.parse "1F1E6-1F1FF"⟩,
    ⟨["sentenceterminal", "sterm"], fun _ => CharSet.parse Property.sentenceTerminals⟩,
    ⟨["softdotted", "sd"], fun _ => CharSet.parse Property.softDotted⟩,
    ⟨["terminalpunctuation", "term"], fun _ => CharSet.parse Property.terminalPunctuation⟩,
    ⟨["unifiedideograph", "uideo"], fun _ => CharSet.parse Property.unifiedIdeographs⟩,
    ⟨["uppercase", "upper"], fun _ => Property.uppercaseSet⟩,
    ⟨["variationselector", "vs"], fun _ => CharSet.parse "180B-180D 180F FE00-FE0F E0100-E01EF"⟩,
    ⟨["whitespace", "wspace", "space"], fun _ => blankSet⟩,
    ⟨["xidcontinue", "xidc"], fun _ => combined [idContinueSet] ""
      "37A 309B-309C FC5E-FC63 FDFA-FDFB FE70 FE72 FE74 FE76 FE78 FE7A FE7C FE7E"⟩,
    ⟨["xidstart", "xids"], fun _ => combined [idStartSet] ""
      "37A E33 EB3 309B-309C FC5E-FC63 FDFA-FDFB FE70 FE72 FE74 FE76 FE78 FE7A FE7C FE7E FF9E-FF9F"⟩]

def otherProperties : List String :=
  ["accountingnumeric", "kaccountingnumeric", "cjkaccountingnumeric", "bc", "bidiclass", "bidimirroringglyph", "bmg",
    "bidipairedbracket", "bpb", "bidipairedbrackettype", "bpt", "blk", "block", "canonicalcombiningclass", "ccc",
    "casefolding", "cf", "ce", "compositionexclusion", "compex", "fullcompositionexclusion",
    "changeswhennfkccasefolded", "cwkcf", "cjkcompatibilityvariant", "kcompatibilityvariant", "cjkiicore", "kiicore",
    "cjkirggsource", "kirggsource", "cjkirghsource", "kirghsource", "cjkirgjsource", "kirgjsource",
    "cjkirgkpsource", "kirgkpsource", "cjkirgksource", "kirgksource", "cjkirgmsource", "kirgmsource",
    "cjkirgssource", "kirgssource", "cjkirgtsource", "kirgtsource", "cjkirguksource", "kirguksource",
    "cjkirgusource", "kirgusource", "cjkirgvsource", "kirgvsource", "cjkothernumeric", "kothernumeric",
    "cjkprimarynumeric", "kprimarynumeric", "cjkrsunicode", "krsunicode", "unicoderadicalstroke", "urs",
    "decompositionmapping", "dm", "decompositiontype", "dt", "ea", "eastasianwidth", "equideo",
    "equivalentunifiedideograph", "expandsonnfc", "xonfc", "expandsonnfd", "xonfd", "expandsonnfkc", "xonfkc",
    "expandsonnfkd", "xonfkd", "fcnfkc", "fcnfkcclosure", "hangulsyllabletype", "hst", "indicpositionalcategory",
    "inpc", "indicsyllabiccategory", "insc", "isc", "ocomment", "jamoshortname", "jsn", "jg", "joininggroup", "jt",
    "joiningtype", "lb", "linebreak", "lc", "lowercasemapping", "na", "name", "na1", "unicode1name", "namealias",
    "nfcqc", "nfcquickcheck", "nfdqc", "nfdquickcheck", "nfkccasefold", "nfkccf", "nfkcqc", "nfkcquickcheck",
    "nfkdqc", "nfkdquickcheck", "nt", "numerictype", "nv", "numericvalue", "scf", "sfc", "simplecasefolding", "slc",
    "simplelowercasemapping", "stc", "simpletitlecasemapping", "suc", "simpleuppercasemapping", "tc",
    "titlecasemapping", "uc", "uppercasemapping", "vo", "verticalorientation"]

def isProperty (loose : String) : Bool :=
  (properties.any fun v => v.names.contains loose) || otherProperties.contains loose

end Properties

section Breaks

def extendingSet : CharSet :=
  combined [Property.graphemeExtendSet, ofCategories ["Mc"]] "" ""

def syllable (isOpen : Bool) : CharSet :=
  (List.range 399).map fun i =>
    let first := 0xAC00 + 28 * i
    if isOpen then (first, first) else (first + 1, first + 27)

def graphemeBreaks : List Value :=
  [⟨["control", "cn"], fun _ => combined [ofCategories ["Cc", "Cf", "Zl", "Zp"]]
      "2065 FFF0-FFF8 E0000 E0002-E001F E0080-E00FF E01F0-E0FFF"
      "A D 600-605 6DD 70F 890-891 8E2 200C-200D 110BD 110CD E0020-E007F"⟩,
    ⟨["cr"], fun _ => CharSet.parse "D"⟩,
    ⟨["extend", "ex"], fun _ => combined [Property.graphemeExtendSet] "1F3FB-1F3FF" ""⟩,
    ⟨["l"], fun _ => CharSet.parse "1100-115F A960-A97C"⟩,
    ⟨["lf"], fun _ => CharSet.parse "A"⟩,
    ⟨["lv"], fun _ => syllable true⟩,
    ⟨["lvt"], fun _ => syllable false⟩,
    ⟨["prepend", "pp"], fun _ => CharSet.parse
      "600-605 6DD 70F 890-891 8E2 D4E 110BD 110CD 111C2-111C3 1193F 11941 11A3A 11A84-11A89 11D46 11F02"⟩,
    ⟨["regionalindicator", "ri"], fun _ => CharSet.parse "1F1E6-1F1FF"⟩,
    ⟨["spacingmark", "sm"], fun _ => CharSet.diff (combined [ofCategories ["Mc"]] "E33 EB3"
        (String.intercalate " "
          ["102B-102C 1038 1062-1064 1067-106D 1083 1087-108C 108F 109A-109C 1A61 1A63-1A64 AA7B AA7D",
            "11720-11721"]))
      Property.graphemeExtendSet⟩,
    ⟨["t"], fun _ => CharSet.parse "11A8-11FF D7CB-D7FB"⟩,
    ⟨["v"], fun _ => CharSet.parse "1160-11A7 D7B0-D7C6"⟩,
    ⟨["zwj"], fun _ => CharSet.parse "200D"⟩]

def katakanaLetters : CharSet :=
  combined [(Script.find? "katakana").elim [] Script.set] "3031-3035 309B-309C 30A0 30FC FF70" ""

def hebrewLetters : CharSet :=
  CharSet.parse "5D0-5EA 5EF-5F2 FB1D FB1F-FB28 FB2A-FB36 FB38-FB3C FB3E FB40-FB41 FB43-FB44 FB46-FB4F"

def wordLetters : CharSet :=
  let letters := combined [Property.alphabeticSet]
    "2C2-2C5 2D2-2D7 2DE-2DF 2E5-2EB 2ED 2EF-2FF 55A-55C 55E 58A 5F3 A708-A716 A720-A721 A789-A78A AB5B"
    (String.intercalate " "
      ["E01-E30 E32-E33 E40-E46 E81-E82 E84 E86-E8A E8C-EA3 EA5 EA7-EB0 EB2-EB3 EBD EC0-EC4 EC6 EDC-EDF",
        "1000-102A 103F 1050-1055 105A-105D 1061 1065-1066 106E-1070 1075-1081 108E 1780-17B3 17D7 17DC",
        "1950-196D 1970-1974 1980-19AB 19B0-19C9 1A20-1A54 1AA7 A9E0-A9E4 A9E6-A9EF A9FA-A9FE AA60-AA76",
        "AA7A AA7E-AAAF AAB1 AAB5-AAB6 AAB9-AABD AAC0 AAC2 AADB-AADD 11700-1171A 11740-11746"])
  CharSet.diff letters (combined [CharSet.parse Property.ideographic, katakanaLetters, hebrewLetters, extendingSet,
    (Script.find? "hiragana").elim [] Script.set] "" "")

def wordBreaks : List Value :=
  [⟨["aletter", "le"], fun _ => wordLetters⟩,
    ⟨["cr"], fun _ => CharSet.parse "D"⟩,
    ⟨["doublequote", "dq"], fun _ => CharSet.parse "22"⟩,
    ⟨["extend"], fun _ => combined [extendingSet] "1F3FB-1F3FF" ""⟩,
    ⟨["extendnumlet", "ex"], fun _ => CharSet.parse "5F 202F 203F-2040 2054 FE33-FE34 FE4D-FE4F FF3F"⟩,
    ⟨["format", "fo"], fun _ => combined [ofCategories ["Cf"]] "" "200B-200D E0020-E007F"⟩,
    ⟨["hebrewletter", "hl"], fun _ => hebrewLetters⟩,
    ⟨["katakana", "ka"], fun _ => katakanaLetters⟩,
    ⟨["lf"], fun _ => CharSet.parse "A"⟩,
    ⟨["midletter", "ml"], fun _ => CharSet.parse "3A B7 387 55F 5F4 2027 FE13 FE55 FF1A"⟩,
    ⟨["midnum", "mn"], fun _ => CharSet.parse
      "2C 3B 37E 589 60C-60D 66C 7F8 2044 FE10 FE14 FE50 FE54 FF0C FF1B"⟩,
    ⟨["midnumlet", "mb"], fun _ => CharSet.parse "2E 2018-2019 2024 FE52 FF07 FF0E"⟩,
    ⟨["newline", "nl"], fun _ => CharSet.parse "B-C 85 2028-2029"⟩,
    ⟨["numeric", "nu"], fun _ => combined [digitSet] "66B" ""⟩,
    ⟨["regionalindicator", "ri"], fun _ => CharSet.parse "1F1E6-1F1FF"⟩,
    ⟨["singlequote", "sq"], fun _ => CharSet.parse "27"⟩,
    ⟨["wsegspace"], fun _ => CharSet.parse "20 1680 2000-2006 2008-200A 205F 3000"⟩,
    ⟨["zwj"], fun _ => CharSet.parse "200D"⟩]

def sentenceLower : CharSet :=
  CharSet.diff (combined [Property.lowercaseSet] "" "10D0-10FA 10FD-10FF") extendingSet

def sentenceUpper : CharSet :=
  combined [Property.uppercaseSet, ofCategories ["Lt"]] "" "1C90-1CBA 1CBD-1CBF"

def sentenceBreaks : List Value :=
  [⟨["aterm", "at"], fun _ => CharSet.parse "2E 2024 FE52 FF0E"⟩,
    ⟨["close", "cl"], fun _ => combined [ofCategories ["Ps", "Pe", "Pi", "Pf"]]
      "22 27 275B-2760 2E00-2E01 2E06-2E08 2E0B 1F676-1F678" ""⟩,
    ⟨["cr"], fun _ => CharSet.parse "D"⟩,
    ⟨["extend", "ex"], fun _ => combined [extendingSet] "200D" ""⟩,
    ⟨["format", "fo"], fun _ => combined [ofCategories ["Cf"]] "" "200C-200D E0020-E007F"⟩,
    ⟨["lf"], fun _ => CharSet.parse "A"⟩,
    ⟨["lower", "lo"], fun _ => sentenceLower⟩,
    ⟨["numeric", "nu"], fun _ => combined [digitSet] "66B-66C" ""⟩,
    ⟨["oletter", "le"], fun _ => CharSet.diff (combined [Property.alphabeticSet] "5F3" "")
      (combined [sentenceLower, sentenceUpper, extendingSet] "" "")⟩,
    ⟨["scontinue", "sc"], fun _ => CharSet.parse <| String.intercalate " "
      ["2C-2D 3A 55D 60C-60D 7F8 1802 1808 2013-2014 3001 FE10-FE11 FE13 FE31-FE32 FE50-FE51 FE55 FE58 FE63",
        "FF0C-FF0D FF1A FF64"]⟩,
    ⟨["sep", "se"], fun _ => CharSet.parse "85 2028-2029"⟩,
    ⟨["sp"], fun _ => combined [blankSet] "" "A D 85 2028-2029"⟩,
    ⟨["sterm", "st"], fun _ => combined [CharSet.parse Property.sentenceTerminals] "" "2E 2024 FE52 FF0E"⟩,
    ⟨["upper", "up"], fun _ => sentenceUpper⟩]

end Breaks

inductive NameError
  | property
  | value
deriving Repr, DecidableEq

def emptyNames : List String :=
  ["surrogate", "cs", "unknown", "zzzz", "katakanaorhiragana", "hrkt"]

def namedSet (name : String) : Except NameError CharSet :=
  let n := looseName name
  match Value.find? properties n <|> categorySet? n <|> (Script.find? n).map Script.set with
  | some s => .ok s
  | none => .error (if emptyNames.contains n then .value else .property)

def valuesOf? (property : String) : Option (String → Option CharSet) :=
  match property with
  | "generalcategory" | "gc" => some categorySet?
  | "script" | "sc" => some fun v => (Script.find? v).map Script.set
  | "scriptextensions" | "scx" => some fun v => (Script.find? v).map Script.extensions
  | "age" => some Age.upTo?
  | "graphemeclusterbreak" | "gcb" => some (Value.find? graphemeBreaks)
  | "wordbreak" | "wb" => some (Value.find? wordBreaks)
  | "sentencebreak" | "sb" => some (Value.find? sentenceBreaks)
  | n => if isProperty n then some fun _ => none else none

def valueSet (name value : String) : Except NameError CharSet :=
  match valuesOf? (looseName name) with
  | none => .error .property
  | some values =>
    match values (looseName value) with
    | some s => .ok s
    | none => .error .value

end ItemPipeline.Unicode
