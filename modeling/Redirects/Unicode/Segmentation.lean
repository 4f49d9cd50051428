import Redirects.Unicode.Property
import Redirects.Unicode.Script

/-!
# Boundaries in text

The classes of characters by which text is cut into clusters, words and sentences. The same names
stand for different sets in the three, so each has its own table; names are those by which patterns
ask, as they are compared.
-/

namespace Redirects.Unicode

/-- The precomposed Hangul syllables without a final consonant. -/
def openSyllables : CharSet := .ofLines ["AC00-D788/1C"]

/-- Characters that continue a cluster. -/
def clusterExtend : CharSet := graphemeExtend.union (listed "emod")

/-- The classes of clusters. -/
def clusterClass? : String → Option CharSet
  | "cr" => some (.ofLines ["D"])
  | "lf" => some (.ofLines ["A"])
  | "zwj" => some (.ofLines ["200D"])
  | "cn" | "control" =>
    some (.ofLines
      ["0-9 B-C E-1F 7F-9F AD 61C 180E 200B 200E-200F 2028-202E 2060-206F FEFF FFF0-FFFB",
       "13430-1343F 1BCA0-1BCA3 1D173-1D17A E0000-E001F E0080-E00FF E01F0-E0FFF"])
  | "ex" | "extend" => some clusterExtend
  | "pp" | "prepend" =>
    some ((listed "pcm").union
      (.ofLines ["D4E 111C2-111C3 113D1 1193F 11941 11A3A 11A84-11A89 11D46 11F02"]))
  | "sm" | "spacingmark" =>
    some ((Category.spacingMark.set.union (.ofLines ["E33 EB3"])).diff
      (clusterExtend.union (.ofLines
        ["102B-102C 1038 1062-1064 1067-106D 1083 1087-108C 108F 109A-109C 1A61 1A63-1A64 AA7B",
         "AA7D 11720-11721"])))
  | "regionalindicator" | "ri" => some (listed "ri")
  | "l" => some (.ofLines ["1100-115F A960-A97C"])
  | "v" => some (.ofLines ["1160-11A7 D7B0-D7C6 16D63 16D67-16D6A"])
  | "t" => some (.ofLines ["11A8-11FF D7CB-D7FB"])
  | "lv" => some openSyllables
  | "lvt" => some ((CharSet.ofLines ["AC00-D7A3"]).diff openSyllables)
  | _ => none

/-- The characters of the script of a name. -/
def scriptSet (name : String) : CharSet := ((scriptNamed? name).map (·.set)).getD .empty

/-- Katakana and what joins it. -/
def wordKatakana : CharSet := .ofLines
  ["3031-3035 309B-309C 30A0-30FA 30FC-30FF 31F0-31FF 32D0-32FE 3300-3357 FF66-FF9D",
   "1AFF0-1AFF3 1AFF5-1AFFB 1AFFD-1AFFE 1B000 1B120-1B122 1B155 1B164-1B167"]

/-- The letters of Hebrew. -/
def hebrewLetter : CharSet := (scriptSet "hebr").inter Category.otherLetter.set

/-- Letters of words in scripts that separate them by blanks. -/
def wordLetter : CharSet :=
  (alphabetic.union (.ofLines
    ["2C2-2C5 2D2-2D7 2DE-2DF 2E5-2EB 2ED 2EF-2FF 55A-55C 55E 58A 5F3 70F A708-A716 A720-A721",
     "A789-A78A AB5B"])).diff
    (.unionAll [listed "ideo", wordKatakana, graphemeExtend, Category.spacingMark.set, hebrewLetter,
      scriptSet "thai", scriptSet "lao", scriptSet "hira",
      .ofLines
        ["1000-102A 103F 1050-1055 105A-105D 1061 1065-1066 106E-1070 1075-1081 108E 1780-17B3",
         "17D7 17DC 1950-196D 1970-1974 1980-19AB 19B0-19C9 1A20-1A54 1AA7 A9E0-A9E4 A9E6-A9EF",
         "A9FA-A9FE AA60-AA76 AA7A AA7E-AAAF AAB1 AAB5-AAB6 AAB9-AABD AAC0 AAC2 AADB-AADD",
         "11700-1171A 11740-11746"]])

/-- Decimal digits and what stands among them. -/
def wordNumeric : CharSet :=
  Category.decimalNumber.set.union (.ofLines ["600-605 66B 6DD 890-891 8E2 19DA 110BD 110CD"])

/-- The classes of words. -/
def wordClass? : String → Option CharSet
  | "cr" => some (.ofLines ["D"])
  | "lf" => some (.ofLines ["A"])
  | "zwj" => some (.ofLines ["200D"])
  | "newline" | "nl" => some (.ofLines ["B-C 85 2028-2029"])
  | "singlequote" | "sq" => some (.ofLines ["27"])
  | "doublequote" | "dq" => some (.ofLines ["22"])
  | "wsegspace" => some (.ofLines ["20 1680 2000-2006 2008-200A 205F 3000"])
  | "extend" =>
    some (.unionAll [graphemeExtend, Category.spacingMark.set, listed "emod"])
  | "ex" | "extendnumlet" =>
    some (Category.connectorPunctuation.set.union (.ofLines ["202F"]))
  | "fo" | "format" =>
    some (Category.format.set.diff
      (.ofLines ["600-605 6DD 70F 890-891 8E2 200B-200D 110BD 110CD E0020-E007F"]))
  | "hebrewletter" | "hl" => some hebrewLetter
  | "ka" | "katakana" => some wordKatakana
  | "aletter" | "le" => some wordLetter
  | "midletter" | "ml" => some (.ofLines ["3A B7 387 55F 5F4 2027 FE13 FE55 FF1A"])
  | "midnum" | "mn" =>
    some (.ofLines ["2C 3B 37E 589 60C-60D 66C 7F8 2044 FE50 FE54 FF0C FF1B"])
  | "mb" | "midnumlet" => some (.ofLines ["2E 2018-2019 2024 FE52 FF07 FF0E"])
  | "nu" | "numeric" => some wordNumeric
  | "regionalindicator" | "ri" => some (listed "ri")
  | _ => none

/-- Characters that continue a sentence's character. -/
def sentenceExtend : CharSet :=
  .unionAll [graphemeExtend, Category.spacingMark.set, .ofLines ["200D"]]

/-- Small letters of sentences. -/
def sentenceLower : CharSet :=
  lowercase.diff (graphemeExtend.union (.ofLines ["10D0-10FA 10FD-10FF"]))

/-- Capital letters of sentences. -/
def sentenceUpper : CharSet :=
  (uppercase.union Category.titlecaseLetter.set).diff (.ofLines ["1C90-1CBA 1CBD-1CBF"])

/-- Full stops. -/
def fullStop : CharSet := .ofLines ["2E 2024 FE52 FF0E"]

/-- The classes of sentences. -/
def sentenceClass? : String → Option CharSet
  | "cr" => some (.ofLines ["D"])
  | "lf" => some (.ofLines ["A"])
  | "se" | "sep" => some (.ofLines ["85 2028-2029"])
  | "sp" => some (whiteSpace.diff (.ofLines ["A D 85 2028-2029"]))
  | "at" | "aterm" => some fullStop
  | "st" | "sterm" => some ((listed "sterm").diff fullStop)
  | "sc" | "scontinue" =>
    some (.ofLines
      ["2C-2D 3A-3B 37E 55D 60C-60D 7F8 1802 1808 2013-2014 3001 FE10-FE11 FE13-FE14 FE31-FE32",
       "FE50-FE51 FE54-FE55 FE58 FE63 FF0C-FF0D FF1A-FF1B FF64"])
  | "cl" | "close" =>
    some ((CharSet.unionAll
      [Category.openPunctuation.set, Category.closePunctuation.set,
       Category.initialPunctuation.set, Category.finalPunctuation.set, listed "qmark",
       .ofLines ["275B-2760 2E00-2E01 2E06-2E08 2E0B 1F676-1F678"]]).diff
      (.ofLines ["FF02 FF07"]))
  | "ex" | "extend" => some sentenceExtend
  | "fo" | "format" =>
    some (Category.format.set.diff
      (.ofLines ["600-605 6DD 890-891 8E2 200C-200D 110BD 110CD E0020-E007F"]))
  | "lo" | "lower" => some sentenceLower
  | "up" | "upper" => some sentenceUpper
  | "le" | "oletter" =>
    some ((alphabetic.union (.ofLines ["5F3"])).diff
      (.unionAll [sentenceLower, sentenceUpper, sentenceExtend]))
  | "nu" | "numeric" => some (wordNumeric.union (.ofLines ["66C"]))
  | _ => none

end Redirects.Unicode
