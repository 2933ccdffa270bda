import TokenGrammar.Text.BinaryProperty
import TokenGrammar.Text.Script

/-!
# Boundaries in text

The part that a character plays where a text is cut into the characters that a reader sees, into
words and into sentences. Each table gives the characters with a part by the names of that part.
-/

namespace TokenGrammar.Text

/-! ## Characters as seen -/

/-- The characters that stay with what is in front of them. -/
def clusterExtend : CharSet := graphemeExtend.union emojiModifier

/-- The characters that stay with what follows them. -/
def clusterPrepend : CharSet := prependedConcatenationMark.union
  (.ofRanges "D4E 111C2-111C3 113D1 1193F 11941 11A3A 11A84-11A89 11D46 11F02")

/-- The vowels and final consonants that form syllables of a Hangul kind. -/
def clusterVowels : CharSet := .ofRanges "1160-11A7 D7B0-D7C6 16D63 16D67-16D6A"

/-- The parts in the characters that a reader sees. -/
def graphemeBreaks : List (List String × Thunk CharSet) :=
  [(["cr"], ⟨fun _ => .ofRanges "D"⟩),
    (["lf"], ⟨fun _ => .ofRanges "A"⟩),
    (["zwj"], ⟨fun _ => .ofRanges "200D"⟩),
    (["extend", "ex"], ⟨fun _ => clusterExtend⟩),
    (["prepend", "pp"], ⟨fun _ => clusterPrepend⟩),
    (["control", "cn"], ⟨fun _ =>
      ((categorySet fun k =>
          k = .lineSeparator || k = .paragraphSeparator || k = .control || k = .format).union
        (defaultIgnorable.inter (categorySet (· = .unassigned)))).diff
      (.unions [clusterExtend, clusterPrepend, .ofRanges "A D 200D"])⟩),
    (["regionalindicator", "ri"], ⟨fun _ => regionalIndicator⟩),
    (["spacingmark", "sm"], ⟨fun _ =>
      ((categorySet (· = .spacingMark)).union (.ofRanges "E33 EB3")).diff
        (.unions [clusterExtend, clusterPrepend, clusterVowels, .ofRanges
          "102B-102C 1038 1062-1064 1067-106D 1083 1087-108C 108F 109A-109C 1A61 1A63-1A64 AA7B
           AA7D 11720-11721"])⟩),
    (["l"], ⟨fun _ => .ofRanges "1100-115F A960-A97C"⟩),
    (["v"], ⟨fun _ => clusterVowels⟩),
    (["t"], ⟨fun _ => .ofRanges "11A8-11FF D7CB-D7FB"⟩),
    (["lv"], ⟨fun _ =>
      .ofPairs ((List.range 399).map fun k => (0xAC00 + 28 * k, 0xAC00 + 28 * k))⟩),
    (["lvt"], ⟨fun _ =>
      .ofPairs ((List.range 399).map fun k => (0xAC01 + 28 * k, 0xAC1B + 28 * k))⟩)]

/-! ## Words -/

/-- The characters that stay with the letter in front of them. -/
def wordExtend : CharSet :=
  .unions [graphemeExtend, emojiModifier, categorySet (· = .spacingMark)]

/-- The digits, and the marks that stand in front of digits. -/
def wordNumeric : CharSet := .unions
  [categorySet (· = .decimalNumber), prependedConcatenationMark.diff (.ofRanges "70F"),
    .ofRanges "66B"]

/-- The signs of the Katakana kind. -/
def wordKatakana : CharSet :=
  ((scriptSet "Kana").union (.ofRanges "3031-3035 309B-309C 30A0 30FC FF70")).diff wordExtend

/-- The letters of the Hebrew script. -/
def wordHebrew : CharSet := (scriptSet "Hebr").inter (categorySet (· = .otherLetter))

/-- The characters that are alphabetic, but do not join to words of letters: those of scripts
without blanks between words. Ideographs do not join either. -/
def unspacedLetters : CharSet := .ofRanges
  "E01-E30 E32-E33 E40-E46 E81-E82 E84 E86-E8A E8C-EA3 EA5 EA7-EB0 EB2-EB3 EBD EC0-EC4 EC6 EDC-EDF
   1000-102A 103F 1050-1055 105A-105D 1061 1065-1066 106E-1070 1075-1081 108E 1780-17B3 17D7 17DC
   1950-196D 1970-1974 1980-19AB 19B0-19C9 1A20-1A54 1AA7 3041-3096 309D-309F A9E0-A9E4 A9E6-A9EF
   A9FA-A9FE AA60-AA76 AA7A AA7E-AAAF AAB1 AAB5-AAB6 AAB9-AABD AAC0 AAC2 AADB-AADD 11700-1171A
   11740-11746 1B001-1B11F 1B132 1B150-1B152"

/-- The parts in words. -/
def wordBreaks : List (List String × Thunk CharSet) :=
  [(["cr"], ⟨fun _ => .ofRanges "D"⟩),
    (["lf"], ⟨fun _ => .ofRanges "A"⟩),
    (["zwj"], ⟨fun _ => .ofRanges "200D"⟩),
    (["newline", "nl"], ⟨fun _ => .ofRanges "B-C 85 2028-2029"⟩),
    (["extend"], ⟨fun _ => wordExtend⟩),
    (["regionalindicator", "ri"], ⟨fun _ => regionalIndicator⟩),
    (["katakana", "ka"], ⟨fun _ => wordKatakana⟩),
    (["hebrewletter", "hl"], ⟨fun _ => wordHebrew⟩),
    (["singlequote", "sq"], ⟨fun _ => .ofRanges "27"⟩),
    (["doublequote", "dq"], ⟨fun _ => .ofRanges "22"⟩),
    (["midnumlet", "mb"], ⟨fun _ => .ofRanges "2E 2018-2019 2024 FE52 FF07 FF0E"⟩),
    (["midletter", "ml"], ⟨fun _ => .ofRanges "3A B7 387 55F 5F4 2027 FE13 FE55 FF1A"⟩),
    (["midnum", "mn"], ⟨fun _ => .ofRanges
      "2C 3B 37E 589 60C-60D 66C 7F8 2044 FE10 FE14 FE50 FE54 FF0C FF1B"⟩),
    (["numeric", "nu"], ⟨fun _ => wordNumeric⟩),
    (["format", "fo"], ⟨fun _ =>
      (categorySet (· = .format)).diff
        (.unions [wordExtend, prependedConcatenationMark, .ofRanges "200B 200D"])⟩),
    (["extendnumlet", "ex"], ⟨fun _ =>
      (categorySet (· = .connectorPunctuation)).union (.ofRanges "202F")⟩),
    (["wsegspace"], ⟨fun _ => .ofRanges "20 1680 2000-2006 2008-200A 205F 3000"⟩),
    (["aletter", "le"], ⟨fun _ =>
      (alphabetic.union (.ofRanges
        "2C2-2C5 2D2-2D7 2DE-2DF 2E5-2EB 2ED 2EF-2FF 55A-55C 55E 58A 5F3
         70F A708-A716 A720-A721 A789-A78A AB5B")).diff
      (.unions [wordExtend, wordNumeric, categorySet (· = .connectorPunctuation), wordHebrew,
        wordKatakana, ideographic, unspacedLetters])⟩)]

/-! ## Sentences -/

/-- The characters that stay with the one in front of them. -/
def sentenceExtend : CharSet :=
  .unions [graphemeExtend, categorySet (· = .spacingMark), .ofRanges "200D"]

/-- The small letters; the Georgian ones begin sentences as well. -/
def sentenceLower : CharSet :=
  lowercase.diff (sentenceExtend.union (.ofRanges "10D0-10FA 10FD-10FF"))

/-- The capital letters; the Georgian ones do not begin sentences. -/
def sentenceUpper : CharSet :=
  (uppercase.union (categorySet (· = .titlecaseLetter))).diff
    (sentenceExtend.union (.ofRanges "1C90-1CBA 1CBD-1CBF"))

/-- The parts in sentences. -/
def sentenceBreaks : List (List String × Thunk CharSet) :=
  [(["cr"], ⟨fun _ => .ofRanges "D"⟩),
    (["lf"], ⟨fun _ => .ofRanges "A"⟩),
    (["sep", "se"], ⟨fun _ => .ofRanges "85 2028-2029"⟩),
    (["extend", "ex"], ⟨fun _ => sentenceExtend⟩),
    (["format", "fo"], ⟨fun _ => (categorySet (· = .format)).diff sentenceExtend⟩),
    (["sp"], ⟨fun _ => whiteSpace.diff (.ofRanges "A D 85 2028-2029")⟩),
    (["lower", "lo"], ⟨fun _ => sentenceLower⟩),
    (["upper", "up"], ⟨fun _ => sentenceUpper⟩),
    (["numeric", "nu"], ⟨fun _ => (categorySet (· = .decimalNumber)).union (.ofRanges "66B-66C")⟩),
    (["oletter", "le"], ⟨fun _ =>
      (alphabetic.union (.ofRanges "5F3")).diff
        (.unions [sentenceExtend, sentenceLower, sentenceUpper])⟩),
    (["aterm", "at"], ⟨fun _ => .ofRanges "2E 2024 FE52 FF0E"⟩),
    (["sterm", "st"], ⟨fun _ => .ofRanges
      "21 3F 589 61D-61F 6D4 700-702 7F9 837 839 83D-83E 964-965 104A-104B 1362 1367-1368 166E
       1735-1736 17D4-17D5 1803 1809 1944-1945 1AA8-1AAB 1B4E-1B4F 1B5A-1B5B 1B5E-1B5F 1B7D-1B7F
       1C3B-1C3C 1C7E-1C7F 203C-203D 2047-2049 2CF9-2CFB 2E2E 2E3C 2E53-2E54 3002 A4FF A60E-A60F
       A6F3 A6F7 A876-A877 A8CE-A8CF A92F A9C8-A9C9 AA5D-AA5F AAF0-AAF1 ABEB FE12 FE15-FE16
       FE56-FE57 FF01 FF1F FF61 10A56-10A57 10F55-10F59 10F86-10F89 11047-11048 110BE-110C1
       11141-11143 111C5-111C6 111CD 111DE-111DF 11238-11239 1123B-1123C 112A9 113D4-113D5
       1144B-1144C 115C2-115C3 115C9-115D7 11641-11642 1173C-1173E 11944 11946 11A42-11A43
       11A9B-11A9C 11C41-11C42 11EF7-11EF8 11F43-11F44 16A6E-16A6F 16AF5 16B37-16B38 16B44
       16D6E-16D6F 16E98 1BC9F 1DA88"⟩),
    (["scontinue", "sc"], ⟨fun _ => .ofRanges
      "2C-2D 3A-3B 37E 55D 60C-60D 7F8 1802 1808 2013-2014 3001 FE10-FE11 FE13-FE14 FE31-FE32
       FE50-FE51 FE54-FE55 FE58 FE63 FF0C-FF0D FF1A-FF1B FF64"⟩),
    (["close", "cl"], ⟨fun _ => .ofRanges
      "22 27-29 5B 5D 7B 7D AB BB F3A-F3D 169B-169C 2018-201F 2039-203A 2045-2046 207D-207E
       208D-208E 2308-230B 2329-232A 275B-2760 2768-2775 27C5-27C6 27E6-27EF 2983-2998 29D8-29DB
       29FC-29FD 2E00-2E0D 2E1C-2E1D 2E20-2E29 2E42 2E55-2E5C 3008-3011 3014-301B 301D-301F
       FD3E-FD3F FE17-FE18 FE35-FE44 FE47-FE48 FE59-FE5E FF08-FF09 FF3B FF3D FF5B FF5D FF5F-FF60
       FF62-FF63 1F676-1F678"⟩)]

end TokenGrammar.Text
