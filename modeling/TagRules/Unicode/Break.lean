import TagRules.Unicode.Script
import TagRules.Unicode.Usage

/-!
# Classes of text division

The classes of characters by which a text is divided into what a reader takes for characters, into
words and into sentences, in version 16.0 of the Unicode tables. A character that no class of a
division holds belongs to the rest.

* `clusterBreaks`, `wordBreaks`, `sentenceBreaks`: the classes of each division, with their names.
-/

namespace TagRules.Unicode

open CharSet (ofHex)

/-- The characters of a script. -/
def ofScript (name : String) : CharSet :=
  ((scripts.find? fun entry => entry.1 = name).map (·.2.2)).getD .empty

/-! ## Characters as readers take them -/

/-- The carriage return. -/
def carriageReturn : CharSet := ofHex "D"

/-- The line feed. -/
def lineFeed : CharSet := ofHex "A"

/-- The joiner that takes no space. -/
def zeroWidthJoiner : CharSet := ofHex "200D"

/-- What stands by itself and does not show. -/
def clusterControl : CharSet :=
  (CharSet.unions [lineSeparator, paragraphSeparator, control, format,
    unassigned.inter defaultIgnorable]).diff
    (.unions [carriageReturn, lineFeed, zeroWidthJoiner, prependedConcatenationMark, graphemeExtend])

/-- What extends the character before it. -/
def clusterExtend : CharSet :=
  graphemeExtend.union emojiModifier

/-- Marks that take space and belong to the character before them. -/
def clusterSpacingMark : CharSet :=
  ((spacingMark.diff graphemeExtend).union (ofHex "E33 EB3")).diff
    (ofHex "
      102B-102C 1038 1062-1064 1067-106D 1083 1087-108C 108F 109A-109C 1A61 1A63-1A64 AA7B AA7D
      11720-11721")

/-- What belongs to the character after it. -/
def clusterPrepend : CharSet :=
  prependedConcatenationMark.union (ofHex "
    D4E 111C2-111C3 113D1 1193F 11941 11A3A 11A84-11A89 11D46 11F02")

/-- Consonants that begin a syllable. -/
def leadingConsonant : CharSet := ofHex "1100-115F A960-A97C"

/-- Vowels of a syllable. -/
def syllableVowel : CharSet := ofHex "1160-11A7 D7B0-D7C6 16D63 16D67-16D6A"

/-- Consonants that end a syllable. -/
def trailingConsonant : CharSet := ofHex "11A8-11FF D7CB-D7FB"

/-- Syllables without a consonant at their end: every 28th one. -/
def openSyllable : CharSet :=
  ⟨(List.range 399).map fun i => (0xAC00 + 28 * i, 0xAC00 + 28 * i)⟩

/-- Syllables with a consonant at their end. -/
def closedSyllable : CharSet := (CharSet.range 0xAC00 0xD7A3).diff openSyllable

/-- The classes of characters as readers take them, each with its names. -/
def clusterBreaks : List (List String × CharSet) :=
  [(["cr"], carriageReturn), (["lf"], lineFeed), (["control", "cn"], clusterControl),
    (["extend", "ex"], clusterExtend), (["zwj"], zeroWidthJoiner),
    (["regionalindicator", "ri"], regionalIndicator), (["prepend", "pp"], clusterPrepend),
    (["spacingmark", "sm"], clusterSpacingMark), (["l"], leadingConsonant), (["v"], syllableVowel),
    (["t"], trailingConsonant), (["lv"], openSyllable), (["lvt"], closedSyllable)]

/-! ## Words -/

/-- Further ends of lines. -/
def newline : CharSet := ofHex "B-C 85 2028-2029"

/-- The double quotation mark. -/
def doubleQuote : CharSet := ofHex "22"

/-- The apostrophe. -/
def singleQuote : CharSet := ofHex "27"

/-- Punctuation inside words. -/
def midLetter : CharSet := ofHex "3A B7 387 55F 5F4 2027 FE13 FE55 FF1A"

/-- Punctuation inside numbers. -/
def midNumber : CharSet := ofHex "2C 3B 37E 589 60C-60D 66C 7F8 2044 FE50 FE54 FF0C FF1B"

/-- Punctuation inside words and numbers. -/
def midNumberOrLetter : CharSet := ofHex "2E 2018-2019 2024 FE52 FF07 FF0E"

/-- Connectors of words and numbers. -/
def wordConnector : CharSet := ofHex "5F 202F 203F-2040 2054 FE33-FE34 FE4D-FE4F FF3F"

/-- What extends the character before it. -/
def wordExtend : CharSet :=
  .unions [graphemeExtend, spacingMark, emojiModifier]

/-- Digits and signs of numbers. -/
def wordNumeric : CharSet :=
  decimalNumber.union (ofHex "600-605 66B 6DD 890-891 8E2 19DA 110BD 110CD")

/-- Characters that words are read across. -/
def wordFormat : CharSet :=
  format.diff (.unions [wordExtend, wordNumeric, zeroWidthJoiner, ofHex "70F 200B"])

/-- Letters of the Hebrew script. -/
def hebrewLetter : CharSet :=
  (ofScript "hebrew").inter otherLetter

/-- Signs of the Katakana script. -/
def katakana : CharSet :=
  (ofScript "katakana").union (ofHex "3031-3035 309B-309C 30A0 30FC FF70")

/-- Letters of scripts that set blanks between words. -/
def wordLetter : CharSet :=
  ((alphabetic.diff (.unions ([ideographic, wordExtend, hebrewLetter, katakana] ++
    ["hiragana", "thai", "lao", "khmer", "myanmar"].map ofScript))).union
    (ofHex "
      2C2-2C5 2D2-2D7 2DE-2DF 2E5-2EB 2ED 2EF-2FF 55A-55C 55E 58A 5F3 70F A708-A716 A720-A721
      A789-A78A AB5B")).diff
    (ofHex "
      1950-196D 1970-1974 1980-19AB 19B0-19C9 1A20-1A54 1AA7 AA80-AAAF AAB1 AAB5-AAB6 AAB9-AABD AAC0
      AAC2 AADB-AADD 11700-1171A 11740-11746")

/-- Blanks between words. -/
def wordSpace : CharSet :=
  spaceSeparator.diff (ofHex "A0 2007 202F")

/-- The classes of words, each with its names. -/
def wordBreaks : List (List String × CharSet) :=
  [(["cr"], carriageReturn), (["lf"], lineFeed), (["newline", "nl"], newline),
    (["extend"], wordExtend), (["zwj"], zeroWidthJoiner), (["format", "fo"], wordFormat),
    (["regionalindicator", "ri"], regionalIndicator), (["katakana", "ka"], katakana),
    (["hebrewletter", "hl"], hebrewLetter), (["aletter", "le"], wordLetter),
    (["singlequote", "sq"], singleQuote), (["doublequote", "dq"], doubleQuote),
    (["midnumlet", "mb"], midNumberOrLetter), (["midletter", "ml"], midLetter),
    (["midnum", "mn"], midNumber), (["numeric", "nu"], wordNumeric),
    (["extendnumlet", "ex"], wordConnector), (["wsegspace"], wordSpace)]

/-! ## Sentences -/

/-- Ends of paragraphs. -/
def paragraphEnd : CharSet := ofHex "85 2028-2029"

/-- Full stops. -/
def sentenceStop : CharSet := ofHex "2E 2024 FE52 FF0E"

/-- Punctuation inside sentences. -/
def sentenceContinue : CharSet := ofHex "
  2C-2D 3A-3B 37E 55D 60C-60D 7F8 1802 1808 2013-2014 3001 FE10-FE11 FE13-FE14 FE31-FE32 FE50-FE51
  FE54-FE55 FE58 FE63 FF0C-FF0D FF1A-FF1B FF64"

/-- What extends the character before it. -/
def sentenceExtend : CharSet :=
  .unions [graphemeExtend, spacingMark, zeroWidthJoiner]

/-- Digits and signs of numbers. -/
def sentenceNumeric : CharSet :=
  wordNumeric.union (ofHex "66C")

/-- Characters that sentences are read across. -/
def sentenceFormat : CharSet :=
  format.diff (sentenceExtend.union sentenceNumeric)

/-- Blanks inside sentences. -/
def sentenceSpace : CharSet :=
  whiteSpace.diff (.unions [carriageReturn, lineFeed, paragraphEnd])

/-- Small letters. -/
def sentenceLower : CharSet :=
  (lowercase.diff sentenceExtend).diff (ofHex "10D0-10FA 10FD-10FF")

/-- Capital letters. -/
def sentenceUpper : CharSet :=
  (uppercase.union titlecaseLetter).diff (ofHex "1C90-1CBA 1CBD-1CBF")

/-- Letters without case. -/
def sentenceLetter : CharSet :=
  (alphabetic.diff (.unions [sentenceLower, sentenceUpper, sentenceExtend])).union
    (ofHex "5F3")

/-- Ends of sentences that are no full stops. -/
def sentenceEnd : CharSet :=
  sentenceTerminal.diff sentenceStop

/-- Brackets and quotation marks. -/
def sentenceClose : CharSet :=
  .unions [openPunctuation, closePunctuation, initialPunctuation, finalPunctuation,
    ofHex "22 27 275B-2760 2E00-2E01 2E06-2E08 2E0B 1F676-1F678"]

/-- The classes of sentences, each with its names. -/
def sentenceBreaks : List (List String × CharSet) :=
  [(["cr"], carriageReturn), (["lf"], lineFeed), (["extend", "ex"], sentenceExtend),
    (["sep", "se"], paragraphEnd), (["format", "fo"], sentenceFormat), (["sp"], sentenceSpace),
    (["lower", "lo"], sentenceLower), (["upper", "up"], sentenceUpper),
    (["oletter", "le"], sentenceLetter), (["numeric", "nu"], sentenceNumeric),
    (["aterm", "at"], sentenceStop), (["scontinue", "sc"], sentenceContinue),
    (["sterm", "st"], sentenceEnd), (["close", "cl"], sentenceClose)]

end TagRules.Unicode
