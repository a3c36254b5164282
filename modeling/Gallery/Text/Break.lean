import Gallery.Text.Property
import Gallery.Text.Script

/-!
# Breaks in texts

The classes of characters that decide where the text between two breaks ends, for breaks between
the characters as a reader sees them, between words and between sentences, as of Unicode 16.
-/

namespace Gallery.Text

namespace Boundary

/-- The characters of a script. -/
def scriptNamed (name : String) : CharClass :=
  .unionOf ((scriptClasses.filter (·.names.contains name)).map (·.characters))

/-- The joiner of zero width. -/
def joiner : CharClass :=
  .set (.ofText "200D")

/-! ### Characters as a reader sees them -/

/-- Characters that extend the one before them. -/
def graphemeExtend : CharClass :=
  .union Property.graphemeExtend (.set Property.emojiModifier)

/-- Characters that stand apart from all others. -/
def graphemeControl : CharClass :=
  .diff
    (.unionOf [Category.union [.lineSeparator, .paragraphSeparator],
      .diff (Category.union [.control]) (.set (.ofText "A D")),
      .diff (Category.union [.format])
        (.union (.set (.ofText "200C-200D")) (.set Property.prependedConcatenationMark)),
      .inter Category.unassigned Property.defaultIgnorableCodePoint])
    graphemeExtend

/-- Letters that belong to the character behind them. -/
def letterBefore : CharSet :=
  .ofText "D4E 111C2-111C3 113D1 1193F 11941 11A3A 11A84-11A89 11D46 11F02"

/-- Spacing marks that stand for themselves. -/
def widthMark : CharSet :=
  .ofText "
    102B-102C 1038 1062-1064 1067-106D 1083 1087-108C 108F 109A-109C 1A61 1A63-1A64 AA7B AA7D
    11720-11721"

/-- Characters that belong to the character behind them. -/
def graphemePrepend : CharClass :=
  .union (.set Property.prependedConcatenationMark) (.set letterBefore)

/-- Marks with a width of their own that belong to the character before them. -/
def graphemeSpacingMark : CharClass :=
  .union (.diff (Category.union [.spacingMark]) (.union graphemeExtend (.set widthMark)))
    (.set (.ofText "E33 EB3"))

/-- The Korean syllables without a final consonant, of which every 28th syllable is one. -/
def openSyllables : CharSet :=
  ⟨(List.range 399).map fun i => (0xAC00 + 28 * i, 0xAC00 + 28 * i)⟩

/-- The Korean syllables with a final consonant. -/
def closedSyllables : CharSet :=
  ⟨(List.range 399).map fun i => (0xAC00 + 28 * i + 1, 0xAC00 + 28 * i + 27)⟩

/-! ### Words -/

/-- Characters that extend the one before them, with a width of their own or without. -/
def wordExtend : CharClass :=
  .unionOf [Property.graphemeExtend, Category.union [.spacingMark], .set Property.emojiModifier]

/-- Characters that do not matter for words. -/
def wordFormat : CharClass :=
  .diff (Category.union [.format]) (.union (.set (.ofText "200B-200D")) wordExtend)

/-- Letters of Katakana, and signs between them. -/
def wordKatakana : CharClass :=
  .union (scriptNamed "Katakana") (.set (.ofText "3031-3035 309B-309C 30A0 30FC FF70"))

/-- Letters of Hebrew. -/
def wordHebrew : CharClass :=
  .inter (scriptNamed "Hebrew") (Category.union [.otherLetter])

/-- Letters of scripts that are written without blanks between words. -/
def unspacedLetters : CharSet :=
  .ofText "
    E01-E30 E32-E33 E40-E46 E81-E82 E84 E86-E8A E8C-EA3 EA5 EA7-EB0 EB2-EB3 EBD EC0-EC4 EC6
    EDC-EDF 1000-102A 103F 1050-1055 105A-105D 1061 1065-1066 106E-1070 1075-1081 108E 1780-17B3
    17D7 17DC 1950-196D 1970-1974 1980-19AB 19B0-19C9 1A20-1A54 1AA7 A9E0-A9E4 A9E6-A9EF
    A9FA-A9FE AA60-AA76 AA7A AA7E-AAAF AAB1 AAB5-AAB6 AAB9-AABD AAC0 AAC2 AADB-AADD 11700-1171A
    11740-11746"

/-- Signs that count as letters of words. -/
def wordMarks : CharSet :=
  .ofText "
    2C2-2C5 2D2-2D7 2DE-2DF 2E5-2EB 2ED 2EF-2FF 55A-55C 55E 58A 5F3 A708-A716 A720-A721
    A789-A78A AB5B"

/-- Letters of words. -/
def wordLetter : CharClass :=
  .union (.set wordMarks)
    (.diff Property.alphabetic
      (.unionOf [.set Property.ideographic, wordKatakana, .set unspacedLetters,
        scriptNamed "Hiragana", wordExtend, wordHebrew]))

/-! ### Sentences -/

/-- Characters that belong to the one before them. -/
def sentenceExtend : CharClass :=
  .unionOf [Property.graphemeExtend, Category.union [.spacingMark], joiner]

/-- Characters that do not matter for sentences. -/
def sentenceFormat : CharClass :=
  .diff (Category.union [.format]) (.union (.set (.ofText "200C-200D")) sentenceExtend)

/-- Lower-case letters. -/
def sentenceLower : CharClass :=
  .diff Property.lowercase (.union Property.graphemeExtend (.set (.ofText "10D0-10FA 10FD-10FF")))

/-- Upper-case letters. -/
def sentenceUpper : CharClass :=
  .diff (.union (Category.union [.titlecaseLetter]) Property.uppercase)
    (.set (.ofText "1C90-1CBA 1CBD-1CBF"))

/-- Letters without case. -/
def sentenceLetter : CharClass :=
  .diff (.union Property.alphabetic (.set (.ofText "5F3")))
    (.unionOf [sentenceLower, sentenceUpper, sentenceExtend])

/-- Full stops, which do not always end a sentence. -/
def sentenceStop : CharSet :=
  .ofText "2E 2024 FE52 FF0E"

/-- Signs within sentences. -/
def sentenceContinue : CharSet :=
  .ofText "
    2C-2D 3A 55D 60C-60D 7F8 1802 1808 2013-2014 3001 FE10-FE11 FE13 FE31-FE32 FE50-FE51 FE55
    FE58 FE63 FF0C-FF0D FF1A FF64"

/-- Brackets and quotation marks. -/
def sentenceClose : CharClass :=
  .union
    (Category.union
      [.openPunctuation, .closePunctuation, .initialPunctuation, .finalPunctuation])
    (.set (.ofText "22 27 275B-2760 2E00-2E01 2E06-2E08 2E0B 1F676-1F678"))

end Boundary

open Boundary

/-- The classes for breaks between the characters as a reader sees them. -/
def graphemeBreaks : List NamedClass := [
  ⟨["CR"], .single '\r'⟩,
  ⟨["LF"], .single '\n'⟩,
  ⟨["CN", "Control"], graphemeControl⟩,
  ⟨["EX", "Extend"], graphemeExtend⟩,
  ⟨["L"], .set (.ofText "1100-115F A960-A97C")⟩,
  ⟨["V"], .set (.ofText "1160-11A7 D7B0-D7C6 16D63 16D67-16D6A")⟩,
  ⟨["T"], .set (.ofText "11A8-11FF D7CB-D7FB")⟩,
  ⟨["LV"], .set openSyllables⟩,
  ⟨["LVT"], .set closedSyllables⟩,
  ⟨["PP", "Prepend"], graphemePrepend⟩,
  ⟨["RI", "Regional_Indicator"], .set Property.regionalIndicator⟩,
  ⟨["SM", "SpacingMark"], graphemeSpacingMark⟩,
  ⟨["ZWJ"], joiner⟩]

/-- The classes for breaks between words. -/
def wordBreaks : List NamedClass := [
  ⟨["CR"], .single '\r'⟩,
  ⟨["LF"], .single '\n'⟩,
  ⟨["NL", "Newline"], .set (.ofText "B-C 85 2028-2029")⟩,
  ⟨["Extend"], wordExtend⟩,
  ⟨["FO", "Format"], wordFormat⟩,
  ⟨["KA", "Katakana"], wordKatakana⟩,
  ⟨["HL", "Hebrew_Letter"], wordHebrew⟩,
  ⟨["LE", "ALetter"], wordLetter⟩,
  ⟨["NU", "Numeric"], .union (Category.union [.decimalNumber]) (.set (.ofText "66B"))⟩,
  ⟨["EX", "ExtendNumLet"], .union (Category.union [.connectorPunctuation]) (.set (.ofText "202F"))⟩,
  ⟨["DQ", "Double_Quote"], .single '"'⟩,
  ⟨["SQ", "Single_Quote"], .set (.ofText "27")⟩,
  ⟨["ML", "MidLetter"], .set (.ofText "3A B7 387 55F 5F4 2027 FE13 FE55 FF1A")⟩,
  ⟨["MN", "MidNum"],
    .set (.ofText "2C 3B 37E 589 60C-60D 66C 7F8 2044 FE10 FE14 FE50 FE54 FF0C FF1B")⟩,
  ⟨["MB", "MidNumLet"], .set (.ofText "2E 2018-2019 2024 FE52 FF07 FF0E")⟩,
  ⟨["RI", "Regional_Indicator"], .set Property.regionalIndicator⟩,
  ⟨["WSegSpace"], .set (.ofText "20 1680 2000-2006 2008-200A 205F 3000")⟩,
  ⟨["ZWJ"], joiner⟩]

/-- The classes for breaks between sentences. -/
def sentenceBreaks : List NamedClass := [
  ⟨["CR"], .single '\r'⟩,
  ⟨["LF"], .single '\n'⟩,
  ⟨["SE", "Sep"], .set (.ofText "85 2028-2029")⟩,
  ⟨["SP", "Sp"], .diff (.set whiteSpace) (.set (.ofText "A D 85 2028-2029"))⟩,
  ⟨["EX", "Extend"], sentenceExtend⟩,
  ⟨["FO", "Format"], sentenceFormat⟩,
  ⟨["LO", "Lower"], sentenceLower⟩,
  ⟨["UP", "Upper"], sentenceUpper⟩,
  ⟨["LE", "OLetter"], sentenceLetter⟩,
  ⟨["NU", "Numeric"], .union (Category.union [.decimalNumber]) (.set (.ofText "66B-66C"))⟩,
  ⟨["AT", "ATerm"], .set sentenceStop⟩,
  ⟨["ST", "STerm"], .diff (.set Property.sentenceTerminal) (.set sentenceStop)⟩,
  ⟨["SC", "SContinue"], .set sentenceContinue⟩,
  ⟨["CL", "Close"], sentenceClose⟩]

end Gallery.Text
