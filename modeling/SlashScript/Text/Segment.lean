/-
The classes by which text is cut into clusters that readers see as one character, into words and
into sentences. Each class follows from general categories, scripts and other properties by the
rules of the Unicode Standard, with a few characters added or left out.
-/

import SlashScript.Text.Script
import SlashScript.Text.Trait

namespace SlashScript.Text

namespace Segment

open Trait

/-- The joiner without width. -/
def joiner : List Stretch :=
  [⟨0x200D, 0x200D, 1⟩]

/-- The line feed. -/
def lineFeed : List Stretch :=
  [⟨0xA, 0xA, 1⟩]

/-- The carriage return. -/
def carriageReturn : List Stretch :=
  [⟨0xD, 0xD, 1⟩]

/-- The tables of marks of every kind, with the other characters that extend the one before
them. -/
def markTables : List (List Stretch) :=
  spacingMarks :: extenderTables

/-! ### Clusters -/

/-- Consonants at the start of a Korean syllable. -/
def leadingConsonants : List Stretch :=
  [⟨0x1100, 0x115F, 1⟩, ⟨0xA960, 0xA97C, 1⟩]

/-- Vowels of a Korean syllable. -/
def syllableVowels : List Stretch :=
  [⟨0x1160, 0x11A7, 1⟩, ⟨0xD7B0, 0xD7C6, 1⟩, ⟨0x16D63, 0x16D63, 1⟩, ⟨0x16D67, 0x16D6A, 1⟩]

/-- Consonants at the end of a Korean syllable. -/
def trailingConsonants : List Stretch :=
  [⟨0x11A8, 0x11FF, 1⟩, ⟨0xD7CB, 0xD7FB, 1⟩]

/-- Korean syllables without a consonant at the end. -/
def openSyllables : List Stretch :=
  [⟨0xAC00, 0xD788, 28⟩]

/-- Korean syllables. -/
def syllables : List Stretch :=
  [⟨0xAC00, 0xD7A3, 1⟩]

/-- Letters and signs that belong to the cluster after them. -/
def otherPrepends : List Stretch :=
  [⟨0xD4E, 0xD4E, 1⟩, ⟨0x111C2, 0x111C3, 1⟩, ⟨0x113D1, 0x113D1, 1⟩, ⟨0x1193F, 0x11941, 2⟩,
   ⟨0x11A3A, 0x11A3A, 1⟩, ⟨0x11A84, 0x11A89, 1⟩, ⟨0x11D46, 0x11D46, 1⟩, ⟨0x11F02, 0x11F02, 1⟩]

/-- Vowels that are letters and yet belong to the cluster before them. -/
def letteredVowels : List Stretch :=
  [⟨0xE33, 0xE33, 1⟩, ⟨0xEB3, 0xEB3, 1⟩]

/-- Marks with a width that do not belong to the cluster before them. -/
def separateMarks : List Stretch :=
  [⟨0x102B, 0x102C, 1⟩, ⟨0x1038, 0x1038, 1⟩, ⟨0x1062, 0x1064, 1⟩, ⟨0x1067, 0x106D, 1⟩,
   ⟨0x1083, 0x1083, 1⟩, ⟨0x1087, 0x108C, 1⟩, ⟨0x108F, 0x108F, 1⟩, ⟨0x109A, 0x109C, 1⟩,
   ⟨0x1A61, 0x1A61, 1⟩, ⟨0x1A63, 0x1A64, 1⟩, ⟨0xAA7B, 0xAA7D, 2⟩, ⟨0x11720, 0x11721, 1⟩]

/-- Code points without a character that are set aside to have no visible form. -/
def reservedIgnorables : List Stretch :=
  [⟨0x2065, 0x2065, 1⟩, ⟨0xFFF0, 0xFFF8, 1⟩, ⟨0xE0000, 0xE0000, 1⟩, ⟨0xE0002, 0xE001F, 1⟩,
   ⟨0xE0080, 0xE00FF, 1⟩, ⟨0xE01F0, 0xE0FFF, 1⟩]

/-- The classes of characters within and between clusters. -/
def clusterClasses : List NamedClass :=
  [⟨["cr"], [carriageReturn], []⟩,
   ⟨["lf"], [lineFeed], []⟩,
   ⟨["control", "cn"],
    [controlCodes, formatCodes, lineSeparators, paragraphSeparators, reservedIgnorables],
    carriageReturn :: lineFeed :: joiner :: prependedConcatenationMark.table :: extenderTables⟩,
   ⟨["extend", "ex"], emojiModifier.table :: extenderTables, []⟩,
   ⟨["zwj"], [joiner], []⟩,
   ⟨["regionalindicator", "ri"], [regionalIndicator.table], []⟩,
   ⟨["prepend", "pp"], [prependedConcatenationMark.table, otherPrepends], []⟩,
   ⟨["spacingmark", "sm"],
    [spacingMarks, letteredVowels], separateMarks :: emojiModifier.table :: extenderTables⟩,
   ⟨["l"], [leadingConsonants], []⟩,
   ⟨["v"], [syllableVowels], []⟩,
   ⟨["t"], [trailingConsonants], []⟩,
   ⟨["lv"], [openSyllables], []⟩,
   ⟨["lvt"], [syllables], [openSyllables]⟩]

/-! ### Words -/

/-- Signs of Japanese that are written among the letters of the Katakana script. -/
def sharedKana : List Stretch :=
  [⟨0x3031, 0x3035, 1⟩, ⟨0x309B, 0x309C, 1⟩, ⟨0x30A0, 0x30A0, 1⟩, ⟨0x30FC, 0x30FC, 1⟩,
   ⟨0xFF70, 0xFF70, 1⟩]

/-- Signs that count as letters where text is cut into words. -/
def letterLikes : List Stretch :=
  [⟨0x2C2, 0x2C5, 1⟩, ⟨0x2D2, 0x2D7, 1⟩, ⟨0x2DE, 0x2DF, 1⟩, ⟨0x2E5, 0x2EB, 1⟩, ⟨0x2ED, 0x2ED, 1⟩,
   ⟨0x2EF, 0x2FF, 1⟩, ⟨0x55A, 0x55C, 1⟩, ⟨0x55E, 0x55E, 1⟩, ⟨0x58A, 0x58A, 1⟩, ⟨0x5F3, 0x5F3, 1⟩,
   ⟨0x70F, 0x70F, 1⟩, ⟨0xA708, 0xA716, 1⟩, ⟨0xA720, 0xA721, 1⟩, ⟨0xA789, 0xA78A, 1⟩,
   ⟨0xAB5B, 0xAB5B, 1⟩]

/-- The scripts whose words are not told apart by single characters. -/
def unspacedScripts : List (List Stretch) :=
  [WritingSystem.thai, WritingSystem.lao, WritingSystem.myanmar, WritingSystem.khmer,
    WritingSystem.taiLe, WritingSystem.newTaiLue, WritingSystem.taiTham, WritingSystem.taiViet,
    WritingSystem.ahom, WritingSystem.hiragana].map NamedClass.table

/-- The tables of the letters and signs of the Katakana script. -/
def kanaTables : List (List Stretch) :=
  [WritingSystem.katakana.table, sharedKana]

/-- Letters of the Hebrew script. -/
def hebrewLetters : List Stretch :=
  [⟨0x5D0, 0x5EA, 1⟩, ⟨0x5EF, 0x5F2, 1⟩, ⟨0xFB1D, 0xFB1D, 1⟩, ⟨0xFB1F, 0xFB28, 1⟩,
   ⟨0xFB2A, 0xFB36, 1⟩, ⟨0xFB38, 0xFB3C, 1⟩, ⟨0xFB3E, 0xFB3E, 1⟩, ⟨0xFB40, 0xFB41, 1⟩,
   ⟨0xFB43, 0xFB44, 1⟩, ⟨0xFB46, 0xFB4F, 1⟩]

/-- Signs that count as digits where text is cut. -/
def numberSigns : List Stretch :=
  [⟨0x66B, 0x66B, 1⟩, ⟨0x19DA, 0x19DA, 1⟩]

/-- Signs that enclose the digits after them. -/
def numberEnclosers : List Stretch :=
  [⟨0x600, 0x605, 1⟩, ⟨0x6DD, 0x6DD, 1⟩, ⟨0x890, 0x891, 1⟩, ⟨0x8E2, 0x8E2, 1⟩,
   ⟨0x110BD, 0x110BD, 1⟩, ⟨0x110CD, 0x110CD, 1⟩]

/-- Signs within a word between letters. -/
def midLetters : List Stretch :=
  [⟨0x3A, 0x3A, 1⟩, ⟨0xB7, 0xB7, 1⟩, ⟨0x387, 0x387, 1⟩, ⟨0x55F, 0x55F, 1⟩, ⟨0x5F4, 0x5F4, 1⟩,
   ⟨0x2027, 0x2027, 1⟩, ⟨0xFE13, 0xFE13, 1⟩, ⟨0xFE55, 0xFE55, 1⟩, ⟨0xFF1A, 0xFF1A, 1⟩]

/-- Signs within a number between digits. -/
def midNumbers : List Stretch :=
  [⟨0x2C, 0x2C, 1⟩, ⟨0x3B, 0x3B, 1⟩, ⟨0x37E, 0x37E, 1⟩, ⟨0x589, 0x589, 1⟩, ⟨0x60C, 0x60D, 1⟩,
   ⟨0x66C, 0x66C, 1⟩, ⟨0x7F8, 0x7F8, 1⟩, ⟨0x2044, 0x2044, 1⟩, ⟨0xFE50, 0xFE50, 1⟩,
   ⟨0xFE54, 0xFE54, 1⟩, ⟨0xFF0C, 0xFF0C, 1⟩, ⟨0xFF1B, 0xFF1B, 1⟩]

/-- Signs within words and within numbers. -/
def midLettersAndNumbers : List Stretch :=
  [⟨0x2E, 0x2E, 1⟩, ⟨0x2018, 0x2019, 1⟩, ⟨0x2024, 0x2024, 1⟩, ⟨0xFE52, 0xFE52, 1⟩,
   ⟨0xFF07, 0xFF07, 1⟩, ⟨0xFF0E, 0xFF0E, 1⟩]

/-- The classes of characters within and between words. -/
def wordClasses : List NamedClass :=
  [⟨["cr"], [carriageReturn], []⟩,
   ⟨["lf"], [lineFeed], []⟩,
   ⟨["newline", "nl"], [[⟨0xB, 0xC, 1⟩, ⟨0x85, 0x85, 1⟩, ⟨0x2028, 0x2029, 1⟩]], []⟩,
   ⟨["extend"], emojiModifier.table :: markTables, []⟩,
   ⟨["zwj"], [joiner], []⟩,
   ⟨["format", "fo"],
    [formatCodes],
    [⟨0x200B, 0x200B, 1⟩] :: joiner :: prependedConcatenationMark.table :: markTables⟩,
   ⟨["regionalindicator", "ri"], [regionalIndicator.table], []⟩,
   ⟨["katakana", "ka"], kanaTables, []⟩,
   ⟨["hebrewletter", "hl"], [hebrewLetters], []⟩,
   ⟨["aletter", "le"],
    letterLikes :: otherAlphabetics :: letterTables,
    hebrewLetters :: ideographic.table :: emojiModifier.table :: kanaTables ++ unspacedScripts ++
      markTables⟩,
   ⟨["singlequote", "sq"], [[⟨0x27, 0x27, 1⟩]], []⟩,
   ⟨["doublequote", "dq"], [[⟨0x22, 0x22, 1⟩]], []⟩,
   ⟨["midletter", "ml"], [midLetters], []⟩,
   ⟨["midnum", "mn"], [midNumbers], []⟩,
   ⟨["midnumlet", "mb"], [midLettersAndNumbers], []⟩,
   ⟨["numeric", "nu"],
    [decimalNumbers, numberSigns, numberEnclosers], []⟩,
   ⟨["extendnumlet", "ex"], [connectorPunctuations, [⟨0x202F, 0x202F, 1⟩]], []⟩,
   ⟨["wsegspace"],
    [spaceSeparators], [[⟨0xA0, 0xA0, 1⟩, ⟨0x2007, 0x2007, 1⟩, ⟨0x202F, 0x202F, 1⟩]]⟩]

/-! ### Sentences -/

/-- Separators of paragraphs. -/
def paragraphEnds : List Stretch :=
  [⟨0x85, 0x85, 1⟩, ⟨0x2028, 0x2029, 1⟩]

/-- Full stops, which end a sentence or an abbreviation. -/
def fullStops : List Stretch :=
  [⟨0x2E, 0x2E, 1⟩, ⟨0x2024, 0x2024, 1⟩, ⟨0xFE52, 0xFE52, 1⟩, ⟨0xFF0E, 0xFF0E, 1⟩]

/-- Signs between the parts of a sentence. -/
def sentenceParts : List Stretch :=
  [⟨0x2C, 0x2D, 1⟩, ⟨0x3A, 0x3B, 1⟩, ⟨0x37E, 0x37E, 1⟩, ⟨0x55D, 0x55D, 1⟩, ⟨0x60C, 0x60D, 1⟩,
   ⟨0x7F8, 0x7F8, 1⟩, ⟨0x1802, 0x1802, 1⟩, ⟨0x1808, 0x1808, 1⟩, ⟨0x2013, 0x2014, 1⟩,
   ⟨0x3001, 0x3001, 1⟩, ⟨0xFE10, 0xFE11, 1⟩, ⟨0xFE13, 0xFE14, 1⟩, ⟨0xFE31, 0xFE32, 1⟩,
   ⟨0xFE50, 0xFE51, 1⟩, ⟨0xFE54, 0xFE55, 1⟩, ⟨0xFE58, 0xFE58, 1⟩, ⟨0xFE63, 0xFE63, 1⟩,
   ⟨0xFF0C, 0xFF0D, 1⟩, ⟨0xFF1A, 0xFF1B, 1⟩, ⟨0xFF64, 0xFF64, 1⟩]

/-- Ornaments and editorial signs that stand around text as quotation marks do. -/
def ornamentalQuotes : List Stretch :=
  [⟨0x275B, 0x2760, 1⟩, ⟨0x2E00, 0x2E01, 1⟩, ⟨0x2E06, 0x2E08, 1⟩, ⟨0x2E0B, 0x2E0B, 1⟩,
   ⟨0x1F676, 0x1F678, 1⟩]

/-- Quotation marks of full width, which do not count where text is cut into sentences. -/
def wideQuotes : List Stretch :=
  [⟨0xFF02, 0xFF02, 1⟩, ⟨0xFF07, 0xFF07, 1⟩]

/-- Georgian letters in capital form, which do not start a sentence more than others do. -/
def georgianCapitals : List Stretch :=
  [⟨0x1C90, 0x1CBA, 1⟩, ⟨0x1CBD, 0x1CBF, 1⟩]

/-- The sign of a thousand in a Hebrew number, which counts as a letter. -/
def hebrewThousands : List Stretch :=
  [⟨0x5F3, 0x5F3, 1⟩]

/-- The classes of characters within and between sentences. -/
def sentenceClasses : List NamedClass :=
  [⟨["cr"], [carriageReturn], []⟩,
   ⟨["lf"], [lineFeed], []⟩,
   ⟨["sep", "se"], [paragraphEnds], []⟩,
   ⟨["extend", "ex"], joiner :: markTables, []⟩,
   ⟨["format", "fo"], [formatCodes], numberEnclosers :: joiner :: markTables⟩,
   ⟨["sp"], [whiteSpace.table], [paragraphEnds, carriageReturn, lineFeed]⟩,
   ⟨["lower", "lo"], smallTables, georgianSmalls :: markTables⟩,
   ⟨["upper", "up"], titlecaseLetters :: capitalTables, [georgianCapitals]⟩,
   ⟨["oletter", "le"],
    [modifierLetters, otherLetters, letterNumbers, otherAlphabetics, hebrewThousands,
     georgianSmalls, georgianCapitals], otherLowercases :: otherUppercases :: markTables⟩,
   ⟨["numeric", "nu"], [decimalNumbers, numberSigns, [⟨0x66C, 0x66C, 1⟩], numberEnclosers], []⟩,
   ⟨["aterm", "at"], [fullStops], []⟩,
   ⟨["sterm", "st"], [sentenceTerminal.table], [fullStops]⟩,
   ⟨["scontinue", "sc"], [sentenceParts], []⟩,
   ⟨["close", "cl"],
    [openPunctuations, closePunctuations, initialPunctuations, finalPunctuations,
     quotationMark.table, ornamentalQuotes], [wideQuotes]⟩]

end Segment

end SlashScript.Text
