import Costing.Text.Derived
import Costing.Text.Script

/-!
# Text — Break

The roles that characters play where texts are divided into visible characters, words and sentences,
in version 16 of the character database.
-/

namespace Costing.Text

open Property (listed)

/-- What a character does where visible characters are told apart. -/
inductive GraphemeBreak where
  | cr
  | control
  | extend
  | leading
  | lf
  | leadingVowel
  | leadingVowelTrailing
  | prepend
  | regionalIndicator
  | spacingMark
  | trailing
  | vowel
  | joiner
deriving Repr, DecidableEq

namespace GraphemeBreak

/-- The roles by their names, separated by blanks. -/
def byNames : List (String × GraphemeBreak) :=
  [("CR", cr),
    ("Control cn", control),
    ("Extend ex", extend),
    ("L", leading),
    ("LF", lf),
    ("LV", leadingVowel),
    ("LVT", leadingVowelTrailing),
    ("Prepend pp", prepend),
    ("Regional_Indicator ri", regionalIndicator),
    ("SpacingMark sm", spacingMark),
    ("T", trailing),
    ("V", vowel),
    ("ZWJ", joiner)]

/-- The syllables of the Korean script that have no trailing consonant. -/
def openSyllables : CharSet :=
  ⟨(List.range 399).map fun i => ⟨0xAC00 + 28 * i, 0xAC00 + 28 * i⟩⟩

/-- The characters of a role. -/
def set : GraphemeBreak → CharSet
  | control =>
    (CharSet.union
      (Category.set fun c =>
        c == .control || c == .format || c == .lineSeparator || c == .paragraphSeparator)
      ((Category.set (· == .unassigned)).inter Derived.defaultIgnorable)).diff
      ((CharSet.ofTable ["a d 200c-200d e0020-e007f"]).union (listed .prependedConcatenationMark))
  | cr => .ofTable ["d"]
  | extend => Derived.graphemeExtend.union (listed .emojiModifier)
  | leading => .ofTable ["1100-115f a960-a97c"]
  | lf => .ofTable ["a"]
  | leadingVowel => openSyllables
  | leadingVowelTrailing => CharSet.diff ⟨[⟨0xAC00, 0xD7A3⟩]⟩ openSyllables
  | prepend =>
    (listed .prependedConcatenationMark).union
      (.ofTable ["d4e 111c2-111c3 113d1 1193f 11941 11a3a 11a84-11a89 11d46 11f02"])
  | regionalIndicator => .ofTable ["1f1e6-1f1ff"]
  | spacingMark =>
    ((Category.set (· == .spacingMark)).diff
      (Derived.graphemeExtend.union (.ofTable
        ["102b-102c 1038 1062-1064 1067-106d 1083 1087-108c 108f 109a-109c 1a61 1a63-1a64 aa7b",
         "aa7d 11720-11721"]))).union (.ofTable ["e33 eb3"])
  | trailing => .ofTable ["11a8-11ff d7cb-d7fb"]
  | vowel => .ofTable ["1160-11a7 d7b0-d7c6 16d63 16d67-16d6a"]
  | joiner => .ofTable ["200d"]

/-- The characters of the role that a name stands for. -/
def named? (name : String) : Option CharSet :=
  (lookupNamed? byNames name).map set

end GraphemeBreak

/-- What a character does where words are told apart. -/
inductive WordBreak where
  | letter
  | cr
  | doubleQuote
  | extend
  | extendNumLet
  | format
  | hebrewLetter
  | katakana
  | lf
  | midLetter
  | midNum
  | midNumLet
  | newline
  | numeric
  | regionalIndicator
  | singleQuote
  | space
  | joiner
deriving Repr, DecidableEq

namespace WordBreak

/-- The roles by their names, separated by blanks. -/
def byNames : List (String × WordBreak) :=
  [("ALetter le", letter),
    ("CR", cr),
    ("Double_Quote dq", doubleQuote),
    ("Extend", extend),
    ("ExtendNumLet ex", extendNumLet),
    ("Format fo", format),
    ("Hebrew_Letter hl", hebrewLetter),
    ("Katakana ka", katakana),
    ("LF", lf),
    ("MidLetter ml", midLetter),
    ("MidNum mn", midNum),
    ("MidNumLet mb", midNumLet),
    ("Newline nl", newline),
    ("Numeric nu", numeric),
    ("Regional_Indicator ri", regionalIndicator),
    ("Single_Quote sq", singleQuote),
    ("WSegSpace", space),
    ("ZWJ", joiner)]

/-- Format characters that are written in front of numbers or as tags. -/
def joinedFormats : CharSet :=
  .ofTable ["600-605 6dd 70f 890-891 8e2 110bd 110cd e0020-e007f"]

/-- Characters that extend the one before them in words and sentences. -/
def extending : CharSet :=
  .unions [Derived.graphemeExtend, Category.set (· == .spacingMark), listed .emojiModifier]

/-- The letters of the Hebrew script. -/
def hebrewLetters : CharSet :=
  .ofTable ["5d0-5ea 5ef-5f2 fb1d fb1f-fb28 fb2a-fb36 fb38-fb3c fb3e fb40-fb41 fb43-fb44 fb46-fb4f"]

/-- The characters of the Katakana script and its marks. -/
def katakanaChars : CharSet :=
  .ofTable
    ["3031-3035 309b-309c 30a0-30fa 30fc-30ff 31f0-31ff 32d0-32fe 3300-3357 ff66-ff9d 1aff0-1aff3",
     "1aff5-1affb 1affd-1affe 1b000 1b120-1b122 1b155 1b164-1b167"]

/-- Blocks of scripts in which words are not told apart by their letters. -/
def unspaced : CharSet :=
  .ofTable ["e00-eff 1000-109f 1780-17ff 1950-19df 1a20-1aaf a9e0-a9ff aa60-aadf 11700-1174f"]

/-- Letter-like characters that are not alphabetic. -/
def letterLike : CharSet :=
  .ofTable
    ["2c2-2c5 2d2-2d7 2de-2df 2e5-2eb 2ed 2ef-2ff 55a-55c 55e 58a 5f3 70f a708-a716 a720-a721",
     "a789-a78a ab5b"]

/-- The characters of a role. -/
def set : WordBreak → CharSet
  | letter =>
    (Derived.alphabetic.union letterLike).diff <|
      .unions [listed .ideographic, katakanaChars, hebrewLetters, extending, unspaced,
        ((Script.named? "Hiragana").map Script.set).getD .empty]
  | cr => .ofTable ["d"]
  | doubleQuote => .ofTable ["22"]
  | extend => extending.diff (.ofTable ["200d"])
  | extendNumLet => (Category.set (· == .connectorPunctuation)).union (.ofTable ["202f"])
  | format =>
    (Category.set (· == .format)).diff ((CharSet.ofTable ["200b-200d"]).union joinedFormats)
  | hebrewLetter => hebrewLetters
  | katakana => katakanaChars
  | lf => .ofTable ["a"]
  | midLetter => .ofTable ["3a b7 387 55f 5f4 2027 fe13 fe55 ff1a"]
  | midNum => .ofTable ["2c 3b 37e 589 60c-60d 66c 7f8 2044 fe50 fe54 ff0c ff1b"]
  | midNumLet => .ofTable ["2e 2018-2019 2024 fe52 ff07 ff0e"]
  | newline => .ofTable ["b-c 85 2028-2029"]
  | numeric =>
    (Category.set (· == .decimalNumber)).union
      (.ofTable ["600-605 66b 6dd 890-891 8e2 19da 110bd 110cd"])
  | regionalIndicator => .ofTable ["1f1e6-1f1ff"]
  | singleQuote => .ofTable ["27"]
  | space => (Category.set (· == .spaceSeparator)).diff (.ofTable ["a0 2007 202f"])
  | joiner => .ofTable ["200d"]

/-- The characters of the role that a name stands for. -/
def named? (name : String) : Option CharSet :=
  (lookupNamed? byNames name).map set

end WordBreak

/-- What a character does where sentences are told apart. -/
inductive SentenceBreak where
  | fullStop
  | cr
  | close
  | extend
  | format
  | lf
  | lower
  | numeric
  | otherLetter
  | continues
  | terminal
  | separator
  | space
  | upper
deriving Repr, DecidableEq

namespace SentenceBreak

/-- The roles by their names, separated by blanks. -/
def byNames : List (String × SentenceBreak) :=
  [("ATerm at", fullStop),
    ("CR", cr),
    ("Close cl", close),
    ("Extend ex", extend),
    ("Format fo", format),
    ("LF", lf),
    ("Lower lo", lower),
    ("Numeric nu", numeric),
    ("OLetter le", otherLetter),
    ("SContinue sc", continues),
    ("STerm st", terminal),
    ("Sep se", separator),
    ("Sp", space),
    ("Upper up", upper)]

/-- The characters in lower case that sentences know. -/
def lowerChars : CharSet :=
  Derived.lowercase.diff (Derived.graphemeExtend.union (.ofTable ["10d0-10fa 10fd-10ff"]))

/-- The characters in upper or title case that sentences know. -/
def upperChars : CharSet :=
  (Derived.uppercase.union (Category.set (· == .titlecaseLetter))).diff
    (.ofTable ["1c90-1cba 1cbd-1cbf"])

/-- Characters that extend the one before them, and the joiner. -/
def extending : CharSet :=
  .unions [Derived.graphemeExtend, Category.set (· == .spacingMark), .ofTable ["200d"]]

/-- The characters of a role. -/
def set : SentenceBreak → CharSet
  | fullStop => .ofTable ["2e 2024 fe52 ff0e"]
  | cr => .ofTable ["d"]
  | close =>
    (CharSet.unions
      [Category.set fun c =>
        c == .openPunctuation || c == .closePunctuation || c == .initialPunctuation ||
          c == .finalPunctuation,
        (listed .quotationMark).diff (.ofTable ["ff02 ff07"]),
        .ofTable ["275b-2760 2e00-2e01 2e06-2e08 2e0b 1f676-1f678"]])
  | extend => extending
  | format =>
    (Category.set (· == .format)).diff
      (.ofTable ["600-605 6dd 890-891 8e2 200c-200d 110bd 110cd e0020-e007f"])
  | lf => .ofTable ["a"]
  | lower => lowerChars
  | numeric =>
    (Category.set (· == .decimalNumber)).union
      (.ofTable ["600-605 66b-66c 6dd 890-891 8e2 19da 110bd 110cd"])
  | otherLetter =>
    (Derived.alphabetic.union (.ofTable ["5f3"])).diff (.unions [lowerChars, upperChars, extending])
  | continues =>
    .ofTable
      ["2c-2d 3a-3b 37e 55d 60c-60d 7f8 1802 1808 2013-2014 3001 fe10-fe11 fe13-fe14 fe31-fe32",
       "fe50-fe51 fe54-fe55 fe58 fe63 ff0c-ff0d ff1a-ff1b ff64"]
  | terminal => (listed .sentenceTerminal).diff (.ofTable ["2e 2024 fe52 ff0e"])
  | separator => .ofTable ["85 2028-2029"]
  | space => (listed .whiteSpace).diff (.ofTable ["a d 85 2028-2029"])
  | upper => upperChars

/-- The characters of the role that a name stands for. -/
def named? (name : String) : Option CharSet :=
  (lookupNamed? byNames name).map set

end SentenceBreak

end Costing.Text
