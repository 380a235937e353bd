import Landscape.Pattern.Break.Basic

namespace Landscape

/-!
# Classes of characters within graphemes

A grapheme is what a reader takes for one character: a base with its marks, a syllable, a flag.
-/

open Text

inductive GraphemeBreak where
  | carriageReturn
  | lineFeed
  | control
  /-- Marks that never stand apart from their base. -/
  | extend
  | joiner
  | regionalIndicator
  /-- Signs that go with what follows. -/
  | prepend
  | spacingMark
  | leadingConsonant
  | vowel
  | trailingConsonant
  /-- Syllables of a leading consonant and a vowel. -/
  | openSyllable
  /-- Syllables that end with a consonant. -/
  | closedSyllable
  deriving DecidableEq, Repr

namespace GraphemeBreak

def all : List GraphemeBreak :=
  [carriageReturn, lineFeed, control, extend, joiner, regionalIndicator, prepend, spacingMark,
   leadingConsonant, vowel, trailingConsonant, openSyllable, closedSyllable]

def names : GraphemeBreak → List String
  | carriageReturn => ["cr"]
  | lineFeed => ["lf"]
  | control => ["cn", "control"]
  | extend => ["ex", "extend"]
  | joiner => ["zwj"]
  | regionalIndicator => ["ri", "regionalindicator"]
  | prepend => ["pp", "prepend"]
  | spacingMark => ["sm", "spacingmark"]
  | leadingConsonant => ["l"]
  | vowel => ["v"]
  | trailingConsonant => ["t"]
  | openSyllable => ["lv"]
  | closedSyllable => ["lvt"]

def find? (name : String) : Option GraphemeBreak := all.find? fun b => b.names.contains name

/-- Every twenty-eighth of the syllables has no trailing consonant. -/
def openSyllables : Ranges := (List.range 399).map fun k => (0xAC00 + 28 * k, 0xAC00 + 28 * k)

def set : GraphemeBreak → CharSet
  | carriageReturn => .single '\r'
  | lineFeed => .single '\n'
  | control =>
      .diff
        (.union (.categories [.lineSeparator, .paragraphSeparator, .control, .format])
          (.inter (.categories [.unassigned])
            (.property Property.defaultIgnorableCodePoint)))
        (.unions [.single '\r', .single '\n', Break.joiner, Break.attaching,
          .property Property.prependedConcatenationMark])
  | extend => .union Break.attaching (.property Property.emojiModifier)
  | joiner => Break.joiner
  | regionalIndicator => Break.regionalIndicators
  | prepend =>
      .union (.property Property.prependedConcatenationMark)
        (.ofText "D4E 111C2-111C3 113D1 1193F 11941 11A3A 11A84-11A89 11D46 11F02")
  | spacingMark =>
      .diff (.union (.categories [.spacingMark]) (.ofText "E33 EB3"))
        (.union Break.attaching (.ofText "102B-102C 1038 1062-1064 1067-106D 1083 1087-108C 108F
109A-109C 1A61 1A63-1A64 AA7B AA7D 11720-11721"))
  | leadingConsonant => .ofText "1100-115F A960-A97C"
  | vowel => .ofText "1160-11A7 D7B0-D7C6 16D63 16D67-16D6A"
  | trailingConsonant => .ofText "11A8-11FF D7CB-D7FB"
  | openSyllable => .ranges openSyllables
  | closedSyllable => .diff (.ofText "AC00-D7A3") (.ranges openSyllables)

end GraphemeBreak

end Landscape
