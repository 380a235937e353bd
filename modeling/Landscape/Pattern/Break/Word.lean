import Landscape.Pattern.Break.Basic
import Landscape.Text.Script

namespace Landscape

/-!
# Classes of characters within words

Letters, digits and what may stand between them without ending the word.
-/

open Text

inductive WordBreak where
  | carriageReturn
  | lineFeed
  | newline
  | extend
  | joiner
  | format
  | regionalIndicator
  | katakana
  | hebrewLetter
  /-- Letters of the scripts that put spaces between words. -/
  | letter
  | singleQuote
  | doubleQuote
  /-- Stands within words and within numbers. -/
  | midNumberLetter
  | midLetter
  | midNumber
  | numeric
  | connector
  | space
  deriving DecidableEq, Repr

namespace WordBreak

def all : List WordBreak :=
  [carriageReturn, lineFeed, newline, extend, joiner, format, regionalIndicator, katakana,
   hebrewLetter, letter, singleQuote, doubleQuote, midNumberLetter, midLetter, midNumber, numeric,
   connector, space]

def names : WordBreak → List String
  | carriageReturn => ["cr"]
  | lineFeed => ["lf"]
  | newline => ["nl", "newline"]
  | extend => ["extend"]
  | joiner => ["zwj"]
  | format => ["fo", "format"]
  | regionalIndicator => ["ri", "regionalindicator"]
  | katakana => ["ka", "katakana"]
  | hebrewLetter => ["hl", "hebrewletter"]
  | letter => ["le", "aletter"]
  | singleQuote => ["sq", "singlequote"]
  | doubleQuote => ["dq", "doublequote"]
  | midNumberLetter => ["mb", "midnumlet"]
  | midLetter => ["ml", "midletter"]
  | midNumber => ["mn", "midnum"]
  | numeric => ["nu", "numeric"]
  | connector => ["ex", "extendnumlet"]
  | space => ["wsegspace"]

def find? (name : String) : Option WordBreak := all.find? fun b => b.names.contains name

def katakanaSet : CharSet :=
  .union (.ranges Script.katakana.ranges) (.ofText "3031-3035 309B-309C 30A0 30FC FF70")

def hebrewLetters : CharSet :=
  .inter (.ranges Script.hebrew.ranges) (.categories [.otherLetter])

/-- Marks and modifiers, which belong to the character before them. -/
def extending : CharSet := .union Break.marks (.property Property.emojiModifier)

/-- Scripts that put no spaces between words. -/
def spaceless : CharSet :=
  .unions (([.thai, .lao, .khmer, .myanmar, .taiLe, .newTaiLue, .taiTham, .taiViet, .ahom] :
    List Script).map fun s => .ranges s.ranges)

/-- Signs that are used as letters. -/
def letterSigns : CharSet := .ofText "B8 2C2-2C5 2D2-2D7 2DE-2DF 2E5-2EB 2ED 2EF-2FF 55A-55C 55E
58A 5F3 70F A708-A716 A720-A721 A789-A78A AB5B"

def set : WordBreak → CharSet
  | carriageReturn => .single '\r'
  | lineFeed => .single '\n'
  | newline => .ofText "B-C 85 2028-2029"
  | extend => extending
  | joiner => Break.joiner
  | format =>
      .diff (.categories [.format])
        (.unions [.ofText "200B", Break.joiner, Break.attaching,
          .property Property.prependedConcatenationMark])
  | regionalIndicator => Break.regionalIndicators
  | katakana => katakanaSet
  | hebrewLetter => hebrewLetters
  | letter =>
      .diff (.union (.property Property.alphabetic) letterSigns)
        (.unions [.property Property.ideographic, .ranges Script.hiragana.ranges, katakanaSet,
          hebrewLetters, spaceless, extending])
  | singleQuote => .single '\''
  | doubleQuote => .single '"'
  | midNumberLetter => .union Break.fullStops (.ofText "2018-2019 FF07")
  | midLetter => .ofText "3A B7 387 55F 5F4 2027 FE13 FE55 FF1A"
  | midNumber =>
      .ofText "2C 3B 37E 589 60C-60D 66C 7F8 2044 FE10 FE14 FE50 FE54 FF0C FF1B"
  | numeric => .diff Break.numeric (.ofText "66C")
  | connector => .union (.categories [.connectorPunctuation]) (.ofText "202F")
  | space => .diff (.categories [.spaceSeparator]) (.ofText "A0 2007 202F")

end WordBreak

end Landscape
