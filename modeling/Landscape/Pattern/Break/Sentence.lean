import Landscape.Pattern.Break.Basic

namespace Landscape

/-!
# Classes of characters within sentences

Letters by case, what ends a sentence, and what may follow the end before the next one begins.
-/

open Text

inductive SentenceBreak where
  | carriageReturn
  | lineFeed
  | extend
  | separator
  | format
  | space
  | lower
  | upper
  /-- Letters without case. -/
  | otherLetter
  | numeric
  /-- Full stops, which end a sentence or a shortened word. -/
  | fullStop
  /-- Goes on with the sentence that seemed to end. -/
  | continues
  | terminal
  /-- Brackets and quotation marks. -/
  | close
  deriving DecidableEq, Repr

namespace SentenceBreak

def all : List SentenceBreak :=
  [carriageReturn, lineFeed, extend, separator, format, space, lower, upper, otherLetter, numeric,
   fullStop, continues, terminal, close]

def names : SentenceBreak → List String
  | carriageReturn => ["cr"]
  | lineFeed => ["lf"]
  | extend => ["ex", "extend"]
  | separator => ["se", "sep"]
  | format => ["fo", "format"]
  | space => ["sp"]
  | lower => ["lo", "lower"]
  | upper => ["up", "upper"]
  | otherLetter => ["le", "oletter"]
  | numeric => ["nu", "numeric"]
  | fullStop => ["at", "aterm"]
  | continues => ["sc", "scontinue"]
  | terminal => ["st", "sterm"]
  | close => ["cl", "close"]

def find? (name : String) : Option SentenceBreak := all.find? fun b => b.names.contains name

def separators : CharSet := .ofText "85 2028-2029"

/-- Small letters; those of one script count only where they are used as modifiers. -/
def lowerLetters : CharSet :=
  .diff (.property Property.lowercase) (.union Break.attaching (.ofText "10D0-10FA 10FD-10FF"))

/-- Capitals, those of the same script left out. -/
def upperLetters : CharSet :=
  .diff (.union (.property Property.uppercase) (.categories [.titlecaseLetter]))
    (.ofText "1C90-1CBA 1CBD-1CBF")

def set : SentenceBreak → CharSet
  | carriageReturn => .single '\r'
  | lineFeed => .single '\n'
  | extend => .union Break.marks Break.joiner
  | separator => separators
  | format =>
      .diff (.categories [.format]) (.unions [Break.numberSigns, Break.attaching, Break.joiner])
  | space =>
      .diff (.property Property.whiteSpace)
        (.unions [.single '\r', .single '\n', separators])
  | lower => lowerLetters
  | upper => upperLetters
  | otherLetter =>
      .diff (.union (.property Property.alphabetic) (.ofText "5F3"))
        (.unions [lowerLetters, upperLetters, Break.marks])
  | numeric => Break.numeric
  | fullStop => Break.fullStops
  | continues => .ofText "2C-2D 3A-3B 37E 55D 60C-60D 7F8 1802 1808 2013-2014 3001 FE10-FE11
FE13-FE14 FE31-FE32 FE50-FE51 FE54-FE55 FE58 FE63 FF0C-FF0D FF1A-FF1B FF64"
  | terminal => .diff (.property Property.sentenceTerminal) Break.fullStops
  | close =>
      .union
        (.categories
          [.openPunctuation, .closePunctuation, .initialPunctuation, .finalPunctuation])
        (.ofText "22 27 275B-2760 2E00-2E01 2E06-2E08 2E0B 1F676-1F678")

end SentenceBreak

end Landscape
