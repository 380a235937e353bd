import Landscape.Pattern.CharSet

namespace Landscape

/-!
# Characters at the edges of units of text

Text falls into graphemes, words and sentences. What may stand at the edge of such a unit is
told by classes of characters, each given by a rule over categories, properties and scripts.
Here are the sets that more than one of these divisions uses.
-/

open Text

namespace Break

/-- Marks that attach to the character before them. -/
def attaching : CharSet := .property Property.graphemeExtend

/-- Marks that attach to the character before them, with or without a space of their own. -/
def marks : CharSet := .union attaching (.categories [.spacingMark])

/-- Signs that are written before the number they belong to. -/
def numberSigns : CharSet :=
  .diff (.property Property.prependedConcatenationMark) (.ofText "70F")

/-- Digits, the signs that are written before numbers, and the separators of Arabic numbers. -/
def numeric : CharSet :=
  .unions [.categories [.decimalNumber], numberSigns, .ofText "66B-66C"]

/-- Full stops of all widths, and the leader of one dot. -/
def fullStops : CharSet := .ofText "2E 2024 FE52 FF0E"

/-- Flags are written with two of these. -/
def regionalIndicators : CharSet := .property Property.regionalIndicator

/-- Joins what stands on its two sides. -/
def joiner : CharSet := .ofText "200D"

end Break

end Landscape
