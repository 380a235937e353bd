namespace Landscape.Text

/-!
# Case maps

A case map is given by rows. A row covers every `step`-th character from `first` to `last`
and moves each of them by the same distance, `first` to `target`. Other characters stay.
-/

structure CaseRow where
  first : Nat
  last : Nat
  step : Nat
  target : Nat
  deriving DecidableEq, Repr

namespace CaseRow

/-- Where the row sends the code point `n`, if it covers it. -/
def image? (r : CaseRow) (n : Nat) : Option Nat :=
  if r.first ≤ n && n ≤ r.last && (n - r.first) % r.step == 0 then some (r.target + (n - r.first))
  else none

/-- The code point that the row sends to `n`, if there is one. -/
def source? (r : CaseRow) (n : Nat) : Option Nat :=
  if r.target ≤ n && n - r.target ≤ r.last - r.first && (n - r.target) % r.step == 0 then
    some (r.first + (n - r.target))
  else none

end CaseRow

abbrev CaseMap := List CaseRow

namespace CaseMap

/-- The image of a character: the first row that covers it decides. -/
def apply (m : CaseMap) (c : Char) : Char :=
  match m.findSome? fun r => r.image? c.toNat with
  | none => c
  | some n => Char.ofNat n

def sources (m : CaseMap) (c : Char) : List Char :=
  m.filterMap fun r => (r.source? c.toNat).map Char.ofNat

@[simp] theorem apply_nil (c : Char) : apply [] c = c := rfl

end CaseMap

end Landscape.Text
