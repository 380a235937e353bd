import Landscape.Pattern.CharSet

namespace Landscape

/-!
# The extent of a set

The code points of a set of characters, written out as ranges in normal form. Surrogates,
which are no characters, may be among them.
-/

open Text

def Text.Category.extent : Category → Ranges
  | .unassigned => Ranges.complement (Ranges.normal (Category.listed.flatMap Category.ranges))
  | k => Ranges.normal k.ranges

def Text.Property.extent (p : Property) : Ranges :=
  Ranges.union p.besides
    (Ranges.diff (Ranges.normal (p.categories.flatMap Category.extent))
      (Ranges.normal p.lacking))

/-- The code points that a row moves, each with its image. -/
def Text.CaseRow.pairs (r : CaseRow) : List (Nat × Nat) :=
  (List.range ((r.last - r.first) / r.step + 1)).map fun i =>
    (r.first + i * r.step, r.target + i * r.step)

namespace CharSet

/-- The code points that folding moves, each with its image. -/
def foldPairs : List (Nat × Nat) := foldRows.flatMap CaseRow.pairs

/-- Every pair whose image is that of a code point in `rs`. -/
def variants (rs : Ranges) : Ranges :=
  let images := (foldPairs.filter fun e => rs.contains e.1 || rs.contains e.2).map (·.2)
  (foldPairs.filter fun e => images.contains e.2).flatMap fun e => [(e.1, e.1), (e.2, e.2)]

/-- The part of a range within `lo` to `hi`, moved as `lo` to `target`. -/
def shift (lo hi target : Nat) (r : Nat × Nat) : Ranges :=
  let a := max r.1 lo
  let b := min r.2 hi
  if a ≤ b then [(a - lo + target, b - lo + target)] else []

/-- The code points in the set. -/
def extent : CharSet → Ranges
  | ranges rs => Ranges.normal rs
  | categories ks => Ranges.normal (ks.flatMap Category.extent)
  | property p => p.extent
  | union s t => Ranges.union s.extent t.extent
  | inter s t => Ranges.inter s.extent t.extent
  | diff s t => Ranges.diff s.extent t.extent
  | symmDiff s t =>
      Ranges.union (Ranges.diff s.extent t.extent) (Ranges.diff t.extent s.extent)
  | compl s => Ranges.complement s.extent
  | fold s =>
      let rs := s.extent
      Ranges.union rs (variants rs)
  | foldAscii s =>
      let rs := s.extent
      Ranges.union rs (rs.flatMap (shift 0x41 0x5A 0x61) ++ rs.flatMap (shift 0x61 0x7A 0x41))

end CharSet

end Landscape
