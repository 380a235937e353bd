import Mathlib
import Landscape.Pattern.Extent
import Landscape.Text.Blank

namespace Landscape

/-!
# Sets by their ranges

What is in a set, and its extent, for sets that are given by a table. Ranges in order that do not
touch are in normal form, so nothing has to be sorted.
-/

open Text

namespace Text

/-- A table is evaluated over the list of its characters, which no text has to be decoded for. -/
theorem Ranges.ofText_ofList {s : String} {cs : List Char} (h : s = String.ofList cs) :
    ofText s = read none 0 (cs.dropWhile fun c => c = '\n') := by
  rw [ofText, h, String.toList_ofList]

theorem Ranges.coalesce_of_pairwise {r : Nat × Nat} {rs : Ranges}
    (h : (r :: rs).Pairwise fun r s => r.2 + 1 < s.1) : coalesce r rs = r :: rs := by
  induction rs generalizing r with
  | nil => rfl
  | cons s rs ih =>
      obtain ⟨hr, hs⟩ := List.pairwise_cons.mp h
      have hlt := hr s List.mem_cons_self
      rw [coalesce, if_neg (by omega), ih hs]

/-- Ranges in order and apart are in normal form. -/
theorem Ranges.normal_of_pairwise {rs : Ranges} (h : rs.Pairwise fun r s => r.2 + 1 < s.1)
    (hle : ∀ r ∈ rs, r.1 ≤ r.2) : normal rs = rs := by
  have hsorted : rs.Pairwise fun r s => decide (r.1 ≤ s.1) = true := by
    refine h.imp_of_mem fun {r s} hr _ hlt => decide_eq_true ?_
    have := hle r hr
    omega
  unfold normal
  rw [List.mergeSort_of_pairwise hsorted]
  cases rs with
  | nil => rfl
  | cons r rs => exact coalesce_of_pairwise h

@[simp] theorem Ranges.normal_singleton (r : Nat × Nat) : normal [r] = [r] := by
  simp [normal, coalesce]

theorem Ranges.normal_decimalNumber :
    normal Category.decimalNumberRanges = Category.decimalNumberRanges := by
  refine normal_of_pairwise ?_ ?_
  · rw [Category.decimalNumberRanges, ofText_ofList rfl]
    decide +kernel
  · rw [Category.decimalNumberRanges, ofText_ofList rfl]
    decide +kernel

end Text

namespace CharSet

theorem digit_mem_eq (c : Char) :
    digit.mem c = Category.decimalNumberRanges.contains c.toNat := by
  simp [digit, mem, Category.contains, Category.ranges]

/-- The decimal digits of ASCII are the usual ones. -/
theorem digit_mem_of_lt {c : Char} (h : c.toNat < 0x80) : digit.mem c = c.isDigit := by
  have hall : ∀ n < 0x80, Category.decimalNumberRanges.contains n =
      (decide (48 ≤ n) && decide (n ≤ 57)) := by
    rw [Category.decimalNumberRanges, Ranges.ofText_ofList rfl]
    decide +kernel
  rw [digit_mem_eq, hall _ h]
  rfl

/-- The characters of the property White_Space, by their ranges. -/
def spaceRanges : Ranges :=
  [(0x9, 0xD), (0x20, 0x20), (0x85, 0x85), (0xA0, 0xA0), (0x1680, 0x1680), (0x2000, 0x200A),
   (0x2028, 0x2029), (0x202F, 0x202F), (0x205F, 0x205F), (0x3000, 0x3000)]

theorem isBlank_eq_contains (c : Char) : isBlank c = spaceRanges.contains c.toNat := by
  rw [Bool.eq_iff_iff]
  simp only [isBlank, spaceRanges, Ranges.contains_cons, Ranges.contains_nil, Bool.or_eq_true,
    Bool.and_eq_true, Bool.or_false, decide_eq_true_eq, beq_iff_eq]
  omega

theorem space_mem_eq : space.mem = isBlank := by
  funext c
  have hzs : Category.spaceSeparatorRanges = [(0x20, 0x20), (0xA0, 0xA0), (0x1680, 0x1680),
      (0x2000, 0x200A), (0x202F, 0x202F), (0x205F, 0x205F), (0x3000, 0x3000)] := by
    rw [Category.spaceSeparatorRanges, Ranges.ofText_ofList rfl]
    decide +kernel
  have hzl : Category.lineSeparatorRanges = [(0x2028, 0x2028)] := by
    rw [Category.lineSeparatorRanges, Ranges.ofText_ofList rfl]
    decide +kernel
  have hzp : Category.paragraphSeparatorRanges = [(0x2029, 0x2029)] := by
    rw [Category.paragraphSeparatorRanges, Ranges.ofText_ofList rfl]
    decide +kernel
  have hbesides : Ranges.ofText "9-D 85" = [(0x9, 0xD), (0x85, 0x85)] := by
    rw [Ranges.ofText_ofList rfl]
    decide +kernel
  rw [isBlank_eq_contains, Bool.eq_iff_iff]
  simp only [space, mem, Property.whiteSpace, Property.contains, Category.contains,
    Category.ranges, hzs, hzl, hzp, hbesides, spaceRanges, Ranges.contains_cons,
    Ranges.contains_nil, List.any_cons, List.any_nil, Bool.or_eq_true, Bool.and_eq_true,
    Bool.or_false, Bool.not_false, Bool.and_true, decide_eq_true_eq]
  omega

theorem isBlank_of_digit {c : Char} (h : digit.mem c = true) : isBlank c = false := by
  have hapart : ∀ r ∈ spaceRanges, ∀ q ∈ Category.decimalNumberRanges,
      r.2 < q.1 ∨ q.2 < r.1 := by
    rw [Category.decimalNumberRanges, Ranges.ofText_ofList rfl]
    decide +kernel
  rw [digit_mem_eq, Ranges.contains, List.any_eq_true] at h
  obtain ⟨q, hq, hc⟩ := h
  rw [← Bool.not_eq_true, isBlank_eq_contains, Ranges.contains, List.any_eq_true]
  rintro ⟨r, hr, hc'⟩
  have := hapart r hr q hq
  simp only [Bool.and_eq_true, decide_eq_true_eq] at hc hc'
  omega

theorem extent_single (c : Char) : (single c).extent = [(c.toNat, c.toNat)] := by
  rw [single, extent, Ranges.normal_singleton]

theorem extent_space : space.extent = spaceRanges := by cbv

theorem extent_digit : digit.extent = Category.decimalNumberRanges := by
  have hextent : digit.extent =
      Ranges.normal (Ranges.normal Category.decimalNumberRanges ++ []) := rfl
  rw [hextent, List.append_nil, Ranges.normal_decimalNumber, Ranges.normal_decimalNumber]

end CharSet

end Landscape
