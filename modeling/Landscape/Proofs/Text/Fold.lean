import Mathlib
import Landscape.Pattern.CharSet

namespace Landscape.Text

/-!
# Case variants

Folding settles with one step: what a character folds to does not fold any further. So the case
variants of a character are the characters that fold as it does.
-/

namespace CaseRow

/-- From `a` to `b` there are no surrogates, and nothing beyond the last character. -/
def Characters (a b : Nat) : Prop := b < 0xD800 ∨ 0xDFFF < a ∧ b < 0x110000

instance {a b : Nat} : Decidable (Characters a b) := inferInstanceAs (Decidable (_ ∨ _))

/-- The row moves characters to characters. -/
def Proper (r : CaseRow) : Prop :=
  r.first ≤ r.last ∧ Characters r.first r.last ∧
    Characters r.target (r.target + (r.last - r.first))

instance {r : CaseRow} : Decidable r.Proper := inferInstanceAs (Decidable (_ ∧ _))

def Precedes (r q : CaseRow) : Prop := r.first ≤ r.last ∧ r.last < q.first ∧ q.first ≤ q.last

instance {r q : CaseRow} : Decidable (r.Precedes q) := inferInstanceAs (Decidable (_ ∧ _))

instance : Trans Precedes Precedes Precedes where
  trans := by
    intro r q t hrq hqt
    exact ⟨hrq.1, Nat.lt_of_lt_of_le hrq.2.1 (Nat.le_of_lt (Nat.lt_of_le_of_lt hqt.1 hqt.2.1)),
      hqt.2.2⟩

/-- The second row covers nothing that the first one moves a character to: either that is elsewhere,
or it is between what the second row covers. It is checked of all pairs of rows, which is why the
comparisons are those of the numerals themselves. -/
def misses (r q : CaseRow) : Bool :=
  Nat.blt (r.target + (r.last - r.first)) q.first || Nat.blt q.last r.target ||
    (Nat.beq r.first r.last || Nat.beq r.step 2) && Nat.beq q.step 2 &&
      Nat.beq ((r.target + q.first) % 2) 1

variable {r q : CaseRow} {n m l : Nat}

theorem toNat_ofNat_of_characters {a b : Nat} (h : Characters a b) (ha : a ≤ n) (hb : n ≤ b) :
    (Char.ofNat n).toNat = n := by
  have hvalid : n.isValidChar := by
    unfold Characters at h
    unfold Nat.isValidChar
    omega
  rw [Char.toNat_ofNat, if_pos hvalid]

theorem image?_eq_some_iff : r.image? n = some m ↔
    (r.first ≤ n ∧ n ≤ r.last ∧ (n - r.first) % r.step = 0) ∧ r.target + (n - r.first) = m := by
  simp [image?, and_assoc]

theorem source?_eq_some_iff : r.source? m = some n ↔
    (r.target ≤ m ∧ m - r.target ≤ r.last - r.first ∧ (m - r.target) % r.step = 0) ∧
      r.first + (m - r.target) = n := by
  simp [source?, and_assoc]

/-- What a row moves, it finds again where it has moved it. -/
theorem source?_eq_some_iff_image? (hr : r.first ≤ r.last) :
    r.source? m = some n ↔ r.image? n = some m := by
  rw [source?_eq_some_iff, image?_eq_some_iff]
  constructor
  · rintro ⟨⟨htarget, hlast, hstep⟩, rfl⟩
    rw [Nat.add_sub_cancel_left]
    exact ⟨⟨by omega, by omega, hstep⟩, by omega⟩
  · rintro ⟨⟨hfirst, hlast, hstep⟩, rfl⟩
    rw [Nat.add_sub_cancel_left]
    exact ⟨⟨by omega, by omega, hstep⟩, by omega⟩

theorem Precedes.image?_eq_none (h : r.Precedes q) (hr : r.image? n = some m) :
    q.image? n = none := by
  obtain ⟨⟨-, hlast, -⟩, -⟩ := image?_eq_some_iff.mp hr
  rw [Option.eq_none_iff_forall_ne_some]
  intro l hq
  obtain ⟨⟨hfirst, -, -⟩, -⟩ := image?_eq_some_iff.mp hq
  have := h.2.1
  omega

theorem image?_eq_none_of_misses (h : r.misses q = true) (hr : r.image? n = some m) :
    q.image? m = none := by
  obtain ⟨⟨hfirst, hlast, hstep⟩, rfl⟩ := image?_eq_some_iff.mp hr
  rw [Option.eq_none_iff_forall_ne_some]
  intro l hq
  obtain ⟨⟨hfirst', hlast', hstep'⟩, -⟩ := image?_eq_some_iff.mp hq
  simp only [misses, Bool.or_eq_true, Bool.and_eq_true, Nat.blt_eq, Nat.beq_eq] at h
  rcases h with (h | h) | ⟨⟨hone | htwo, hq2⟩, hodd⟩
  · omega
  · omega
  · rw [hq2] at hstep'
    omega
  · rw [hq2] at hstep'
    rw [htwo] at hstep
    omega

end CaseRow

/-! ## The rows of folding -/

theorem proper_foldRows : ∀ r ∈ foldRows, r.Proper := by
  decide +kernel

theorem pairwise_precedes_foldRows : foldRows.Pairwise CaseRow.Precedes := by
  have hchain : foldRows.IsChain CaseRow.Precedes := by decide +kernel
  exact List.isChain_iff_pairwise.mp hchain

theorem misses_foldRows : ∀ r ∈ foldRows, ∀ q ∈ foldRows, r.misses q = true := by
  have hall : (foldRows.all fun r => foldRows.all fun q => r.misses q) = true := by decide +kernel
  simpa only [List.all_eq_true] using hall

/-! ## Folding -/

variable {c d : Char} {r : CaseRow} {n : Nat}

theorem toNat_ofNat_of_image? (hr : r ∈ foldRows) (h : r.image? c.toNat = some n) :
    (Char.ofNat n).toNat = n := by
  obtain ⟨⟨hfirst, hlast, -⟩, rfl⟩ := CaseRow.image?_eq_some_iff.mp h
  exact CaseRow.toNat_ofNat_of_characters (proper_foldRows r hr).2.2 (by omega) (by omega)

/-- The first row that covers a character is the only one. -/
theorem findSome?_image? {m : CaseMap} (hm : m.Pairwise CaseRow.Precedes) (hr : r ∈ m) {l : Nat}
    (h : r.image? l = some n) : m.findSome? (fun q => q.image? l) = some n := by
  induction m with
  | nil => cases hr
  | cons q m ih =>
      obtain ⟨hq, hm⟩ := List.pairwise_cons.mp hm
      rcases List.mem_cons.mp hr with rfl | hr
      · rw [List.findSome?_cons, h]
      · cases hcovers : q.image? l with
        | none =>
            rw [List.findSome?_cons, hcovers]
            exact ih hm hr
        | some k =>
            rw [(hq r hr).image?_eq_none hcovers] at h
            cases h

theorem fold_of_image? (hr : r ∈ foldRows) (h : r.image? c.toNat = some n) :
    fold c = Char.ofNat n := by
  unfold fold CaseMap.apply
  rw [findSome?_image? pairwise_precedes_foldRows hr h]

theorem fold_of_forall_image?_eq_none (h : ∀ r ∈ foldRows, r.image? c.toNat = none) :
    fold c = c := by
  unfold fold CaseMap.apply
  rw [List.findSome?_eq_none_iff.mpr h]

/-- A character folds to itself, or a row moves it. -/
theorem fold_eq_or (c : Char) :
    fold c = c ∨ ∃ r ∈ foldRows, r.image? c.toNat = some (fold c).toNat := by
  cases hfind : foldRows.findSome? fun r => r.image? c.toNat with
  | none => exact .inl (fold_of_forall_image?_eq_none (List.findSome?_eq_none_iff.mp hfind))
  | some n =>
      obtain ⟨r, hr, h⟩ := List.exists_of_findSome?_eq_some hfind
      refine .inr ⟨r, hr, ?_⟩
      rw [fold_of_image? hr h, toNat_ofNat_of_image? hr h, h]

theorem fold_fold (c : Char) : fold (fold c) = fold c := by
  rcases fold_eq_or c with h | ⟨r, hr, h⟩
  · rw [h, h]
  · exact fold_of_forall_image?_eq_none fun q hq =>
      CaseRow.image?_eq_none_of_misses (misses_foldRows r hr q hq) h

theorem fold_of_source? (hr : r ∈ foldRows) (h : r.source? c.toNat = some n) :
    fold (Char.ofNat n) = c := by
  have himage := (CaseRow.source?_eq_some_iff_image? (proper_foldRows r hr).1).mp h
  obtain ⟨⟨hfirst, hlast, -⟩, -⟩ := CaseRow.image?_eq_some_iff.mp himage
  have hn : (Char.ofNat n).toNat = n :=
    CaseRow.toNat_ofNat_of_characters (proper_foldRows r hr).2.1 hfirst hlast
  rw [fold_of_image? hr (hn.symm ▸ himage), Char.ofNat_toNat]

/-- The case variants of a character are the characters that fold as it does. -/
theorem mem_caseVariants_iff : d ∈ caseVariants c ↔ fold d = fold c := by
  unfold caseVariants CaseMap.sources
  rw [List.mem_cons, List.mem_filterMap]
  constructor
  · rintro (rfl | ⟨r, hr, hd⟩)
    · exact fold_fold c
    · obtain ⟨n, hn, rfl⟩ := Option.map_eq_some_iff.mp hd
      exact fold_of_source? hr hn
  · intro h
    rcases fold_eq_or d with hd | ⟨r, hr, hd⟩
    · exact .inl (hd.symm.trans h)
    · refine .inr ⟨r, hr, Option.map_eq_some_iff.mpr ⟨d.toNat, ?_, Char.ofNat_toNat d⟩⟩
      rw [CaseRow.source?_eq_some_iff_image? (proper_foldRows r hr).1, hd, h]

end Landscape.Text

namespace Landscape.CharSet

theorem mem_fold_single_iff {c d : Char} :
    (fold (single c)).mem d = true ↔ Text.fold d = Text.fold c := by
  simp only [mem_fold, mem_single, exists_eq_right, Text.mem_caseVariants_iff]
  exact eq_comm

end Landscape.CharSet
