import Landscape.Proofs.Text.Fold
import Landscape.Text.Lower

namespace Landscape.Text

/-!
# Lower case and folding

Two texts that have the same lower case fold alike, character by character, unless a stray stands in
one of them against its lower case in the other. Folding takes a stray for nothing but itself, while
its lower case is another character, or two.
-/

/-- The characters that do not fold as their lower case does: the capital i with a dot above, which
has a lower case of two characters, and capitals that have got a lower case after the rows of
folding were drawn up. -/
def strays : List Char :=
  '\u0130' :: '\ua7ce' :: '\ua7d2' :: '\ua7d4' ::
    (List.range 25).map fun k => Char.ofNat (0x16EA0 + k)

/-! ## The rows of lower case -/

namespace CaseRow

/-- The row that moves characters back to where they came from. -/
def back (r : CaseRow) : CaseRow := ⟨r.target, r.target + (r.last - r.first), r.step, r.first⟩

theorem image?_back {r : CaseRow} {n m : Nat} (h : r.image? n = some m) :
    r.back.image? m = some n := by
  obtain ⟨⟨hfirst, hlast, hstep⟩, rfl⟩ := image?_eq_some_iff.mp h
  rw [image?_eq_some_iff]
  simp only [back]
  rw [Nat.add_sub_cancel_left]
  exact ⟨⟨Nat.le_add_right _ _, by omega, hstep⟩, by omega⟩

end CaseRow

variable {c d : Char} {r : CaseRow} {s t : List Char} {n m : Nat}

/-- A row of lower case is one of folding or goes back along one, but for two of them: the first
covers three of the strays among others, the second covers strays only. -/
theorem mem_foldRows_or : ∀ r ∈ lowerRows, r ∈ foldRows ∨ r.back ∈ foldRows ∨
    r = ⟨0xA7CC, 0xA7DA, 2, 0xA7CD⟩ ∨ r = ⟨0x16EA0, 0x16EB8, 1, 0x16EBB⟩ := by
  decide +kernel

/-- A character with a lower case folds to it or is what it folds to, unless it is a stray. -/
theorem exists_foldRow_of_lowerRow (hr : r ∈ lowerRows) (h : r.image? n = some m) :
    Char.ofNat n ∈ strays ∨ ∃ q ∈ foldRows, q.image? n = some m ∨ q.image? m = some n := by
  rcases mem_foldRows_or r hr with hfold | hback | rfl | rfl
  · exact .inr ⟨r, hfold, .inl h⟩
  · exact .inr ⟨r.back, hback, .inr (CaseRow.image?_back h)⟩
  · obtain ⟨⟨hfirst, hlast, hstep⟩, rfl⟩ := CaseRow.image?_eq_some_iff.mp h
    dsimp only at hfirst hlast hstep ⊢
    have hn : n = 0xA7CC ∨ n = 0xA7CE ∨ n = 0xA7D0 ∨ n = 0xA7D2 ∨ n = 0xA7D4 ∨
        0xA7D6 ≤ n := by omega
    rcases hn with rfl | rfl | rfl | rfl | rfl | hn
    · exact .inr ⟨⟨0xA7CC, 0xA7CC, 1, 0xA7CD⟩, by decide +kernel, .inl rfl⟩
    · exact .inl (by decide)
    · exact .inr ⟨⟨0xA7D0, 0xA7D0, 1, 0xA7D1⟩, by decide +kernel, .inl rfl⟩
    · exact .inl (by decide)
    · exact .inl (by decide)
    · refine .inr ⟨⟨0xA7D6, 0xA7DA, 2, 0xA7D7⟩, by decide +kernel, .inl ?_⟩
      rw [CaseRow.image?_eq_some_iff]
      dsimp only
      omega
  · obtain ⟨⟨hfirst, hlast, -⟩, -⟩ := CaseRow.image?_eq_some_iff.mp h
    dsimp only at hfirst hlast
    have hk : Char.ofNat (0x16EA0 + (n - 0x16EA0)) ∈
        (List.range 25).map fun k => Char.ofNat (0x16EA0 + k) :=
      List.mem_map_of_mem (List.mem_range.mpr (by omega))
    rw [Nat.add_sub_cancel' hfirst] at hk
    left
    unfold strays
    exact List.mem_cons_of_mem _ (List.mem_cons_of_mem _ (List.mem_cons_of_mem _
      (List.mem_cons_of_mem _ hk)))

/-! ## Strays -/

/-- Any other character has one character for its lower case, which folds as it does. -/
theorem lower_of_not_stray (hc : c ∉ strays) : ∃ d, lower c = [d] ∧ fold d = fold c := by
  have hdot : c.toNat ≠ 0x130 := by
    intro h
    have hchar : c = '\u0130' := by rw [← Char.ofNat_toNat c, h]
    exact hc (hchar ▸ List.mem_cons_self)
  refine ⟨lowerRows.apply c, if_neg hdot, ?_⟩
  unfold CaseMap.apply
  cases hfind : lowerRows.findSome? fun r => r.image? c.toNat with
  | none => rfl
  | some m =>
      obtain ⟨r, hr, h⟩ := List.exists_of_findSome?_eq_some hfind
      rcases exists_foldRow_of_lowerRow hr h with hstray | ⟨q, hq, himage | himage⟩
      · rw [Char.ofNat_toNat] at hstray
        exact absurd hstray hc
      · show fold (Char.ofNat m) = fold c
        rw [← fold_of_image? hq himage, fold_fold]
      · -- the row of folding leads from the lower case back to the character
        have hm : (Char.ofNat m).toNat = m := by
          obtain ⟨⟨hfirst, hlast, -⟩, -⟩ := CaseRow.image?_eq_some_iff.mp himage
          exact CaseRow.toNat_ofNat_of_characters (proper_foldRows q hq).2.1 hfirst hlast
        have hback : fold (Char.ofNat m) = c := by
          rw [fold_of_image? hq (hm.symm ▸ himage), Char.ofNat_toNat]
        show fold (Char.ofNat m) = fold c
        rw [← hback, fold_fold]

/-- No row of folding moves a stray, and none moves a character to a stray. -/
theorem image?_source?_strays : ∀ c ∈ strays, ∀ r ∈ foldRows,
    r.image? c.toNat = none ∧ r.source? c.toNat = none := by
  have hall : (strays.all fun c => foldRows.all fun r =>
      (r.image? c.toNat).isNone && (r.source? c.toNat).isNone) = true := by decide +kernel
  simpa only [List.all_eq_true, Bool.and_eq_true, Option.isNone_iff_eq_none] using hall

/-- Nothing folds as a stray does but itself. -/
theorem eq_of_fold_eq_stray (hc : c ∈ strays) (h : fold d = fold c) : d = c := by
  have hrows := image?_source?_strays c hc
  rw [fold_of_forall_image?_eq_none fun r hr => (hrows r hr).1] at h
  rcases fold_eq_or d with hd | ⟨r, hr, hd⟩
  · exact hd.symm.trans h
  · rw [h, ← CaseRow.source?_eq_some_iff_image? (proper_foldRows r hr).1, (hrows r hr).2] at hd
    cases hd

/-- The characters are the same, or neither of them is a stray. -/
def Alike (c d : Char) : Prop := c = d ∨ c ∉ strays ∧ d ∉ strays

instance {c d : Char} : Decidable (Alike c d) := inferInstanceAs (Decidable (_ ∨ _))

theorem alike_of_fold_eq (h : fold c = fold d) : Alike c d := by
  by_cases hc : c ∈ strays
  · exact .inl (eq_of_fold_eq_stray hc h.symm).symm
  · by_cases hd : d ∈ strays
    · exact .inl (eq_of_fold_eq_stray hd h)
    · exact .inr ⟨hc, hd⟩

theorem length_lower_of_alike (h : Alike c d) : (lower c).length = (lower d).length := by
  rcases h with rfl | ⟨hc, hd⟩
  · rfl
  · obtain ⟨c', hlower, -⟩ := lower_of_not_stray hc
    obtain ⟨d', hlower', -⟩ := lower_of_not_stray hd
    rw [hlower, hlower']
    rfl

theorem fold_eq_of_lower_eq (halike : Alike c d) (h : lower c = lower d) : fold c = fold d := by
  rcases halike with rfl | ⟨hc, hd⟩
  · rfl
  · obtain ⟨c', hlower, hfold⟩ := lower_of_not_stray hc
    obtain ⟨d', hlower', hfold'⟩ := lower_of_not_stray hd
    obtain rfl : c' = d' := by simpa [hlower, hlower'] using h
    exact hfold.symm.trans hfold'

/-! ## Texts -/

theorem lowerAll_eq_nil_iff : lowerAll s = [] ↔ s = [] := by
  cases s with
  | nil => exact iff_of_true rfl rfl
  | cons c s =>
      have hne : lower c ≠ [] := by
        unfold lower
        split <;> exact List.cons_ne_nil _ _
      rw [lowerAll_cons]
      exact iff_of_false (fun h => hne (List.append_eq_nil_iff.mp h).1) (List.cons_ne_nil c s)

theorem length_lowerAll_of_fold_eq (h : s.map fold = t.map fold) :
    (lowerAll s).length = (lowerAll t).length := by
  induction s generalizing t with
  | nil =>
      rw [List.map_nil, eq_comm, List.map_eq_nil_iff] at h
      rw [h]
  | cons c s ih =>
      cases t with
      | nil => cases h
      | cons d t =>
          obtain ⟨hfold, h⟩ := List.cons.inj h
          rw [lowerAll_cons, lowerAll_cons, List.length_append, List.length_append, ih h,
            length_lower_of_alike (alike_of_fold_eq hfold)]

/-- Of texts with the same lower case, those fold alike in which no stray stands against another
character. -/
theorem map_fold_eq_iff (h : lowerAll s = lowerAll t) :
    s.map fold = t.map fold ↔ List.Forall₂ Alike s t := by
  constructor
  · intro hfold
    have hall : List.Forall₂ (fun c d => fold c = fold d) s t := by
      rw [← List.forall₂_map_left_iff (R := fun c d => c = fold d), ← List.forall₂_map_right_iff,
        List.forall₂_eq_eq_eq]
      exact hfold
    exact hall.imp fun c d => alike_of_fold_eq
  · intro halike
    induction halike with
    | nil => rfl
    | cons hcd _ ih =>
        obtain ⟨hlower, hrest⟩ := List.append_inj h (length_lower_of_alike hcd)
        rw [List.map_cons, List.map_cons, fold_eq_of_lower_eq hcd hlower, ih hrest]

/-- Without strays, the lower case of a text folds as the text does. -/
theorem map_fold_lowerAll (hs : ∀ c ∈ s, c ∉ strays) : (lowerAll s).map fold = s.map fold := by
  induction s with
  | nil => rfl
  | cons c s ih =>
      obtain ⟨hc, hs⟩ := List.forall_mem_cons.mp hs
      obtain ⟨d, hlower, hfold⟩ := lower_of_not_stray hc
      rw [lowerAll_cons, hlower, List.singleton_append, List.map_cons, List.map_cons, hfold, ih hs]

end Landscape.Text
