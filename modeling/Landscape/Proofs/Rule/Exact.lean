import Landscape.Proofs.Rule.Clauses
import Landscape.Proofs.Rule.Star
import Landscape.Proofs.Text.Lower

namespace Landscape

/-!
# Names and the globs that begin with them

A term without a star is compared by its lower case, a term with one by folding. So a term takes
more names when a star is put behind it, but for names where the capital i with a dot above, or
another stray, stands for its lower case.
-/

open Text

namespace Glob

variable {c : Char} {glob name : List Char}

theorem fits_iff_of_ne_star (hc : c ≠ '*') {piece : List Char} :
    Fits c piece ↔ ∃ d, piece = [d] ∧ fold d = fold c := by
  unfold Fits
  rw [if_neg hc]

/-- A star at the end takes what is left over of a line. -/
theorem matches_append_star_iff (hstar : '*' ∉ glob) : Matches (glob ++ ['*']) name ↔
    ∃ s rest, name = s ++ rest ∧ s.map fold = glob.map fold ∧ '\n' ∉ rest := by
  induction glob generalizing name with
  | nil =>
      rw [List.nil_append, matches_cons_iff]
      constructor
      · rintro ⟨piece, rest, rfl, hpiece, hrest⟩
        rw [matches_nil_iff.mp hrest, List.append_nil]
        exact ⟨[], piece, rfl, rfl, hpiece⟩
      · rintro ⟨s, rest, rfl, hs, hrest⟩
        rw [List.map_eq_nil_iff.mp hs, List.nil_append]
        exact ⟨rest, [], (List.append_nil rest).symm, hrest, matches_nil_iff.mpr rfl⟩
  | cons c glob ih =>
      rw [List.mem_cons, not_or] at hstar
      simp only [List.cons_append, matches_cons_iff, fits_iff_of_ne_star (Ne.symm hstar.1),
        ih hstar.2]
      constructor
      · rintro ⟨piece, tail, rfl, ⟨d, rfl, hfold⟩, s, rest, rfl, hs, hrest⟩
        exact ⟨d :: s, rest, rfl, by rw [List.map_cons, List.map_cons, hfold, hs], hrest⟩
      · rintro ⟨s, rest, rfl, hs, hrest⟩
        cases s with
        | nil => cases hs
        | cons d s =>
            obtain ⟨hfold, hs⟩ := List.cons.inj hs
            exact ⟨[d], s ++ rest, rfl, ⟨d, rfl, hfold⟩, s, rest, rfl, hs, hrest⟩

/-- Where the lower case is the same, a star has nothing left to take. -/
theorem matches_append_star_iff_of_lower (hstar : '*' ∉ glob)
    (h : lowerAll name = lowerAll glob) :
    Matches (glob ++ ['*']) name ↔ name.map fold = glob.map fold := by
  rw [matches_append_star_iff hstar]
  constructor
  · rintro ⟨s, rest, rfl, hs, -⟩
    have hlength := congrArg List.length h
    rw [lowerAll_append, List.length_append, length_lowerAll_of_fold_eq hs, Nat.add_eq_left,
      List.length_eq_zero_iff, lowerAll_eq_nil_iff] at hlength
    rw [hlength, List.append_nil]
    exact hs
  · intro hname
    exact ⟨name, [], (List.append_nil name).symm, hname, List.not_mem_nil⟩

end Glob

/-! ## Terms without a star -/

namespace Matcher

variable {term : List Char}

theorem ofTerm_of_name (hne : trim term ≠ []) (hstar : '*' ∉ trim term)
    (hregex : ¬ ['r', 'e', ':'] <+: trim term) :
    ofTerm term = .ok (exact (String.ofList (trim term))) := by
  have hafter : after? ['r', 'e', ':'] (trim term) = none := after?_eq_none hregex
  unfold ofTerm
  simp [hne, hafter, hstar]

theorem accepts_exact_iff {name : String} :
    (exact (String.ofList term)).accepts name = true ↔ lowerAll name.toList = lowerAll term := by
  rw [accepts, sameLower_iff, String.toList_ofList]

theorem trim_append_star (term : List Char) : trim (trim term ++ ['*']) = trim term ++ ['*'] := by
  have hstart : trimStart (trim term) = trim term := trimStart_trimEnd (trimStart_trimStart term)
  rw [trim, trimStart_append_cons (by decide), trimEnd_append_cons (by decide), hstart]
  rfl

theorem not_isPrefix_append_star (h : ¬ ['r', 'e', ':'] <+: term) :
    ¬ ['r', 'e', ':'] <+: term ++ ['*'] := by
  rw [List.prefix_concat_iff]
  rintro (heq | hregex)
  · simpa using congrArg List.getLast? heq
  · exact h hregex

theorem ofTerm_append_star (hregex : ¬ ['r', 'e', ':'] <+: trim term) :
    ofTerm (trim term ++ ['*']) =
      if (Glob.pattern (trim term ++ ['*'])).footprint.fits then
        .ok (pattern (String.ofList (Glob.source (trim term ++ ['*'])))
          (Glob.pattern (trim term ++ ['*'])))
      else .error (.invalidGlob (String.ofList (trim term ++ ['*']))
        (PatternError.tooLarge Footprint.limit).message) := by
  have hread := @ofTerm_of_star (trim term ++ ['*'])
  rw [trim_append_star] at hread
  exact hread (List.mem_append_right _ List.mem_cons_self) (not_isPrefix_append_star hregex)

/-- A term that is a name takes the names of the same lower case. Put a star behind it, and of these
it still takes those in which no stray stands against another character, so all of them if there are
no strays. The term with the star is read unless it is too large, as is the regular expression that
writes it. -/
theorem accepts_star_iff (hne : trim term ≠ []) (hstar : '*' ∉ trim term)
    (hregex : ¬ ['r', 'e', ':'] <+: trim term) :
    let m := exact (String.ofList (trim term))
    let p := Glob.pattern (trim term ++ ['*'])
    let g := pattern (String.ofList (Glob.source (trim term ++ ['*']))) p
    ofTerm term = .ok m ∧
      ofTerm (trim term ++ ['*']) =
        (if p.footprint.fits then .ok g
        else .error (.invalidGlob (String.ofList (trim term ++ ['*']))
          (PatternError.tooLarge Footprint.limit).message)) ∧
      Pattern.ofText (Glob.source (trim term ++ ['*'])) =
        (if p.footprint.fits then .ok p else .error (.tooLarge Footprint.limit)) ∧
      (∀ name, m.accepts name = true ↔ lowerAll name.toList = lowerAll (trim term)) ∧
      ∀ name, m.accepts name = true →
        (g.accepts name = true ↔ List.Forall₂ Alike name.toList (trim term)) ∧
        ((∀ c ∈ strays, c ∉ name.toList ∧ c ∉ trim term) → g.accepts name = true) := by
  refine ⟨ofTerm_of_name hne hstar hregex, ofTerm_append_star hregex, Glob.patternOfText_source _,
    fun name => accepts_exact_iff, fun name hname => ?_⟩
  have haccepts : (pattern (String.ofList (Glob.source (trim term ++ ['*'])))
      (Glob.pattern (trim term ++ ['*']))).accepts name = true ↔
        Glob.Matches (trim term ++ ['*']) name.toList := Pattern.occursIn_glob_iff
  have hlower := accepts_exact_iff.mp hname
  rw [haccepts, Glob.matches_append_star_iff_of_lower hstar hlower]
  refine ⟨map_fold_eq_iff hlower, fun hstrays => ?_⟩
  have hleft : ∀ c ∈ name.toList, c ∉ strays := fun c hc hstray => (hstrays c hstray).1 hc
  have hright : ∀ c ∈ trim term, c ∉ strays := fun c hc hstray => (hstrays c hstray).2 hc
  rw [← map_fold_lowerAll hleft, hlower, map_fold_lowerAll hright]

theorem charSize_i : Glob.charSize 'i' = ⟨80, 80⟩ := by
  have hvariants : CharSet.variants [('i'.toNat, 'i'.toNat)] =
      [(0x49, 0x49), (0x69, 0x69)] := by decide +kernel
  rw [Glob.charSize_of_variants (by decide) hvariants]
  cbv

/-- The sign for Kelvin has a `k` for its lower case and folds to it. The capital i with a dot above
is taken where it stands in the term, and not where its lower case does. -/
theorem accepts_star_iff_of_kelvin :
    ∃ m g, ofTerm " kilİ ".toList = .ok m ∧ ofTerm "kilİ*".toList = .ok g ∧
      (m.accepts "\u212aILİ" = true ∧ g.accepts "\u212aILİ" = true) ∧
      (m.accepts "\u212aILi̇" = true ∧ g.accepts "\u212aILi̇" = false) := by
  have htrim : trim " kilİ ".toList = ['k', 'i', 'l', 'İ'] := by decide +kernel
  have hfits : (Glob.pattern ['k', 'i', 'l', 'İ', '*']).footprint.fits = true := by
    have hl : Glob.charSize 'l' = ⟨80, 80⟩ := by
      have hvariants : CharSet.variants [('l'.toNat, 'l'.toNat)] =
          [(0x4C, 0x4C), (0x6C, 0x6C)] := by decide +kernel
      rw [Glob.charSize_of_variants (by decide) hvariants]
      cbv
    have hdot := Glob.charSize_of_uncased (c := 'İ') (by decide) (by decide +kernel)
    rw [Glob.footprint_pattern]
    simp only [List.map_cons, List.map_nil, charSize_i, hl, hdot, Glob.charSize_star,
      Glob.charSize_k]
    decide +kernel
  obtain ⟨hm, hg, -, hname, hstar⟩ := @accepts_star_iff " kilİ ".toList
    (by decide +kernel) (by decide +kernel) (by decide +kernel)
  rw [htrim] at hm hg hname hstar
  rw [List.cons_append, List.cons_append, List.cons_append, List.cons_append, List.nil_append,
    if_pos hfits] at hg
  have hkelvin := (hname "\u212aILİ").mpr (by decide +kernel)
  have hdot := (hname "\u212aILi̇").mpr (by decide +kernel)
  refine ⟨_, _, hm, hg, ⟨hkelvin, (hstar _ hkelvin).1.mpr (by decide +kernel)⟩, hdot, ?_⟩
  rw [← Bool.not_eq_true]
  exact fun h => absurd ((hstar _ hdot).1.mp h) (by decide +kernel)

/-- The lower case of the capital i with a dot above, which is an `i` and the dot, is a term that
takes this name. With a star behind it, it does not. -/
theorem exists_accepts_without_star :
    ¬ ∀ term : List Char, trim term = term → term ≠ [] → '*' ∉ term →
      ¬ ['r', 'e', ':'] <+: term → ∀ m g, ofTerm term = .ok m → ofTerm (term ++ ['*']) = .ok g →
        ∀ name, m.accepts name = true → g.accepts name = true := by
  intro h
  have hfits : (Glob.pattern (trim ['i', '̇', '*'])).footprint.fits = true := by
    have htrim : trim ['i', '̇', '*'] = ['i', '̇', '*'] := by decide +kernel
    have hdot := Glob.charSize_of_uncased (c := '̇') (by decide) (by decide +kernel)
    rw [htrim, Glob.footprint_pattern]
    simp only [List.map_cons, List.map_nil, charSize_i, hdot, Glob.charSize_star]
    decide +kernel
  have hglob := @ofTerm_of_star ['i', '̇', '*'] (by decide +kernel) (by decide +kernel)
  rw [if_pos hfits] at hglob
  have hname := h ['i', '̇'] (by decide +kernel) (by decide) (by decide) (by decide) _ _
    (ofTerm_of_name (by decide +kernel) (by decide +kernel) (by decide +kernel)) hglob "İ"
    (by decide +kernel)
  have hglob : (pattern (String.ofList (Glob.source (trim ['i', '̇', '*'])))
      (Glob.pattern (trim ['i', '̇', '*']))).accepts "İ" = false := by decide +kernel
  exact absurd (hglob.symm.trans hname) Bool.false_ne_true

end Matcher

end Landscape
