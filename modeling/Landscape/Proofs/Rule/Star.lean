import Landscape.Proofs.Pattern.Footprint
import Landscape.Proofs.Rule.Glob

namespace Landscape

/-!
# Terms with a star

A term with a star is a glob. It is refused only where the pattern of the glob is too large, which
takes some ten thousand stars, and otherwise it accepts what the glob matches.
-/

open Text

/-! ## The variants of a character -/

namespace CharSet

theorem extent_fold_single (c : Char) : (fold (single c)).extent =
    Ranges.union [(c.toNat, c.toNat)] (variants [(c.toNat, c.toNat)]) := by
  rw [extent, extent_single]

/-- A code point that no row moves and none moves to has no variants. -/
theorem variants_eq_nil {n : Nat} (h : ∀ r ∈ foldRows,
    (n < r.first ∨ r.last < n) ∧ (n < r.target ∨ r.target + (r.last - r.first) < n)) :
    variants [(n, n)] = [] := by
  have hnone : ∀ e ∈ foldPairs,
      ¬ (Ranges.contains [(n, n)] e.1 || Ranges.contains [(n, n)] e.2) := by
    intro e he
    obtain ⟨r, hr, he⟩ := List.mem_flatMap.mp he
    obtain ⟨i, hi, rfl⟩ := List.mem_map.mp he
    have hle : i * r.step ≤ r.last - r.first :=
      (Nat.mul_le_mul_right r.step (Nat.le_of_lt_succ (List.mem_range.mp hi))).trans
        (Nat.div_mul_le_self _ _)
    have hproper := (proper_foldRows r hr).1
    obtain ⟨hsource, htarget⟩ := h r hr
    simp only [Ranges.contains_cons, Ranges.contains_nil, Bool.or_false, Bool.or_eq_true,
      Bool.and_eq_true, decide_eq_true_eq]
    omega
  unfold variants
  rw [List.filter_eq_nil_iff.mpr hnone]
  simp

end CharSet

/-! ## The size of a glob -/

namespace Glob

open Pattern

variable {c : Char} {glob : List Char}

/-- The size of what a character of a glob is compiled into. -/
def charSize (c : Char) : Footprint := (charPattern c).simplified.size false

theorem parts_simplified_charPattern (c : Char) :
    (charPattern c).simplified.parts = [(charPattern c).simplified] := by
  unfold charPattern
  split <;> rfl

theorem simplified_pattern (glob : List Char) : (pattern glob).simplified =
    sequence ((place .textStart :: glob.map fun c => (charPattern c).simplified) ++
      [place .textEnd]) := by
  have hatoms : ∀ p ∈ place .textStart :: glob.map charPattern ++ [place .textEnd],
      p.simplified.parts = [p.simplified] := by
    intro p hp
    rw [List.mem_append, List.mem_cons, List.mem_map, List.mem_singleton] at hp
    rcases hp with (rfl | ⟨c, -, rfl⟩) | rfl
    · rfl
    · exact parts_simplified_charPattern c
    · rfl
  have hseq : (pattern glob).simplified =
      sequence ([] ++ (sequence
        (place .textStart :: glob.map charPattern ++ [place .textEnd])).simplified.parts) := rfl
  rw [hseq, parts_simplified_sequence hatoms, List.map_append, List.map_cons, List.map_map]
  rfl

/-- A glob is as large as its characters, the two ends and what leads to them. -/
theorem footprint_pattern (glob : List Char) : (pattern glob).footprint =
    ⟨(glob.map fun c => (charSize c).forward).sum + 192,
      (glob.map fun c => (charSize c).backward).sum + 128⟩ := by
  have hstart : (pattern glob).simplified.fixedAtStart = true := by
    rw [simplified_pattern]
    cases glob <;> rfl
  have hend : (pattern glob).simplified.fixedAtEnd = true := by
    rw [simplified_pattern]
    exact fixedAtEnd_sequence _
  have hchars (f : Footprint → Nat) : (glob.map fun c => (charPattern c).simplified).map
      (fun p => f (p.size false)) = glob.map fun c => f (charSize c) := List.map_map
  have hplace (a : Anchor) : (place a).size false = ⟨32, 32⟩ := rfl
  rw [footprint, hstart, hend, simplified_pattern, size_sequence (by simp)]
  simp only [List.map_append, List.map_cons, List.map_nil, List.sum_append, List.sum_cons,
    List.sum_nil, hplace, hchars fun f => f.forward, hchars fun f => f.backward]
  rw [Footprint.mk_add_mk, Footprint.mk.injEq]
  simp only [leadSize, if_true, Footprint.state]
  constructor <;> omega

theorem charSize_star : charSize '*' = ⟨464, 1040⟩ := by
  have hextent : CharSet.notLineFeed.extent = [(0, 9), (11, 0x10FFFF)] := by cbv
  have hnormal : (CharSet.ranges [(0, 9), (11, 0x10FFFF)]).extent = [(0, 9), (11, 0x10FFFF)] := by
    rw [CharSet.extent, Ranges.normal_of_pairwise (by decide) (by decide)]
  have hsize : charSize '*' = timesFootprint (one (.ranges CharSet.notLineFeed.extent)) 0 none
      (.ofRanges (CharSet.ranges CharSet.notLineFeed.extent).extent) := rfl
  rw [hsize, hextent, timesFootprint_one (hnormal.trans_ne (by decide)), hnormal]
  decide +kernel

theorem charSize_of_variants (hc : c ≠ '*') {rs : Ranges}
    (h : CharSet.variants [(c.toNat, c.toNat)] = rs) :
    charSize c = .ofRanges (Ranges.normal (Ranges.union [(c.toNat, c.toNat)] rs)) := by
  have hchar : charPattern c = .letter c := if_neg hc
  have hsize : (letter c).simplified.size false =
      .ofRanges (Ranges.normal (CharSet.fold (.single c)).extent) := rfl
  rw [charSize, hchar, hsize, CharSet.extent_fold_single, h]

/-- A character without case takes a state for each of its bytes. -/
theorem charSize_of_uncased (hc : c ≠ '*') (h : ∀ r ∈ foldRows,
    (c.toNat < r.first ∨ r.last < c.toNat) ∧
      (c.toNat < r.target ∨ r.target + (r.last - r.first) < c.toNat)) :
    charSize c = .both (Footprint.state * (Utf8.bytes c.toNat).length) := by
  rw [charSize_of_variants hc (CharSet.variants_eq_nil h), Ranges.union, List.append_nil,
    Ranges.normal_singleton, Ranges.normal_singleton, Footprint.ofRanges, if_pos rfl]

/-- The sign for Kelvin is a variant of a `k`. -/
theorem charSize_k : charSize 'k' = ⟨168, 236⟩ := by
  have hvariants : CharSet.variants [('k'.toNat, 'k'.toNat)] =
      [(0x4B, 0x4B), (0x6B, 0x6B), (0x212A, 0x212A), (0x6B, 0x6B)] := by decide +kernel
  rw [charSize_of_variants (by decide) hvariants]
  cbv

theorem count_star_le (glob : List Char) :
    glob.count '*' * 1040 ≤ (glob.map fun c => (charSize c).backward).sum := by
  induction glob with
  | nil => exact Nat.zero_le _
  | cons c glob ih =>
      rw [List.map_cons, List.sum_cons]
      by_cases hc : c = '*'
      · rw [hc, List.count_cons_self, charSize_star, Nat.add_mul, Nat.one_mul, Nat.add_comm]
        exact Nat.add_le_add_left ih 1040
      · rw [List.count_cons_of_ne hc]
        exact ih.trans (Nat.le_add_left _ _)

/-- Some ten thousand stars are too many. -/
theorem not_fits_of_le_count (h : 10083 ≤ glob.count '*') :
    (pattern glob).footprint.fits = false := by
  have hle := count_star_le glob
  rw [footprint_pattern, Footprint.fits, Bool.and_eq_false_iff]
  refine .inr (decide_eq_false ?_)
  dsimp only [Footprint.limit]
  omega

end Glob

/-! ## Reading a term with a star -/

namespace Matcher

variable {term : List Char}

theorem after?_eq_none {mark : List Char} (h : ¬ mark <+: term) : after? mark term = none := by
  rw [Option.eq_none_iff_forall_ne_some]
  intro rest hrest
  exact h ⟨rest, (after?_eq_some.mp hrest).symm⟩

theorem ofTerm_of_star (hstar : '*' ∈ trim term) (hregex : ¬ ['r', 'e', ':'] <+: trim term) :
    ofTerm term =
      if (Glob.pattern (trim term)).footprint.fits then
        .ok (pattern (String.ofList (Glob.source (trim term))) (Glob.pattern (trim term)))
      else .error (.invalidGlob (String.ofList (trim term))
        (PatternError.tooLarge Footprint.limit).message) := by
  have hne : (trim term).isEmpty = false := by
    rw [List.isEmpty_eq_false_iff]
    exact List.ne_nil_of_mem hstar
  have hafter : after? ['r', 'e', ':'] (trim term) = none := after?_eq_none hregex
  unfold ofTerm
  simp only [hne, hafter, List.contains_iff_mem, hstar, Pattern.ofGlob_eq, Bool.false_eq_true,
    if_false, if_true]
  split_ifs <;> rfl

/-- A term with some ten thousand stars is refused. -/
theorem ofTerm_of_le_count (hcount : 10083 ≤ (trim term).count '*')
    (hregex : ¬ ['r', 'e', ':'] <+: trim term) :
    ofTerm term = .error (.invalidGlob (String.ofList (trim term))
      (PatternError.tooLarge Footprint.limit).message) := by
  have hstar : '*' ∈ trim term := List.count_pos_iff.mp ((Nat.zero_lt_succ _).trans_le hcount)
  rw [ofTerm_of_star hstar hregex, Glob.not_fits_of_le_count hcount, if_neg Bool.false_ne_true]

/-- A term with a star that is no regular expression is read as the pattern of a glob, which the
regular expression that writes the term reads back as, and is refused only if that is too large.
What it gives accepts a name if and only if the name is cut into pieces for the characters of the
term: a star takes any run of characters but line feeds, every other character one that folds as it
does. -/
theorem accepts_glob_iff (hstar : '*' ∈ trim term)
    (hregex : ¬ ['r', 'e', ':'] <+: trim term) :
    let p := Glob.pattern (trim term)
    let m := pattern (String.ofList (Glob.source (trim term))) p
    Pattern.ofText (Glob.source (trim term)) =
        (if p.footprint.fits then .ok p else .error (.tooLarge Footprint.limit)) ∧
      ofTerm term =
        (if p.footprint.fits then .ok m
        else .error (.invalidGlob (String.ofList (trim term))
          (PatternError.tooLarge Footprint.limit).message)) ∧
      ∀ name, m.accepts name = true ↔ Glob.Matches (trim term) name.toList :=
  ⟨Glob.patternOfText_source _, ofTerm_of_star hstar hregex, fun _ => Pattern.occursIn_glob_iff⟩

/-- The point of a glob is a point, its brackets are brackets, and the sign for Kelvin is a `k`. -/
theorem accepts_glob_of_kelvin :
    ∃ m, ofTerm " a.*(k) ".toList = .ok m ∧ m.accepts "A.b.c(\u212a)" = true ∧
      m.accepts "aXb.c(k)" = false := by
  have hstar : '*' ∈ trim " a.*(k) ".toList := by decide +kernel
  have hregex : ¬ ['r', 'e', ':'] <+: trim " a.*(k) ".toList := by decide +kernel
  have htrim : trim " a.*(k) ".toList = ['a', '.', '*', '(', 'k', ')'] := by decide +kernel
  have hfits : (Glob.pattern ['a', '.', '*', '(', 'k', ')']).footprint.fits = true := by
    have ha : Glob.charSize 'a' = ⟨80, 80⟩ := by
      have hvariants : CharSet.variants [('a'.toNat, 'a'.toNat)] =
          [(0x41, 0x41), (0x61, 0x61)] := by decide +kernel
      rw [Glob.charSize_of_variants (by decide) hvariants]
      cbv
    have hpoint := Glob.charSize_of_uncased (c := '.') (by decide) (by decide +kernel)
    have hopen := Glob.charSize_of_uncased (c := '(') (by decide) (by decide +kernel)
    have hclose := Glob.charSize_of_uncased (c := ')') (by decide) (by decide +kernel)
    rw [Glob.footprint_pattern]
    simp only [List.map_cons, List.map_nil, ha, hpoint, hopen, hclose, Glob.charSize_star,
      Glob.charSize_k]
    decide +kernel
  obtain ⟨-, hm, haccepts⟩ := accepts_glob_iff hstar hregex
  rw [htrim] at hm haccepts
  rw [if_pos hfits] at hm
  refine ⟨_, hm, (haccepts _).mpr ?_, ?_⟩
  · refine ⟨[['A'], ['.'], ['b', '.', 'c'], ['('], ['\u212a'], [')']], by decide +kernel, ?_⟩
    exact .cons (Glob.fits_of_fold_eq (by decide) (by decide +kernel))
      (.cons (Glob.fits_of_fold_eq (by decide) rfl)
        (.cons (Glob.fits_star (by decide))
          (.cons (Glob.fits_of_fold_eq (by decide) rfl)
            (.cons (Glob.fits_of_fold_eq (by decide) (by decide +kernel))
              (.cons (Glob.fits_of_fold_eq (by decide) rfl) .nil)))))
  · decide +kernel

end Matcher

end Landscape
