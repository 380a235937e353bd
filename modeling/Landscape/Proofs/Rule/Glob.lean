import Landscape.Proofs.Pattern.Search
import Landscape.Proofs.Runs
import Landscape.Proofs.Text.Fold
import Landscape.Rule.Matcher

namespace Landscape

/-!
# Globs

A glob matches a name that is cut into pieces, one for each character of the glob: a star takes any
piece within a line, every other character takes one character that folds as it does. That is what
the pattern of a glob takes, and the regular expression that writes a glob is read as a pattern that
takes the same.
-/

open Text

/-! ## What a glob matches -/

namespace Glob

/-- The piece is one that the character of a glob may stand for. -/
def Fits (c : Char) (piece : List Char) : Prop :=
  if c = '*' then '\n' ∉ piece else ∃ d, piece = [d] ∧ fold d = fold c

/-- The name is cut into pieces that the characters of the glob stand for, one after the other. -/
def Matches (glob name : List Char) : Prop :=
  ∃ pieces, pieces.flatten = name ∧ List.Forall₂ Fits glob pieces

variable {c : Char} {glob name : List Char}

theorem fits_star {piece : List Char} (h : '\n' ∉ piece) : Fits '*' piece := h

theorem fits_of_fold_eq {d : Char} (hc : c ≠ '*') (h : fold d = fold c) : Fits c [d] := by
  unfold Fits
  rw [if_neg hc]
  exact ⟨d, rfl, h⟩

theorem matches_nil_iff : Matches [] name ↔ name = [] := by
  constructor
  · rintro ⟨pieces, rfl, h⟩
    cases h
    rfl
  · rintro rfl
    exact ⟨[], rfl, .nil⟩

theorem matches_cons_iff : Matches (c :: glob) name ↔
    ∃ piece rest, name = piece ++ rest ∧ Fits c piece ∧ Matches glob rest := by
  constructor
  · rintro ⟨pieces, rfl, h⟩
    cases h with
    | cons hc h => exact ⟨_, _, List.flatten_cons, hc, _, rfl, h⟩
  · rintro ⟨piece, rest, rfl, hc, pieces, rfl, h⟩
    exact ⟨piece :: pieces, List.flatten_cons, .cons hc h⟩

end Glob

/-! ## What the pattern of a glob takes -/

namespace Glob

def charPattern (c : Char) : Pattern :=
  if c = '*' then .run .notLineFeed else .letter c

/-- The pattern of a glob; what sets the flags takes nothing. -/
def pattern (glob : List Char) : Pattern :=
  .seq .empty (.sequence (.place .textStart :: glob.map charPattern ++ [.place .textEnd]))

end Glob

namespace Pattern

variable {prev next : Option Char} {s : List Char}

theorem takes_letter_iff {c : Char} :
    (letter c).Takes prev s next ↔ ∃ d, s = [d] ∧ fold d = fold c := by
  simp only [letter, Takes, CharSet.mem_fold_single_iff]

theorem takes_charPattern_iff {c : Char} :
    (Glob.charPattern c).Takes prev s next ↔ Glob.Fits c s := by
  unfold Glob.charPattern Glob.Fits
  split
  · have hmem (c : Char) : CharSet.notLineFeed.mem c = true ↔ c ≠ '\n' := by
      rw [CharSet.notLineFeed, CharSet.mem_compl, Bool.not_eq_true', ← Bool.not_eq_true,
        CharSet.mem_single]
    simp only [takes_run_iff, hmem]
    exact ⟨fun h hs => h _ hs rfl, fun h c hc heq => h (heq ▸ hc)⟩
  · exact takes_letter_iff

theorem takes_sequence_cons (p : Pattern) (ps : List Pattern) :
    (sequence (p :: ps)).Takes = Joined p.Takes (sequence ps).Takes := by
  cases ps with
  | nil => exact joined_empty_right.symm
  | cons q ps => rfl

theorem takes_charPatterns_iff {glob : List Char} :
    (sequence (glob.map Glob.charPattern ++ [place .textEnd])).Takes prev s next ↔
      next = none ∧ Glob.Matches glob s := by
  induction glob generalizing prev s with
  | nil =>
      rw [Glob.matches_nil_iff, and_comm]
      exact and_congr_right fun _ => Option.isNone_iff_eq_none
  | cons c glob ih =>
      rw [List.map_cons, List.cons_append, takes_sequence_cons, Glob.matches_cons_iff]
      constructor
      · rintro ⟨piece, rest, heq, hc, hrest⟩
        obtain ⟨hnext, hmatches⟩ := ih.mp hrest
        exact ⟨hnext, piece, rest, heq, takes_charPattern_iff.mp hc, hmatches⟩
      · rintro ⟨hnext, piece, rest, heq, hc, hmatches⟩
        exact ⟨piece, rest, heq, takes_charPattern_iff.mpr hc, ih.mpr ⟨hnext, hmatches⟩⟩

/-- The pattern of a glob takes a text from its start to its end. -/
theorem takes_glob_iff {glob : List Char} :
    (Glob.pattern glob).Takes prev s next ↔
      prev = none ∧ next = none ∧ Glob.Matches glob s := by
  have htakes : (Glob.pattern glob).Takes = Joined (place .textStart).Takes
      (sequence (glob.map Glob.charPattern ++ [place .textEnd])).Takes := by
    rw [← takes_sequence_cons]
    exact joined_empty_left
  rw [htakes]
  constructor
  · rintro ⟨start, rest, rfl, ⟨rfl, hprev⟩, hrest⟩
    exact ⟨Option.isNone_iff_eq_none.mp hprev, takes_charPatterns_iff.mp hrest⟩
  · rintro ⟨rfl, hrest⟩
    exact ⟨[], s, rfl, ⟨rfl, rfl⟩, takes_charPatterns_iff.mpr hrest⟩

theorem wellCounted_sequence {ps : List Pattern} (h : ∀ p ∈ ps, p.WellCounted) :
    (sequence ps).WellCounted := by
  induction ps with
  | nil => trivial
  | cons p ps ih =>
      obtain ⟨hp, hps⟩ := List.forall_mem_cons.mp h
      cases ps with
      | nil => exact hp
      | cons q ps => exact ⟨hp, ih hps⟩

theorem wellCounted_glob (glob : List Char) : (Glob.pattern glob).WellCounted := by
  have hchar (c : Char) : (Glob.charPattern c).WellCounted := by
    unfold Glob.charPattern
    split
    · exact ⟨by simp, trivial⟩
    · trivial
  refine ⟨trivial, wellCounted_sequence fun p hp => ?_⟩
  simp only [List.cons_append, List.mem_cons, List.mem_append, List.mem_map, List.not_mem_nil,
    or_false] at hp
  rcases hp with rfl | ⟨c, -, rfl⟩ | rfl
  · trivial
  · exact hchar c
  · trivial

/-- A search for the pattern of a glob finds nothing but the whole text. -/
theorem occursIn_glob_iff {glob : List Char} :
    (Glob.pattern glob).occursIn s = true ↔ Glob.Matches glob s := by
  rw [occursIn_iff (wellCounted_glob glob)]
  simp only [takes_glob_iff, List.getLast?_eq_none_iff, List.head?_eq_none_iff]
  constructor
  · rintro ⟨before, taken, after, rfl, rfl, rfl, hmatches⟩
    simpa using hmatches
  · intro hmatches
    exact ⟨[], s, [], by simp, rfl, rfl, hmatches⟩

end Pattern

/-! ## Reading the regular expression of a glob -/

namespace Glob

variable {c : Char} {glob rest rest' : List Char} {st st' : Expr.ReadState} {items : List Expr}

/-- What is read where a character of a glob is written. -/
def charExpr (c : Char) : Expr :=
  if c = '*' then .times .dot 0 none false else .literal ⟨c, false⟩

theorem readAll_cons (hfree : st.free = false) (hstep : Expr.step st c rest = .ok (st', rest'))
    (hlength : rest'.length ≤ rest.length) :
    Expr.readAll st (c :: rest) = Expr.readAll st' rest' := by
  rw [Expr.readAll]
  simp only [Expr.skip, hfree, Bool.false_eq_true, reduceIte, hstep]
  exact if_pos (Nat.lt_succ_of_le hlength)

theorem escape_of_isSpecial (hc : isSpecial c = true) :
    Expr.escape false (c :: rest) = .ok (.literal ⟨c, false⟩, rest) := by
  simp only [isSpecial, List.contains_cons, List.contains_nil, Bool.or_eq_true, beq_iff_eq,
    Bool.or_false] at hc
  rcases hc with rfl | rfl | rfl | rfl | rfl | rfl | rfl | rfl | rfl | rfl | rfl | rfl | rfl | rfl |
    rfl | rfl | rfl | rfl <;> rfl

theorem step_of_not_isSpecial (hc : isSpecial c = false) :
    Expr.step st c rest =
      .ok ({ st with level := st.level.add (.literal ⟨c, false⟩) }, rest) := by
  unfold Expr.step
  split
  all_goals first
    | rfl
    | simp [isSpecial] at hc

/-- No character of a glob is written with a question mark first. -/
theorem isLazy_source (glob : List Char) :
    Expr.isLazy (glob.flatMap charSource ++ ['$']) = false := by
  cases glob with
  | nil => rfl
  | cons c glob =>
      rw [List.flatMap_cons]
      unfold charSource
      split
      · rfl
      · split
        · rfl
        · rename_i hspecial
          have hc : c ≠ '?' := by
            rintro rfl
            exact hspecial rfl
          simp [Expr.isLazy, hc]

theorem dropMark_of_isLazy (h : Expr.isLazy rest = false) : Expr.dropMark '?' rest = rest := by
  cases rest with
  | nil => rfl
  | cons c rest =>
      refine if_neg ?_
      rintro rfl
      cases h

/-- The state while the items of a glob are read. -/
def reading (items : List Expr) : Expr.ReadState := ⟨⟨[], items⟩, [], false, []⟩

theorem readAll_charSource (hrest : Expr.isLazy rest = false) :
    Expr.readAll (reading items) (charSource c ++ rest) =
      Expr.readAll (reading (charExpr c :: items)) rest := by
  unfold charSource charExpr
  split
  · have hdot : Expr.step (reading items) '.' ('*' :: rest) =
        .ok (reading (.dot :: items), '*' :: rest) := rfl
    have hstar : Expr.step (reading (.dot :: items)) '*' rest =
        .ok (reading (.times .dot 0 none (Expr.isLazy rest) :: items),
          Expr.dropMark '?' rest) := rfl
    rw [hrest, dropMark_of_isLazy hrest] at hstar
    exact (readAll_cons rfl hdot (Nat.le_refl _)).trans (readAll_cons rfl hstar (Nat.le_refl _))
  · split
    · rename_i hspecial
      have hstep : Expr.step (reading items) '\\' (c :: rest) =
          .ok (reading (.literal ⟨c, false⟩ :: items), rest) :=
        bind_eq_of_eq_ok (escape_of_isSpecial hspecial)
      exact readAll_cons rfl hstep (Nat.le_succ _)
    · rename_i hspecial
      exact readAll_cons rfl (step_of_not_isSpecial (by simpa using hspecial)) (Nat.le_refl _)

theorem readAll_charSources (glob : List Char) (items : List Expr) :
    Expr.readAll (reading items) (glob.flatMap charSource ++ ['$']) =
      .ok (Expr.sequenceOf (.lineEnd :: ((glob.map charExpr).reverse ++ items))) := by
  induction glob generalizing items with
  | nil =>
      have hstep : Expr.step (reading items) '$' [] = .ok (reading (.lineEnd :: items), []) := rfl
      rw [List.flatMap_nil, List.nil_append, readAll_cons rfl hstep (Nat.le_refl _), Expr.readAll]
      rfl
  | cons c glob ih =>
      rw [List.flatMap_cons, List.append_assoc, readAll_charSource (isLazy_source glob), ih]
      simp

theorem readAll_source (glob : List Char) :
    Expr.readAll .start (source glob) =
      .ok (Expr.sequenceOf (.lineEnd :: ((glob.map charExpr).reverse ++
        [.lineStart, .flags [(.ignoreCase, true)]]))) := by
  have hflags : Expr.step .start '('
      ('?' :: 'i' :: ')' :: '^' :: (glob.flatMap charSource ++ ['$'])) =
        .ok (reading [.flags [(.ignoreCase, true)]],
          '^' :: (glob.flatMap charSource ++ ['$'])) := rfl
  have hstart : Expr.step (reading [.flags [(.ignoreCase, true)]]) '^'
      (glob.flatMap charSource ++ ['$']) =
        .ok (reading [.lineStart, .flags [(.ignoreCase, true)]],
          glob.flatMap charSource ++ ['$']) := rfl
  have hsource : source glob =
      '(' :: '?' :: 'i' :: ')' :: '^' :: (glob.flatMap charSource ++ ['$']) := rfl
  rw [hsource, readAll_cons rfl hflags (by simp), readAll_cons rfl hstart (Nat.le_refl _)]
  exact readAll_charSources glob _

/-! ## From the expression to the pattern -/

theorem sequenceOf_cons_reverse (e : Expr) (es : List Expr) :
    Expr.sequenceOf (e :: es.reverse) = es.foldr Expr.seq e := by
  rw [← List.foldl_reverse]
  cases es.reverse <;> rfl

/-- The expression of a glob. -/
def expr (glob : List Char) : Expr :=
  .seq (.flags [(.ignoreCase, true)]) (.seq .lineStart ((glob.map charExpr).foldr .seq .lineEnd))

theorem depth_items_le (glob : List Char) :
    ((glob.map charExpr).foldr Expr.seq .lineEnd).depth .seq ≤ 1 := by
  induction glob with
  | nil => exact Nat.zero_le 1
  | cons c glob ih =>
      have hchar : (charExpr c).depth .seq ≤ 1 := by
        unfold charExpr
        split
        · exact Nat.le_refl 1
        · exact Nat.zero_le 1
      rw [List.map_cons, List.foldr_cons, Expr.depth, if_pos rfl, Nat.zero_add]
      exact Nat.max_le.mpr ⟨hchar, ih⟩

theorem ofText_source (glob : List Char) : Expr.ofText (source glob) = .ok (expr glob) := by
  have hexpr : Expr.sequenceOf (.lineEnd :: ((glob.map charExpr).reverse ++
      [.lineStart, .flags [(.ignoreCase, true)]])) = expr glob := by
    have hreverse : (glob.map charExpr).reverse ++ [.lineStart, .flags [(.ignoreCase, true)]] =
        (.flags [(.ignoreCase, true)] :: .lineStart :: glob.map charExpr).reverse := by simp
    rw [hreverse, sequenceOf_cons_reverse]
    rfl
  have hdepth : (expr glob).depth .none ≤ Expr.nestLimit := by
    have hitems := depth_items_le glob
    simp only [expr, Expr.depth, reduceIte, reduceCtorEq, Expr.nestLimit]
    omega
  unfold Expr.ofText
  rw [bind_eq_of_eq_ok ((readAll_source glob).trans (congrArg _ hexpr)), if_pos hdepth]

/-- The flags behind the mark for any case. -/
def flags : Expr.Flags := { Expr.Flags.start with ignoreCase := true }

theorem pattern_seq {a b : Expr} {p q : Pattern} {fs fs' fs'' : Expr.Flags}
    (ha : a.pattern fs = .ok (p, fs')) (hb : b.pattern fs' = .ok (q, fs'')) :
    (Expr.seq a b).pattern fs = .ok (.seq p q, fs'') := by
  rw [Expr.pattern, bind_eq_of_eq_ok ha]
  exact bind_eq_of_eq_ok hb

theorem pattern_items (glob : List Char) :
    ((glob.map charExpr).foldr Expr.seq .lineEnd).pattern flags =
      .ok (.sequence (glob.map charPattern ++ [.place .textEnd]), flags) := by
  induction glob with
  | nil => rfl
  | cons c glob ih =>
      have hchar : (charExpr c).pattern flags = .ok (charPattern c, flags) := by
        unfold charExpr charPattern
        split <;> rfl
      rw [List.map_cons, List.foldr_cons, pattern_seq hchar ih]
      cases glob <;> rfl

theorem pattern_expr (glob : List Char) :
    (expr glob).pattern .start = .ok (pattern glob, flags) := by
  have hitems : ((Expr.seq .lineStart ((glob.map charExpr).foldr .seq .lineEnd)).pattern flags) =
      .ok (.sequence (.place .textStart :: glob.map charPattern ++ [.place .textEnd]), flags) := by
    have hstart : Expr.lineStart.pattern flags = .ok (.place .textStart, flags) := rfl
    rw [pattern_seq hstart (pattern_items glob)]
    cases glob <;> rfl
  exact pattern_seq rfl hitems

/-- What writes a glob is read as the pattern of the glob, unless it is too large. -/
theorem patternOfText_source (glob : List Char) : Pattern.ofText (source glob) =
    if (pattern glob).footprint.fits then .ok (pattern glob)
    else .error (.tooLarge Footprint.limit) := by
  unfold Pattern.ofText
  rw [bind_eq_of_eq_ok (ofText_source glob), bind_eq_of_eq_ok (pattern_expr glob)]
  rfl

end Glob

theorem Pattern.ofGlob_eq (glob : List Char) : ofGlob glob =
    if (Glob.pattern glob).footprint.fits then .ok (Glob.pattern glob)
    else .error (.invalidGlob (String.ofList glob)
      (PatternError.tooLarge Footprint.limit).message) := by
  unfold ofGlob
  rw [Glob.patternOfText_source]
  split_ifs <;> rfl

end Landscape
