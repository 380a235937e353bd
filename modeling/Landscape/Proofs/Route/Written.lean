import Landscape.Proofs.Route.Grammar
import Landscape.Proofs.Rule.Unsearched

namespace Landscape

/-!
# How the mark `R` is written

A route is written as a text, an arrow and another text. The mark stands at the end of what the
arrow carries, so putting it there changes nothing else that is read.
-/

open Text

namespace Formula

variable {α : Type} {term : List Char → Except RuleError α} {rule : List Char}

/-- A rule of one term has neither a bar nor an ampersand. -/
theorem ofRule_eq_ok_leaf_iff {a : α} : ofRule term rule = .ok (leaf a) ↔
    '|' ∉ trim rule ∧ '&' ∉ trim rule ∧ term (trim rule) = .ok a := by
  unfold ofRule
  by_cases hbar : '|' ∈ trim rule
  · simp only [List.contains_iff_mem, hbar, if_true, not_true_eq_false, false_and, iff_false]
    intro h
    obtain ⟨fs, -, hfs⟩ := map_eq_ok_iff.mp h
    cases hfs
  · unfold ofTerms
    by_cases hand : '&' ∈ trim rule
    · simp only [List.contains_iff_mem, hbar, hand, if_true, if_false, not_true_eq_false,
        false_and, and_false, iff_false]
      intro h
      obtain ⟨fs, -, hfs⟩ := map_eq_ok_iff.mp h
      cases hfs
    · simp only [List.contains_iff_mem, hbar, hand, if_false, not_false_eq_true, true_and]
      rw [map_eq_ok_iff]
      simp

end Formula

namespace ProjectLeaf

theorem hasArrow_append (s t : List Char) : hasArrow (s ++ '-' :: '>' :: t) = true := by
  induction s with
  | nil => rfl
  | cons c s ih =>
      rw [List.cons_append]
      unfold hasArrow
      split
      · rfl
      · rename_i heq
        cases heq
        exact ih
      · rename_i heq
        cases heq

end ProjectLeaf

namespace RouteText

/-! ## The mark -/

/-- The text ends in a hyphen and digits, or in a hyphen. -/
def Annotated (left : List Char) : Prop :=
  ∃ source digits, (∀ c ∈ digits, CharSet.digit.mem c = true) ∧ left = source ++ '-' :: digits

/-- The text before an arrow, with the mark put on the arrow. -/
def mark (left : List Char) : List Char :=
  match left.reverse.dropWhile CharSet.digit.mem with
  | '-' :: _ => left ++ ['R']
  | _ => left ++ ['-', 'R']

theorem reverse_eq_of_dropWhile {back rest : List Char}
    (h : back.dropWhile CharSet.digit.mem = '-' :: rest) :
    back.reverse = rest.reverse ++ '-' :: (back.takeWhile CharSet.digit.mem).reverse := by
  calc back.reverse = (back.takeWhile CharSet.digit.mem ++ '-' :: rest).reverse := by
        rw [← h, List.takeWhile_append_dropWhile]
    _ = _ := by simp

theorem annotated_of_dropWhile {left rest : List Char}
    (h : left.reverse.dropWhile CharSet.digit.mem = '-' :: rest) : Annotated left := by
  refine ⟨rest.reverse, (left.reverse.takeWhile CharSet.digit.mem).reverse, fun c hc => ?_, ?_⟩
  · exact List.mem_takeWhile_imp (List.mem_reverse.mp hc)
  · rw [← reverse_eq_of_dropWhile h, List.reverse_reverse]

theorem mark_append (source : List Char) {digits : List Char}
    (hdigits : ∀ c ∈ digits, CharSet.digit.mem c = true) :
    mark (source ++ '-' :: digits) = source ++ '-' :: (digits ++ ['R']) := by
  unfold mark
  rw [dropWhile_reverse_append _ hdigits]
  simp

theorem mark_of_not_annotated {left : List Char} (h : ¬ Annotated left) :
    mark left = left ++ '-' :: ([] ++ ['R']) := by
  unfold mark
  split
  · rename_i hdrop
    exact absurd (annotated_of_dropWhile hdrop) h
  · rfl

/-- The mark changes nothing else that an arrow carries. -/
theorem Carries.mark {left source digits : List Char} (h : Carries left source ⟨digits, false⟩) :
    Carries (RouteText.mark left) source ⟨digits, true⟩ := by
  rcases h with ⟨hdigits, rfl⟩ | ⟨hnone, rfl, hload⟩
  · refine .inl ⟨hdigits, ?_⟩
    simpa using mark_append source hdigits
  · cases hload
    have hplain : ¬ Annotated source := by
      rintro ⟨s, ds, hds, hs⟩
      exact hnone s ⟨ds, false⟩ ⟨hds, by simpa using hs⟩
    exact .inl ⟨by simp, mark_of_not_annotated hplain⟩

/-! ## The whole text -/

theorem annotated_trimStart_iff {left : List Char} :
    Annotated (trimStart left) ↔ Annotated left := by
  constructor
  · rintro ⟨source, digits, hdigits, heq⟩
    refine ⟨left.takeWhile isBlank ++ source, digits, hdigits, ?_⟩
    calc left = left.takeWhile isBlank ++ trimStart left := by
          rw [trimStart, List.takeWhile_append_dropWhile]
      _ = _ := by rw [heq, List.append_assoc]
  · rintro ⟨source, digits, hdigits, rfl⟩
    exact ⟨trimStart source, digits, hdigits, trimStart_append_cons (by decide) source digits⟩

theorem trimStart_mark (left : List Char) : trimStart (mark left) = mark (trimStart left) := by
  by_cases hleft : Annotated left
  · obtain ⟨source, digits, hdigits, rfl⟩ := hleft
    rw [mark_append _ hdigits, trimStart_append_cons (by decide), trimStart_append_cons (by decide),
      mark_append _ hdigits]
  · rw [mark_of_not_annotated hleft, trimStart_append_cons (by decide),
      mark_of_not_annotated (mt annotated_trimStart_iff.mp hleft)]

theorem mem_mark_iff {c : Char} (hc : c ≠ '-' ∧ c ≠ 'R') {left : List Char} :
    c ∈ mark left ↔ c ∈ left := by
  unfold mark
  split <;> simp [hc]

/-- A route without the mark can be read with it, and reads the same but for the mark. -/
theorem ofText_mark {left right : List Char} {usual : Option Nat} {t : RouteText}
    (h : ofText usual (left ++ '-' :: '>' :: right) = .ok t) (ht : t.required = false) :
    ofText usual (mark left ++ '-' :: '>' :: right) = .ok { t with required := true } := by
  have harrow : OneArrow (trim (left ++ '-' :: '>' :: right)) := by
    by_contra hnone
    rw [ofText_of_not_oneArrow hnone] at h
    cases h
  obtain ⟨source, ⟨digits, required⟩, hcarries⟩ := exists_load (trimStart left)
  obtain ⟨hs, hfits, hbound, hrequired, hd⟩ :=
    (ofText_eq_ok_iff (trim_arrow left right) harrow hcarries).mp h
  obtain rfl : false = required := ht.symm.trans hrequired
  have hmarked : trim (mark left ++ '-' :: '>' :: right) =
      mark (trimStart left) ++ '-' :: '>' :: trimEnd right := by
    rw [trim_arrow, trimStart_mark]
  have harrow' : OneArrow (trim (mark left ++ '-' :: '>' :: right)) := by
    rw [trim_arrow] at harrow
    obtain ⟨hleft, hright⟩ := harrow.not_mem
    rw [hmarked]
    exact oneArrow_iff.mpr ⟨_, _, rfl, mt (mem_mark_iff (by decide)).mp hleft, hright⟩
  exact (ofText_eq_ok_iff hmarked harrow' hcarries.mark).mpr ⟨hs, hfits, hbound, rfl, hd⟩

end RouteText

/-! ## Rules of one route -/

section

variable (policy : Policy) (usual : Option Nat) {rule : String} {dest : List Char}
  {t : ProjectTest} (hrule : rule.toList = '-' :: '>' :: dest)
  (htrim : trim rule.toList = rule.toList) (hmarks : '>' ∉ dest ∧ '|' ∉ dest ∧ '&' ∉ dest)
  (ht : ProjectTest.ofText dest = .ok t)

include hrule htrim hmarks ht

/-- The route from anywhere to a goal. -/
theorem ProjectTerm.ofText_goal : ofText policy usual rule.toList =
    .ok (.route policy rule ⟨.any, usual, false, t⟩) := by
  have harrow : ProjectLeaf.hasArrow rule.toList = true := by rw [hrule, ProjectLeaf.hasArrow]
  have hread : RouteText.ofText usual rule.toList = .ok ⟨.any, usual, false, t⟩ := by
    rw [hrule, RouteText.ofText_goal hmarks.1, ht]
    rfl
  rw [ofText, if_pos harrow, hread, htrim, String.ofList_toList]
  rfl

theorem ProjectTerm.ofRule_goal : Formula.ofRule (ofText policy usual) rule.toList =
    .ok (.leaf (.route policy rule ⟨.any, usual, false, t⟩)) := by
  rw [Formula.ofRule_eq_ok_leaf_iff, htrim]
  exact ⟨by simp [hrule, hmarks], by simp [hrule, hmarks],
    ofText_goal policy usual hrule htrim hmarks ht⟩

theorem ProjectRule.ofText_goal (g : Graph) : ofText g policy usual rule.toList =
    .ok (.leaf (.route (Route.resolve g policy rule ⟨.any, usual, false, t⟩))) := by
  rw [ofText_eq, ProjectTerm.ofRule_goal policy usual hrule htrim hmarks ht]
  rfl

end

end Landscape
