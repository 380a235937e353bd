import Landscape.Rule.Formula

namespace Landscape

/-!
# Verdicts of formulas

Merging is decided by the strongest verdict of a list. So a choice of formulas keeps a thing
when none of them excludes it and either one includes it or all are ready to keep it.
-/

namespace Verdict

theorem mergeAll_eq_excluded_iff {vs : List Verdict} : mergeAll vs = excluded ↔ excluded ∈ vs := by
  induction vs with
  | nil => simp
  | cons v vs ih =>
      rw [mergeAll_cons, merge_eq_excluded_iff, ih, List.mem_cons]
      exact or_congr_left eq_comm

theorem mergeAll_eq_neutral_iff {vs : List Verdict} :
    mergeAll vs = neutral ↔ ∀ v ∈ vs, v = neutral := by
  induction vs with
  | nil => simp
  | cons v vs ih => simp [merge_eq_neutral_iff, ih]

theorem mergeAll_eq_included_iff {vs : List Verdict} :
    mergeAll vs = included ↔ excluded ∉ vs ∧ included ∈ vs := by
  induction vs with
  | nil => simp
  | cons v vs ih =>
      rw [mergeAll_cons, List.mem_cons, List.mem_cons]
      cases h : mergeAll vs with
      | neutral =>
          have hall := mergeAll_eq_neutral_iff.mp h
          have hex : excluded ∉ vs := fun hm => Verdict.noConfusion (hall excluded hm)
          have hin : included ∉ vs := fun hm => Verdict.noConfusion (hall included hm)
          cases v <;> simp [merge, hex, hin]
      | included =>
          have hin := ih.mp h
          cases v <;> simp [merge, hin]
      | excluded =>
          have hex := mergeAll_eq_excluded_iff.mp h
          cases v <;> simp [merge, hex]

@[simp] theorem ofMatch_true (policy : Policy) : ofMatch policy true = policy.verdict := rfl

@[simp] theorem ofMatch_false (policy : Policy) : ofMatch policy false = neutral := rfl

theorem merge_ofMatch (policy : Policy) (a b : Bool) :
    (ofMatch policy a).merge (ofMatch policy b) = ofMatch policy (a || b) := by
  cases a <;> cases b <;> simp

/-- Matches of one polarity merge to a match of any of them. -/
theorem mergeAll_map_ofMatch {α : Type} (policy : Policy) (hit : α → Bool) (as : List α) :
    mergeAll (as.map fun a => ofMatch policy (hit a)) = ofMatch policy (as.any hit) := by
  induction as with
  | nil => rfl
  | cons a as ih => rw [List.map_cons, mergeAll_cons, ih, merge_ofMatch, List.any_cons]

/-- Matches of one polarity have in common a match of all of them. -/
theorem common_map_ofMatch {α : Type} (policy : Policy) (hit : α → Bool) {as : List α}
    (h : as ≠ []) :
    common (as.map fun a => ofMatch policy (hit a)) = ofMatch policy (as.all hit) := by
  cases as with
  | nil => exact absurd rfl h
  | cons a as =>
      cases ha : hit a with
      | true =>
          have hone (b : α) : (ofMatch policy (hit b) == policy.verdict) = hit b := by
            cases policy <;> cases hit b <;> rfl
          simp only [List.map_cons, common, List.all_map, Function.comp_def, ha, ofMatch_true, hone,
            List.all_cons, Bool.true_and]
          rfl
      | false => simp [common, ha]

end Verdict

namespace Formula

variable {α : Type}

theorem keepsByDefault_any (policy : α → Policy) (fs : List (Formula α)) :
    (any fs).keepsByDefault policy = fs.all (keepsByDefault policy) := by
  rw [keepsByDefault, leaves_any, leavesAll_eq_flatMap, List.all_flatMap]
  rfl

theorem keeps_eq_true_iff {policy : α → Policy} {v : α → Verdict} {f : Formula α} :
    f.keeps policy v = true ↔
      f.verdict v = .included ∨ f.verdict v = .neutral ∧ f.keepsByDefault policy = true := by
  unfold keeps
  cases f.verdict v <;> simp [settle]

/-- What a choice of formulas keeps. -/
theorem keeps_any_iff {policy : α → Policy} {v : α → Verdict} {fs : List (Formula α)} :
    (any fs).keeps policy v = true ↔
      (∀ f ∈ fs, f.verdict v ≠ .excluded) ∧
        ((∃ f ∈ fs, f.verdict v = .included) ∨ ∀ f ∈ fs, f.keepsByDefault policy = true) := by
  rw [keeps_eq_true_iff, verdict_any, keepsByDefault_any, Verdict.mergeAll_eq_included_iff,
    Verdict.mergeAll_eq_neutral_iff, List.all_eq_true]
  simp only [List.mem_map, forall_exists_index, and_imp, forall_apply_eq_imp_iff₂]
  constructor
  · rintro (⟨hno, f, hf, hv⟩ | ⟨hneutral, hkeep⟩)
    · exact ⟨fun f hf hex => hno ⟨f, hf, hex⟩, Or.inl ⟨f, hf, hv⟩⟩
    · exact ⟨fun f hf => by simp [hneutral f hf], Or.inr hkeep⟩
  · rintro ⟨hno, hkeep⟩
    by_cases hin : ∃ f ∈ fs, f.verdict v = .included
    · exact Or.inl ⟨fun ⟨f, hf, hex⟩ => hno f hf hex, hin⟩
    · refine Or.inr ⟨fun f hf => ?_, hkeep.resolve_left hin⟩
      cases hv : f.verdict v with
      | neutral => rfl
      | included => exact absurd ⟨f, hf, hv⟩ hin
      | excluded => exact absurd hv (hno f hf)

/-! ## Formulas with other leaves -/

section

variable {β : Type} (g : α → β)

mutual

theorem leaves_map : ∀ f : Formula α, (map g f).leaves = f.leaves.map g
  | leaf _ => rfl
  | all fs => leavesAll_mapAll fs
  | any fs => leavesAll_mapAll fs

theorem leavesAll_mapAll : ∀ fs : List (Formula α), leavesAll (mapAll g fs) = (leavesAll fs).map g
  | [] => rfl
  | f :: fs => by
      simp only [mapAll, leavesAll, List.map_append]
      rw [leaves_map f, leavesAll_mapAll fs]

end

mutual

/-- The verdict comes from the verdicts of the leaves alone. -/
theorem verdict_map_congr {v : β → Verdict} {w : α → Verdict} :
    ∀ f : Formula α, (∀ a ∈ f.leaves, v (g a) = w a) → (map g f).verdict v = f.verdict w
  | leaf a, h => h a (List.mem_singleton.mpr rfl)
  | all fs, h => congrArg Verdict.common (verdicts_mapAll_congr fs h)
  | any fs, h => congrArg Verdict.mergeAll (verdicts_mapAll_congr fs h)

theorem verdicts_mapAll_congr {v : β → Verdict} {w : α → Verdict} :
    ∀ fs : List (Formula α), (∀ a ∈ leavesAll fs, v (g a) = w a) →
      verdicts v (mapAll g fs) = verdicts w fs
  | [], _ => rfl
  | f :: fs, h => by
      simp only [mapAll, verdicts]
      rw [verdict_map_congr f fun a ha => h a (List.mem_append_left _ ha),
        verdicts_mapAll_congr fs fun a ha => h a (List.mem_append_right _ ha)]

end

theorem keeps_map_congr {policy : β → Policy} {policy' : α → Policy} {v : β → Verdict}
    {w : α → Verdict} {f : Formula α} (hpolicy : ∀ a, policy (g a) = policy' a)
    (hv : ∀ a ∈ f.leaves, v (g a) = w a) :
    (map g f).keeps policy v = f.keeps policy' w := by
  have hdefault : (map g f).keepsByDefault policy = f.keepsByDefault policy' := by
    unfold keepsByDefault
    rw [leaves_map, List.all_map]
    congr 1
    funext a
    exact congrArg Policy.keepsByDefault (hpolicy a)
  unfold keeps
  rw [verdict_map_congr g f hv]
  cases f.verdict w with
  | neutral => exact hdefault
  | included => rfl
  | excluded => rfl

end

end Formula

end Landscape
