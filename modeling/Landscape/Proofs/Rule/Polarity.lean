import Landscape.Proofs.Route.Written
import Landscape.Proofs.Slice
import Landscape.Rule.CommitRule
import Landscape.Rule.FileRule

namespace Landscape

/-!
# Rules of both polarities

A rule is a choice of clauses, and a clause asks for all of its terms. An including rule
keeps the things that some clause is true of, an excluding rule keeps the others.
-/

open Text

/-! ## Terms -/

namespace Term

/-- The text writes a test, and the test holds. -/
def TrueOf {α : Type} (test : List Char → Except RuleError α) (holds : α → Bool)
    (t : List Char) : Prop :=
  ∃ a, test t = .ok a ∧ holds a = true

/-- A mark before a term turns the truth of the term round. -/
def Turns {α χ : Type} (test : List Char → Except RuleError α) (holds : χ → α → Bool) : Prop :=
  ∀ s t, trim s = '!' :: t → (∃ a, test s = .ok a) →
    ∀ x, TrueOf test (holds x) s ↔ ¬ TrueOf test (holds x) t

section

variable {α : Type} {turn : α → α} {atom : List Char → Except RuleError α}

theorem trueOf_map_iff {β : Type} {test : List Char → Except RuleError α} {f : α → β}
    {holds : β → Bool} {t : List Char} :
    TrueOf (fun t => f <$> test t) holds t ↔ TrueOf test (fun a => holds (f a)) t := by
  simp [TrueOf, map_eq_ok_iff]

theorem ofText_of_mark {s t : List Char} (h : trim s = '!' :: t) :
    ofText turn atom s = turn <$> ofText turn atom t := by
  rw [ofText]
  split
  · rename_i rest hrest
    rw [h] at hrest
    cases hrest
    rfl
  · rename_i hno
    exact absurd h (hno t)

theorem turns_ofText {χ : Type} {holds : χ → α → Bool}
    (hturn : ∀ x a, holds x (turn a) = !holds x a) : Turns (ofText turn atom) holds := by
  intro s t hs hread x
  obtain ⟨b, hb⟩ := hread
  rw [ofText_of_mark hs, map_eq_ok_iff] at hb
  obtain ⟨a, ha, rfl⟩ := hb
  simp [TrueOf, ofText_of_mark hs, ha, hturn]

end

end Term

namespace ProjectLeaf

/-- A term without an arrow is true of a project if its test holds, a term with an arrow is true
of none. -/
def TrueOf (p : Project) (t : List Char) : Prop :=
  hasArrow t = false ∧ Term.TrueOf ProjectTest.ofText (ProjectTest.holds p) t

/-- The same leaf in a rule of another polarity. -/
def withPolicy (policy : Policy) : ProjectLeaf → ProjectLeaf
  | test l => test { l with policy := policy }
  | route r => route { r with policy := policy }

variable {g : Graph} {usual : Option Nat}

theorem ofText_eq_withPolicy (policy : Policy) (t : List Char) :
    ofText g policy usual t = withPolicy policy <$> ofText g .including usual t := by
  unfold ofText
  split
  · unfold Route.ofText
    cases RouteText.ofText usual t <;> rfl
  · cases ProjectTest.ofText t <;> rfl

theorem trueOf_ofText_iff (policy : Policy) (p : Project) (t : List Char) :
    Term.TrueOf (ofText g policy usual) (holdsOf p) t ↔ TrueOf p t := by
  cases harrow : hasArrow t <;>
    simp [TrueOf, Term.TrueOf, ofText, harrow, map_eq_ok_iff, holdsOf]

end ProjectLeaf

/-! ## Rules -/

/-- What rules of one kind keep, where `read` reads them and `trueOf` says which terms are true of
a thing. -/
structure Polar {ρ χ : Type} (read : Policy → List Char → Except RuleError ρ)
    (keeps : ρ → χ → Bool) (trueOf : χ → List Char → Prop) : Prop where
  /-- A text can be read in both polarities or in none. -/
  readable (rule : List Char) :
    (∃ r, read .including rule = .ok r) ↔ ∃ r, read .excluding rule = .ok r
  including {rule : List Char} {r : ρ} : read .including rule = .ok r → ∀ x,
    (keeps r x = true ↔ ∃ clause ∈ Formula.pieces rule, ∀ t ∈ clause, trueOf x t)
  excluding {rule : List Char} {r : ρ} : read .excluding rule = .ok r → ∀ x,
    (keeps r x = true ↔ ¬ ∃ clause ∈ Formula.pieces rule, ∀ t ∈ clause, trueOf x t)
  /-- A blank text is a rule whose one term is true of everything. -/
  blank {rule : List Char} : trim rule = [] → (∃ r, read .including rule = .ok r) ∧
    ∀ x, ∃ clause ∈ Formula.pieces rule, ∀ t ∈ clause, trueOf x t

section

variable {α χ : Type} {term : Policy → List Char → Except RuleError α} {policyOf : α → Policy}
  {v : χ → α → Verdict} {hit : χ → α → Bool} {trueOf : χ → List Char → Prop}

/-- Rules are polar if their leaves bear the polarity of the rule and match where their terms are
true. -/
theorem polar_of_leaves {turn : α → α}
    (hturn : ∀ t, term .excluding t = turn <$> term .including t)
    (hpolicy : ∀ policy t a, term policy t = .ok a → policyOf a = policy)
    (hv : ∀ x a, v x a = .ofMatch (policyOf a) (hit x a))
    (htrue : ∀ x policy t, Term.TrueOf (term policy) (hit x) t ↔ trueOf x t)
    {a : α} (hempty : term .including [] = .ok a) (hany : ∀ x, hit x a = true) :
    Polar (fun policy => Formula.ofRule (term policy)) (fun f x => f.keeps policyOf (v x))
      trueOf where
  readable rule := by
    have hrule : Formula.ofRule (term .excluding) rule =
        Formula.map turn <$> Formula.ofRule (term .including) rule := by
      rw [funext hturn, Formula.ofRule_map]
    rw [hrule]
    cases Formula.ofRule (term .including) rule <;> simp [Functor.map, Except.map]
  including {rule f} h x := by
    have hp := Formula.forall_mem_leaves (hpolicy .including) h
    have hkeeps := Formula.keeps_iff_of_policy h hp fun b hb => hp b hb ▸ hv x b
    simp only [true_iff] at hkeeps
    rw [hkeeps]
    exact exists_congr fun c => and_congr_right' (forall₂_congr fun t _ => htrue x _ t)
  excluding {rule f} h x := by
    have hp := Formula.forall_mem_leaves (hpolicy .excluding) h
    have hkeeps := Formula.keeps_iff_of_policy h hp fun b hb => hp b hb ▸ hv x b
    simp only [reduceCtorEq, false_iff] at hkeeps
    rw [hkeeps, not_iff_not]
    exact exists_congr fun c => and_congr_right' (forall₂_congr fun t _ => htrue x _ t)
  blank {rule} hblank := by
    have hpieces : Formula.pieces rule = [[[]]] := by
      unfold Formula.pieces
      rw [hblank]
      rfl
    refine ⟨⟨.leaf a, ?_⟩, fun x => ?_⟩
    · rw [Formula.ofRule_of_trim_eq_nil _ hblank, hempty]
      rfl
    · have hx : trueOf x [] := (htrue x .including []).mp ⟨a, hempty, hany x⟩
      simpa [hpieces] using hx

end

theorem Leaf.polar_formulaOfRule {α χ : Type} {test : List Char → Except RuleError α}
    {holds : χ → α → Bool} {a : α} (hempty : test [] = .ok a) (hany : ∀ x, holds x a = true) :
    Polar (formulaOfRule test)
      (fun f x => Formula.keeps Leaf.policy (Leaf.verdict (holds x)) f)
      (fun x => Term.TrueOf test (holds x)) := by
  have hturn (t : List Char) : (⟨·, .excluding⟩ : α → Leaf α) <$> test t =
      (fun l : Leaf α => ⟨l.test, .excluding⟩) <$> (⟨·, .including⟩ : α → Leaf α) <$> test t := by
    cases test t <;> rfl
  have hpolicy (policy : Policy) (t : List Char) (l : Leaf α)
      (hl : (⟨·, policy⟩) <$> test t = .ok l) : l.policy = policy := by
    obtain ⟨b, -, rfl⟩ := map_eq_ok_iff.mp hl
    rfl
  have hverdict (x : χ) (l : Leaf α) :
      l.verdict (holds x) = .ofMatch l.policy (holds x l.test) := rfl
  refine polar_of_leaves hturn hpolicy hverdict ?_ (a := ⟨a, .including⟩) ?_ hany
  · intro x policy t
    exact Term.trueOf_map_iff
  · rw [hempty]
    rfl

theorem ProjectRule.polar_ofText (g : Graph) (usual : Option Nat) :
    Polar (fun policy => ofText g policy usual) keepsProject ProjectLeaf.TrueOf := by
  have hpolicy (policy : Policy) (t : List Char) (l : ProjectLeaf)
      (hl : ProjectLeaf.ofText g policy usual t = .ok l) : l.policy = policy :=
    ProjectLeaf.policy_of_ofText hl
  have hany (p : Project) : ProjectLeaf.holdsOf p (.test ⟨.any, .including⟩) = true := rfl
  exact polar_of_leaves (ProjectLeaf.ofText_eq_withPolicy .excluding) hpolicy
    ProjectLeaf.onProject_eq_ofMatch (fun p policy => ProjectLeaf.trueOf_ofText_iff policy p)
    (ProjectLeaf.ofText_nil g .including usual) hany

/-- Rules on projects, files and commits keep what all terms of one of their clauses are true of,
or the others. A mark turns a term round, and a term with an arrow is true of no project. -/
theorem rules_polar :
    ((∀ g usual, Polar (fun policy => ProjectRule.ofText g policy usual) ProjectRule.keepsProject
        ProjectLeaf.TrueOf) ∧
      Polar FileRule.ofText FileRule.keeps
        (fun f => Term.TrueOf FileTest.ofText (FileTest.holds f)) ∧
      Polar CommitRule.ofText CommitRule.keeps
        (fun c => Term.TrueOf CommitTest.ofText (CommitTest.holds c))) ∧
    (Term.Turns ProjectTest.ofText ProjectTest.holds ∧
      Term.Turns FileTest.ofText FileTest.holds ∧
      Term.Turns CommitTest.ofText CommitTest.holds) ∧
    ∀ p t, ProjectLeaf.hasArrow t = true → ¬ ProjectLeaf.TrueOf p t := by
  refine ⟨⟨ProjectRule.polar_ofText, ?_, ?_⟩, ⟨?_, ?_, ?_⟩, ?_⟩
  · exact Leaf.polar_formulaOfRule (a := .any) (by cbv) fun f => rfl
  · exact Leaf.polar_formulaOfRule (a := .any) (by cbv) fun c => rfl
  · exact Term.turns_ofText fun p t => rfl
  · exact Term.turns_ofText fun f t => rfl
  · exact Term.turns_ofText fun c t => rfl
  · intro p t harrow htrue
    have hno := htrue.1
    rw [harrow] at hno
    cases hno

/-- A rule of a path and a test keeps `web` in one polarity and drops it in the other, for its
second clause is true of `web`. -/
theorem rules_polar_of_two_clauses :
    ∃ adds drops web, web = Project.new ⟨1⟩ "web" ∧
      ProjectRule.ofText .empty .including none "-> id:2 | id:1 & !id:2".toList = .ok adds ∧
      ProjectRule.ofText .empty .excluding none "-> id:2 | id:1 & !id:2".toList = .ok drops ∧
      drops.keepsProject web = false ∧
      (adds.keepsProject web = true ∧
        ∃ clause ∈ Formula.pieces "-> id:2 | id:1 & !id:2".toList,
          ∀ t ∈ clause, ProjectLeaf.TrueOf web t) ∧
      ¬ ProjectLeaf.TrueOf web "-> id:2".toList := by
  have hkept {rule : List Char} {adds : ProjectRule} {p : Project}
      (hadds : ProjectRule.ofText .empty .including none rule = .ok adds)
      (hkeeps : adds.keepsProject p = true) : adds.keepsProject p = true ∧
        ∃ clause ∈ Formula.pieces rule, ∀ t ∈ clause, ProjectLeaf.TrueOf p t :=
    ⟨hkeeps, ((rules_polar.1.1 .empty none).including hadds p).mp hkeeps⟩
  have hroute (policy : Policy) : ProjectLeaf.ofText .empty policy none "-> id:2".toList =
      .ok (.route (.resolve .empty policy "-> id:2" ⟨.any, none, false, .id ⟨2⟩⟩)) := by
    rw [ProjectTerm.search_ofText,
      ProjectTerm.ofText_goal policy none rfl (by cbv) (by decide) (by cbv)]
    rfl
  have hread (policy : Policy) :
      ProjectRule.ofText .empty policy none "-> id:2 | id:1 & !id:2".toList =
        .ok (.any [.leaf (.route (.resolve .empty policy "-> id:2" ⟨.any, none, false, .id ⟨2⟩⟩)),
          .all [.leaf (.test ⟨.id ⟨1⟩, policy⟩), .leaf (.test ⟨.not (.id ⟨2⟩), policy⟩)]]) := by
    rw [ProjectRule.ofText,
      ← Function.update_eq_self "-> id:2".toList (ProjectLeaf.ofText .empty policy none), hroute]
    cbv
  refine ⟨_, _, _, rfl, hread _, hread _, by cbv, hkept (hread _) ?_, rules_polar.2.2 _ _ ?_⟩
  · cbv
  · decide

end Landscape
