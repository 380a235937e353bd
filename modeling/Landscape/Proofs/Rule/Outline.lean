import Landscape.CommandLine.Basic
import Landscape.Proofs.Rule.Unsearched

namespace Landscape

/-!
# What a check of a rule tells

A rule is checked against a graph without projects. The graph, the policy and the usual bound
decide what the routes of a rule find and nothing else: not whether the rule can be read, what
is wrong with it, or which terms it has.
-/

open Text

namespace RouteText

/-- The usual bound stands in where the text gives none. -/
theorem readBound_eq_map (rule : List Char) (usual : Option Nat) (digits : Option (List Char)) :
    readBound rule usual digits = (·.or usual) <$> readBound rule none digits := by
  unfold readBound
  cases digits with
  | none => rfl
  | some digits =>
      dsimp only
      cases readNumeral boundLimit digits <;> rfl

theorem ofText_eq_map (usual : Option Nat) (rule : List Char) :
    ofText usual rule = (fun t => { t with bound := t.bound.or usual }) <$> ofText none rule := by
  simp only [ofText, readBound_eq_map _ usual]
  split
  · rfl
  · rename_i groups _
    cases ProjectTest.ofText ((groups.group? 1).getD []) with
    | error e => rfl
    | ok source =>
        cases readBound (trim rule) none (groups.group? 2) with
        | error e => rfl
        | ok bound => cases ProjectTest.ofText ((groups.group? 4).getD []) <;> rfl

end RouteText

/-! ## Outlines -/

/-- What is fixed of a term by its text: the test, or the text of a route and whether it has the
mark `R`. -/
inductive Outline where
  | test (t : ProjectTest)
  | route (rule : String) (required : Bool)
  deriving DecidableEq

def ProjectLeaf.outline : ProjectLeaf → Outline
  | test l => .test l.test
  | route r => .route r.rule r.required

def ProjectTerm.outline : ProjectTerm → Outline
  | test l => .test l.test
  | route _ rule t => .route rule t.required

/-- The form of a rule: how its terms are joined, and what is fixed of each. -/
def ProjectRule.outline (r : ProjectRule) : Formula Outline := r.map ProjectLeaf.outline

namespace Outline

/-- Read a term for its outline alone. -/
def ofText (term : List Char) : Except RuleError Outline :=
  if ProjectLeaf.hasArrow term then
    (fun t => route (String.ofList (trim term)) t.required) <$> RouteText.ofText none term
  else test <$> ProjectTest.ofText term

theorem ofText_eq (policy : Policy) (usual : Option Nat) (term : List Char) :
    ProjectTerm.outline <$> ProjectTerm.ofText policy usual term = ofText term := by
  unfold ProjectTerm.ofText ofText
  rw [RouteText.ofText_eq_map usual]
  split
  · cases RouteText.ofText none term <;> rfl
  · cases ProjectTest.ofText term <;> rfl

end Outline

theorem ProjectTerm.outline_search (g : Graph) (t : ProjectTerm) :
    (t.search g).outline = t.outline := by
  cases t <;> rfl

namespace ProjectRule

theorem leafCount_outline (r : ProjectRule) :
    Formula.leafCount r.outline = Formula.leafCount r := by
  rw [Formula.leafCount, outline, Formula.leaves_map, List.length_map]
  rfl

/-- The outline of a rule is read from its text. -/
theorem outline_ofText (g : Graph) (policy : Policy) (usual : Option Nat) (rule : List Char) :
    outline <$> ofText g policy usual rule = Formula.ofRule Outline.ofText rule := by
  have hterm : (ProjectLeaf.outline <$> ProjectLeaf.ofText g policy usual ·) = Outline.ofText := by
    funext term
    rw [ProjectTerm.search_ofText, ← Outline.ofText_eq policy usual]
    cases ProjectTerm.ofText policy usual term with
    | error e => rfl
    | ok t => exact congrArg Except.ok (t.outline_search g)
  rw [← hterm, Formula.ofRule_map]
  rfl

theorem leafCount_ofText (g : Graph) (policy : Policy) (usual : Option Nat) (rule : List Char) :
    Formula.leafCount <$> ofText g policy usual rule =
      Formula.leafCount <$> Formula.ofRule Outline.ofText rule := by
  rw [← outline_ofText g policy usual]
  cases ofText g policy usual rule with
  | error e => rfl
  | ok r => exact congrArg Except.ok (leafCount_outline r).symm

/-- A check of a rule tells what every graph will make of it, with whatever policy and usual bound.
The rule can be read there if it can be read where there are no projects, and then has the same
terms, joined in the same way, with the same marks; else the same is wrong with it. So the
number of terms that the check prints is the number that the rule has anywhere. -/
theorem ofText_as_checked (g : Graph) (policy : Policy) (usual : Option Nat) (rule : List Char) :
    (match ofText g policy usual rule, ofText .empty policy none rule with
      | .ok r, .ok checked =>
          r.outline = checked.outline ∧ Formula.leafCount r = Formula.leafCount checked
      | .error e, .error e' => e = e'
      | _, _ => False) ∧
    CommandLine.countLeaves .project rule = Formula.leafCount <$> ofText g policy usual rule := by
  have houtline : outline <$> ofText g policy usual rule =
      outline <$> ofText .empty policy none rule := by
    rw [outline_ofText, outline_ofText]
  constructor
  · cases hr : ofText g policy usual rule with
    | error e =>
        cases hchecked : ofText .empty policy none rule with
        | error e' => simpa [hr, hchecked] using houtline
        | ok checked => simp [hr, hchecked] at houtline
    | ok r =>
        cases hchecked : ofText .empty policy none rule with
        | error e' => simp [hr, hchecked] at houtline
        | ok checked =>
            have hsame : r.outline = checked.outline := by simpa [hr, hchecked] using houtline
            refine ⟨hsame, ?_⟩
            rw [← leafCount_outline, hsame, leafCount_outline]
  · rw [leafCount_ofText]
    exact leafCount_ofText .empty .including none rule

end ProjectRule

end Landscape
