import Landscape.Proofs.Rule.Clauses
import Landscape.Slice

namespace Landscape

/-!
# Rules before their routes are searched

What the terms of a slice read as does not depend on the graph. The graph comes in only when the
routes among them are searched.
-/

open Text

/-- A term of a rule on projects and dependencies, where a route is not searched yet. -/
inductive ProjectTerm where
  | test (l : Leaf ProjectTest)
  | route (policy : Policy) (rule : String) (t : RouteText)

namespace ProjectTerm

def ofText (policy : Policy) (usual : Option Nat) (term : List Char) :
    Except RuleError ProjectTerm :=
  if ProjectLeaf.hasArrow term then
    route policy (String.ofList (trim term)) <$> RouteText.ofText usual term
  else (fun t => test ⟨t, policy⟩) <$> ProjectTest.ofText term

def search (g : Graph) : ProjectTerm → ProjectLeaf
  | test l => .test l
  | route policy rule t => .route (Route.resolve g policy rule t)

def policy : ProjectTerm → Policy
  | test l => l.policy
  | route policy _ _ => policy

theorem policy_search (g : Graph) (t : ProjectTerm) : (t.search g).policy = t.policy := by
  cases t <;> rfl

theorem search_ofText (g : Graph) (policy : Policy) (usual : Option Nat) (term : List Char) :
    ProjectLeaf.ofText g policy usual term = search g <$> ofText policy usual term := by
  unfold ProjectLeaf.ofText ofText Route.ofText
  split
  · cases RouteText.ofText usual term <;> rfl
  · cases ProjectTest.ofText term <;> rfl

end ProjectTerm

/-- The rule with its routes searched in the graph. -/
def Graph.ruleOf (g : Graph) (f : Formula ProjectTerm) : ProjectRule := f.map (ProjectTerm.search g)

theorem ProjectRule.ofText_eq (g : Graph) (policy : Policy) (usual : Option Nat)
    (rule : List Char) : ProjectRule.ofText g policy usual rule =
      g.ruleOf <$> Formula.ofRule (ProjectTerm.ofText policy usual) rule := by
  refine Eq.trans ?_ (Formula.ofRule_map (ProjectTerm.search g) _ rule)
  exact congrArg (Formula.ofRule · rule) (funext (ProjectTerm.search_ofText g policy usual))

namespace Slice

variable (s : Slice) (g : Graph)

def readAll (policy : Policy) (rules : List String) :
    Except RuleError (List (Formula ProjectTerm)) :=
  rules.mapM fun r => Formula.ofRule (ProjectTerm.ofText policy s.maxDepth) r.toList

def drop (t : ProjectTest) : Formula ProjectTerm := .leaf (.test ⟨t, .excluding⟩)

def rootTerms : Except RuleError (List (Formula ProjectTerm)) :=
  if s.roots.isEmpty then .ok []
  else (fun ms => [drop (.not (.group ms))]) <$> s.roots.mapM fun t => Matcher.ofTerm t.toList

/-- The rule of a slice as its texts alone give it. -/
def terms : Except RuleError (Formula ProjectTerm) := do
  let additions ← s.readAll .including s.added
  let removals ← s.readAll .excluding s.removed
  let roots ← s.rootTerms
  return .any (additions ++ removals ++ [drop .ignored] ++
    (if s.keepExternal then [] else [drop .external]) ++ roots)

theorem ruleOf_any (fs : List (Formula ProjectTerm)) :
    g.ruleOf (.any fs) = .any (fs.map g.ruleOf) :=
  congrArg Formula.any (Formula.mapAll_eq_map _ fs)

theorem ruleOf_drop (t : ProjectTest) :
    g.ruleOf (drop t) = ProjectRule.ofTest t .excluding := rfl

theorem mapM_ofText (policy : Policy) (rules : List String) :
    (rules.mapM fun r => ProjectRule.ofText g policy s.maxDepth r.toList) =
      List.map g.ruleOf <$> s.readAll policy rules := by
  unfold readAll
  rw [← mapM_map_ok]
  congr 1
  funext r
  exact ProjectRule.ofText_eq g policy s.maxDepth r.toList

theorem rule_eq : s.rule g = g.ruleOf <$> s.terms := by
  unfold rule terms
  rw [mapM_ofText, mapM_ofText]
  cases s.readAll .including s.added with
  | error e => rfl
  | ok additions =>
      cases s.readAll .excluding s.removed with
      | error e => rfl
      | ok removals =>
          have hparts (roots : List (Formula ProjectTerm)) :
              g.ruleOf (.any (additions ++ removals ++ [drop .ignored] ++
                (if s.keepExternal then [] else [drop .external]) ++ roots)) =
              .any (additions.map g.ruleOf ++ removals.map g.ruleOf ++ [ProjectRule.dropIgnored] ++
                (if s.keepExternal then [] else [ProjectRule.dropExternal]) ++
                roots.map g.ruleOf) := by
            rw [ruleOf_any]
            cases s.keepExternal <;>
              simp [ruleOf_drop, ProjectRule.dropIgnored, ProjectRule.dropExternal]
          unfold rootTerms ProjectRule.keepRoots
          by_cases hempty : s.roots.isEmpty = true
          · simp only [hempty, if_true]
            exact congrArg Except.ok (hparts []).symm
          · simp only [hempty, if_false, Bool.false_eq_true]
            cases s.roots.mapM fun t => Matcher.ofTerm t.toList with
            | error e => rfl
            | ok ms => exact congrArg Except.ok (hparts [drop (.not (.group ms))]).symm

end Slice

end Landscape
