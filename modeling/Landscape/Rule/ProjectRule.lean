import Landscape.Route.Basic

namespace Landscape

/-!
# Rules on projects and dependencies

A leaf is a test of projects or a route. A test speaks about a dependency through its ends:
an including one asks it of both, an excluding one of either. A route speaks about
dependencies only.
-/

open Text

inductive ProjectLeaf where
  | test (l : Leaf ProjectTest)
  | route (r : Route)
  deriving DecidableEq

namespace ProjectLeaf

def policy : ProjectLeaf → Policy
  | test l => l.policy
  | route r => r.policy

def onProject (p : Project) : ProjectLeaf → Verdict
  | test l => l.verdict fun t => t.holds p
  | route _ => .neutral

def onLink (k : Link) : ProjectLeaf → Verdict
  | test l =>
      match l.policy with
      | .including => l.verdict fun t => t.holds k.source && t.holds k.target
      | .excluding => l.verdict fun t => t.holds k.source || t.holds k.target
  | route r => r.verdict k

/-- Whether the text has an arrow. -/
def hasArrow : List Char → Bool
  | '-' :: '>' :: _ => true
  | _ :: cs => hasArrow cs
  | [] => false

/-- Read a term: a route if it has an arrow. -/
def ofText (g : Graph) (policy : Policy) (usual : Option Nat) (term : List Char) :
    Except RuleError ProjectLeaf :=
  if hasArrow term then route <$> Route.ofText g policy usual term
  else (fun t => test ⟨t, policy⟩) <$> ProjectTest.ofText term

end ProjectLeaf

abbrev ProjectRule := Formula ProjectLeaf

namespace ProjectRule

/-- Read a rule and search its routes in the graph; `usual` bounds those that give no bound. -/
def ofText (g : Graph) (policy : Policy) (usual : Option Nat) (rule : List Char) :
    Except RuleError ProjectRule :=
  Formula.ofRule (ProjectLeaf.ofText g policy usual) rule

def ofTest (t : ProjectTest) (policy : Policy) : ProjectRule := .leaf (.test ⟨t, policy⟩)

def dropIgnored : ProjectRule := ofTest .ignored .excluding

def dropExternal : ProjectRule := ofTest .external .excluding

/-- Drops the projects without a group that matches one of the terms. -/
def keepRoots (terms : List String) : Except RuleError ProjectRule := do
  let ms ← terms.mapM fun t => Matcher.ofTerm t.toList
  return ofTest (.not (.group ms)) .excluding

def settle (r : ProjectRule) (v : Verdict) : Bool := Formula.settle ProjectLeaf.policy r v

def onProject (r : ProjectRule) (p : Project) : Verdict :=
  Formula.verdict (ProjectLeaf.onProject p) r

def onLink (r : ProjectRule) (k : Link) : Verdict := Formula.verdict (ProjectLeaf.onLink k) r

def keepsProject (r : ProjectRule) (p : Project) : Bool := r.settle (r.onProject p)

def keepsLink (r : ProjectRule) (k : Link) : Bool := r.settle (r.onLink k)

end ProjectRule

/-! ## Selections from a graph -/

namespace Graph

/-- The admitted projects that the rule keeps or that are ends of a dependency that it keeps,
where only the dependencies of admitted projects count. -/
def selectProjects (g : Graph) (r : ProjectRule) (mode : ListMode) : List Project :=
  let candidates := g.list mode
  let kept := OrderedSet.ofList (candidates.flatMap fun p =>
    (if r.keepsProject p then [p.id] else []) ++
      ((g.dependencies p .all).filter r.keepsLink).flatMap fun k => [k.source.id, k.target.id])
  candidates.filter fun p => kept.contains p.id

def selectLinks (g : Graph) (r : ProjectRule) (mode : ListMode) : List Link :=
  (g.allDependencies mode).filter r.keepsLink

end Graph

end Landscape
