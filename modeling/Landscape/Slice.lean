import Landscape.Rule.ProjectRule

namespace Landscape

/-!
# Slices

A slice of a graph is given by rules that add to it, rules that take away from it, and the
terms of the groups that it lies in. Ignored projects never belong to it, external libraries
only on demand.
-/

structure Slice where
  added : List String := []
  removed : List String := []
  roots : List String := []
  keepExternal : Bool := false
  /-- The bound of routes that give none. -/
  maxDepth : Option Nat := none

namespace Slice

/-- The rule of a slice: any of its parts, where the first problem in the order of the parts
wins. -/
def rule (s : Slice) (g : Graph) : Except RuleError ProjectRule := do
  let additions ← s.added.mapM fun r => ProjectRule.ofText g .including s.maxDepth r.toList
  let removals ← s.removed.mapM fun r => ProjectRule.ofText g .excluding s.maxDepth r.toList
  let external := if s.keepExternal then [] else [ProjectRule.dropExternal]
  let roots ← if s.roots.isEmpty then pure [] else (fun r => [r]) <$> ProjectRule.keepRoots s.roots
  return .any (additions ++ removals ++ [ProjectRule.dropIgnored] ++ external ++ roots)

end Slice

end Landscape
