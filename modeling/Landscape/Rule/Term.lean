import Landscape.Identity
import Landscape.Rule.Clauses

namespace Landscape

/-!
# Terms

A term is a test of one thing. A mark `!` before a term turns its answer round, and may be
repeated. A leaf of a rule is a test with the policy of the rule.
-/

open Text

/-! ## Reading -/

namespace Term

variable {α : Type}

/-- Read the text of a test behind any number of `!`, each turning the answer round. Blanks at
the ends do not count. -/
def ofText (turn : α → α) (test : List Char → Except RuleError α) (s : List Char) :
    Except RuleError α :=
  match _h : trim s with
  | '!' :: rest => turn <$> ofText turn test rest
  | t => test t
  termination_by s.length
  decreasing_by
    have := length_trim_le s
    simp only [_h, List.length_cons] at this
    omega

/-- The id in the term `term`, behind its mark. -/
def readId {k : Kind} (term value : List Char) : Except RuleError (Id k) :=
  match Id.ofText value with
  | .ok i => .ok i
  | .error _ => .error (.invalidId (String.ofList term))

end Term

/-! ## Leaves -/

/-- A test and the policy of its rule. -/
structure Leaf (α : Type) where
  test : α
  policy : Policy
  deriving DecidableEq

namespace Leaf

variable {α : Type}

def verdict (holds : α → Bool) (l : Leaf α) : Verdict := .ofMatch l.policy (holds l.test)

/-- Read a rule whose terms are tests and which is of one policy. -/
def formulaOfRule (test : List Char → Except RuleError α) (policy : Policy) (rule : List Char) :
    Except RuleError (Formula (Leaf α)) :=
  Formula.ofRule (fun t => (⟨·, policy⟩) <$> test t) rule

end Leaf

end Landscape
