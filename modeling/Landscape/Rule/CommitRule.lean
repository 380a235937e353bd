import Landscape.History
import Landscape.Rule.Matcher
import Landscape.Rule.Term

namespace Landscape

/-!
# Rules on commits

A term on commits gives an id or matches the hash.
-/

open Text

inductive CommitTest where
  | any
  | not (t : CommitTest)
  | id (i : CommitId)
  | hash (m : Matcher)
  | ignored

namespace CommitTest

/-- Read a test without `!` from a text without blanks at its ends. -/
def ofAtom (t : List Char) : Except RuleError CommitTest :=
  if t.isEmpty then .ok any
  else
    match after? ['i', 'd', ':'] t with
    | some value => id <$> Term.readId t value
    | none => hash <$> Matcher.ofTerm t

def ofText : List Char → Except RuleError CommitTest := Term.ofText not ofAtom

def holds (c : Commit) : CommitTest → Bool
  | any => true
  | not t => !holds c t
  | id i => c.id = i
  | hash m => m.accepts c.hash
  | ignored => c.ignored

end CommitTest

abbrev CommitRule := Formula (Leaf CommitTest)

namespace CommitRule

def ofText (policy : Policy) (rule : List Char) : Except RuleError CommitRule :=
  Leaf.formulaOfRule CommitTest.ofText policy rule

def dropIgnored : CommitRule := .leaf ⟨.ignored, .excluding⟩

def verdict (r : CommitRule) (c : Commit) : Verdict :=
  Formula.verdict (Leaf.verdict (CommitTest.holds c)) r

def keeps (r : CommitRule) (c : Commit) : Bool :=
  Formula.keeps Leaf.policy (Leaf.verdict (CommitTest.holds c)) r

/-- The commits that stay, each with its repository. -/
def select (r : CommitRule) (repositories : List Repository) : List (Repository × Commit) :=
  (repositories.flatMap fun repo => repo.commits.map (repo, ·)).filter fun rc => r.keeps rc.2

end CommitRule

end Landscape
