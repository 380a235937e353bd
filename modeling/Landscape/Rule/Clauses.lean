import Landscape.Rule.Error
import Landscape.Rule.Formula
import Landscape.Text.Blank

namespace Landscape

/-!
# Clauses of a rule

A rule is a choice of clauses, parted by `|`; a clause is a list of terms, parted by `&`.
There are no brackets. Terms are read from the left, and the first problem is the answer.
-/

open Text

namespace Formula

variable {α β : Type}

/-- Read the pieces that `mark` parts, blanks at their ends removed. None of them is empty. -/
def clauses (mark : Char) (read : List Char → Except RuleError β) (rule : List Char) :
    Except RuleError (List β) :=
  (rule.splitOn mark).mapM fun piece =>
    if (trim piece).isEmpty then .error (.emptyClause (String.ofList rule)) else read (trim piece)

def ofTerms (term : List Char → Except RuleError α) (rule : List Char) :
    Except RuleError (Formula α) :=
  if rule.contains '&' then all <$> clauses '&' (fun piece => leaf <$> term piece) rule
  else leaf <$> term rule

/-- Read a rule. A blank rule is the empty term. -/
def ofRule (term : List Char → Except RuleError α) (rule : List Char) :
    Except RuleError (Formula α) :=
  if (trim rule).contains '|' then any <$> clauses '|' (ofTerms term) (trim rule)
  else ofTerms term (trim rule)

theorem ofRule_of_trim_eq_nil (term : List Char → Except RuleError α) {rule : List Char}
    (h : trim rule = []) : ofRule term rule = leaf <$> term [] := by
  simp [ofRule, ofTerms, h]

end Formula

end Landscape
