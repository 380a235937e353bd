namespace Landscape

/-!
# What can be wrong with a rule

Every problem names the piece of the rule that it lies in.
-/

inductive RuleError where
  /-- A regular expression that cannot be read, and what is wrong with it. -/
  | invalidRegex (pattern cause : String)
  | invalidGlob (glob cause : String)
  /-- The text has an arrow but not the form of a route. -/
  | malformedRoute (rule : String)
  /-- The digits write no number that fits. -/
  | invalidDepth (rule digits : String)
  | invalidId (term : String)
  /-- A list of clauses with an empty piece. -/
  | emptyClause (rule : String)
  deriving DecidableEq, Repr

namespace RuleError

def fragment : RuleError → String
  | invalidRegex pattern _ => pattern
  | invalidGlob glob _ => glob
  | malformedRoute rule => rule
  | invalidDepth _ digits => digits
  | invalidId term => term
  | emptyClause rule => rule

def message : RuleError → String
  | invalidRegex pattern cause => "invalid regular expression '" ++ pattern ++ "': " ++ cause
  | invalidGlob glob cause => "invalid glob '" ++ glob ++ "': " ++ cause
  | malformedRoute rule => "invalid edge filter: " ++ rule
  | invalidDepth rule digits => "invalid depth '" ++ digits ++ "' in edge filter: " ++ rule
  | invalidId term => "invalid id in term: " ++ term
  | emptyClause rule => "empty clause in rule: " ++ rule

end RuleError

end Landscape
