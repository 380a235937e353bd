import Landscape.Graph.Project
import Landscape.Rule.Matcher
import Landscape.Rule.Term

namespace Landscape

/-!
# Tests of projects

A term on projects gives an id, matches a group, or matches the name. A name is matched as
a whole or by its part behind the last colon.
-/

open Text

inductive ProjectTest where
  | any
  | not (t : ProjectTest)
  | id (i : ProjectId)
  | name (m : Matcher)
  /-- Some group matches one of the matchers. -/
  | group (ms : List Matcher)
  | ignored
  | external
  deriving DecidableEq

namespace ProjectTest

/-- Read a test without `!` from a text without blanks at its ends. -/
def ofAtom (t : List Char) : Except RuleError ProjectTest :=
  if t.isEmpty then .ok any
  else
    match after? ['i', 'd', ':'] t, after? ['r', 'o', 'o', 't', ':'] t with
    | some value, _ => id <$> Term.readId t value
    | none, some rest => (fun m => group [m]) <$> Matcher.ofTerm rest
    | none, none => name <$> Matcher.ofTerm t

def ofText : List Char → Except RuleError ProjectTest := Term.ofText not ofAtom

def holds (p : Project) : ProjectTest → Bool
  | any => true
  | not t => !holds p t
  | id i => p.id = i
  | name m => m.acceptsSome [p.name, p.simpleName]
  | group ms => p.groups.any fun g => ms.any fun m => m.accepts g
  | ignored => p.ignored
  | external => p.isExternal

end ProjectTest

end Landscape
