import Landscape.Catalog.Basic
import Landscape.Query.Params
import Landscape.Query.Participation
import Landscape.Rule.CommitRule
import Landscape.Rule.FileRule
import Landscape.Slice

namespace Landscape

/-!
# Queries

A query asks for projects, files, repositories, commits and people at once. Each parameter
that is given restricts its own kind and every kind related to it. People are related to
files and repositories by the commits they wrote or committed.
-/

open Text

/-- A rule that cannot be read, and the kind of things it is on. -/
structure RuleFailure where
  kind : Kind
  error : RuleError
  deriving DecidableEq, Repr

/-- A query ready to be answered. The sets hold what the parameters of their kind select, where
one is given. -/
structure Query where
  catalog : Catalog
  projectRule : ProjectRule
  fileRule : FileRule
  commitRule : CommitRule
  repositoryName : Option Matcher
  personName : Option Matcher
  personId : Option PersonId
  participation : Participation
  projectIds : Option (OrderedSet ProjectId)
  fileIds : Option (OrderedSet FileId)
  repositoryIds : Option (OrderedSet RepositoryId)
  personIds : Option (OrderedSet PersonId)

namespace Query

/-! ## Reading the parameters -/

/-- The text of a parameter without blanks at its ends, unless nothing is left. -/
def given? (s : String) : Option (List Char) :=
  if (trim s.toList).isEmpty then none else some (trim s.toList)

def asRule {α : Type} (kind : Kind) (r : Except RuleError α) : Except RuleFailure α :=
  match r with
  | .ok a => .ok a
  | .error e => .error ⟨kind, e⟩

def matcherOf (kind : Kind) (s : String) : Except RuleFailure (Option Matcher) :=
  match given? s with
  | none => .ok none
  | some t => asRule kind (some <$> Matcher.ofTerm t)

def ruleOf {α : Type} (kind : Kind) (always : Formula α)
    (read : List Char → Except RuleError (Formula α)) (s : String) :
    Except RuleFailure (Formula α) :=
  match given? s with
  | none => .ok (.any [always])
  | some t => asRule kind ((fun f => .any [always, f]) <$> read t)

def slice (p : Params) (maxDepth : Option Nat) : Slice :=
  { added := ((given? p.project).map String.ofList).toList, maxDepth := maxDepth }

/-! ## What a parameter selects of its own kind -/

def projects (q : Query) : List Project := q.catalog.graph.selectProjects q.projectRule .owned

def matchingFiles (q : Query) : List SourceFile := q.fileRule.select q.catalog.files

def matchingRepositories (q : Query) : List Repository :=
  q.catalog.repositories.filter fun r =>
    !r.ignored && q.repositoryName.all fun m => m.accepts r.name

/-- Whether the parameters on people select the person: the id if there is one, else a name or
an email. -/
def selectsPerson (q : Query) (p : Person) : Bool :=
  match q.personId, q.personName with
  | some i, _ => p.id = i
  | none, some m => m.acceptsSome p.allNames || m.acceptsSome p.emails
  | none, none => true

def matchingPeople (q : Query) : List Person :=
  q.catalog.people.filter fun p => !p.ignored && q.selectsPerson p

/-- The set of the ids, if the parameter is given. -/
def idsIf {κ : Type} [Key κ] (given : Bool) (ids : List κ) : Option (OrderedSet κ) :=
  if given then some (.ofList ids) else none

/-- Read the parameters; the first that cannot be read, in the order of projects, files,
commits, repositories and people, is the failure. -/
def compile (c : Catalog) (p : Params) (maxDepth : Option Nat) : Except RuleFailure Query := do
  let projectRule ← asRule .project ((slice p maxDepth).rule c.graph)
  let fileRule ← ruleOf .file FileRule.dropIgnored (FileRule.ofText .including) p.file
  let commitRule ← ruleOf .commit CommitRule.dropIgnored (CommitRule.ofText .including) p.commit
  let repositoryName ← matcherOf .repository p.repository
  let personName ← matcherOf .person p.person
  let q : Query :=
    ⟨c, projectRule, fileRule, commitRule, repositoryName, personName, p.personId,
      .ofRepositories c.repositories, none, none, none, none⟩
  return { q with
    projectIds := idsIf (given? p.project).isSome (q.projects.map (·.id))
    fileIds := idsIf (given? p.file).isSome (q.matchingFiles.map (·.id))
    repositoryIds := idsIf repositoryName.isSome (q.matchingRepositories.map (·.id))
    personIds := idsIf (p.personId.isSome || personName.isSome) (q.matchingPeople.map (·.id)) }

/-! ## Relations between the kinds -/

def fileInProjects (q : Query) (f : SourceFile) : Bool :=
  q.projectIds.all fun ids => f.project.any ids.contains

def fileInRepositories (q : Query) (f : SourceFile) : Bool :=
  q.repositoryIds.all fun ids => f.repository.any ids.contains

def fileOfPeople (q : Query) (f : SourceFile) : Bool :=
  q.personIds.all fun ids => (Participation.related q.participation.peopleOf f.id).any ids.contains

/-- Whether one of the files, looked up in the catalog, is of a selected project. -/
def someFileInProjects (q : Query) (files : List FileId) : Bool :=
  q.projectIds.isNone || (files.filterMap q.catalog.file?).any q.fileInProjects

/-! ## Answers -/

def files (q : Query) : List SourceFile :=
  q.matchingFiles.filter fun f => q.fileInProjects f && q.fileInRepositories f && q.fileOfPeople f

def repositories (q : Query) : List Repository :=
  q.matchingRepositories.filter fun r =>
    let stored := q.catalog.filesOf r.id
    (q.projectIds.isNone || stored.any q.fileInProjects) &&
      (q.fileIds.all fun ids => stored.any fun f => ids.contains f.id) &&
      (q.personIds.isNone || stored.any q.fileOfPeople)

def commits (q : Query) : List (Repository × Commit) :=
  let searched := q.catalog.repositories.filter fun r =>
    !r.ignored && q.repositoryIds.all fun ids => ids.contains r.id
  (q.commitRule.select searched).filter fun rc =>
    (q.fileIds.all fun ids => rc.2.files.any ids.contains) &&
      q.someFileInProjects rc.2.files &&
      (q.personIds.all fun ids => rc.2.people.any ids.contains)

def people (q : Query) : List Person :=
  q.matchingPeople.filter fun p =>
    let touched := Participation.related q.participation.filesOf p.id
    (q.fileIds.all fun ids => touched.any ids.contains) &&
      q.someFileInProjects touched &&
      (q.repositoryIds.all fun ids =>
        (Participation.related q.participation.repositoriesOf p.id).any ids.contains)

end Query

end Landscape
