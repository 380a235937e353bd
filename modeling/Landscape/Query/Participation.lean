import Landscape.History
import Landscape.Ordered.Set

namespace Landscape

/-!
# Who took part in what

A person takes part in a repository by a commit there, and in a file by a commit that
touches it, as author or as committer.
-/

structure Participation where
  filesOf : Map PersonId (OrderedSet FileId)
  repositoriesOf : Map PersonId (OrderedSet RepositoryId)
  peopleOf : Map FileId (OrderedSet PersonId)

namespace Participation

def empty : Participation := ⟨∅, ∅, ∅⟩

/-- Add `a` to what is related to `k`. -/
def relate {κ α : Type} [DecidableEq κ] [Key κ] [Key α] (m : Map κ (OrderedSet α)) (k : κ) (a : α) :
    Map κ (OrderedSet α) := m.insert k (((m.get? k).getD ∅).insert a)

def related {κ α : Type} [DecidableEq κ] [Key κ] [Key α] (m : Map κ (OrderedSet α)) (k : κ) :
    List α := ((m.get? k).getD ∅).toList

def addFile (person : PersonId) (t : Participation) (file : FileId) : Participation :=
  { t with filesOf := relate t.filesOf person file, peopleOf := relate t.peopleOf file person }

/-- A person of a commit takes part in the repository and in the files of the commit. -/
def addPerson (repository : RepositoryId) (c : Commit) (t : Participation) (person : PersonId) :
    Participation :=
  c.files.foldl (addFile person)
    { t with repositoriesOf := relate t.repositoriesOf person repository }

def addRepository (t : Participation) (r : Repository) : Participation :=
  r.commits.foldl (fun t c => c.people.foldl (addPerson r.id c) t) t

def ofRepositories (rs : List Repository) : Participation := rs.foldl addRepository empty

end Participation

end Landscape
