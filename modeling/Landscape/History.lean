import Landscape.Identity

namespace Landscape

/-!
# Files, repositories and people

What version control knows: files by path, repositories with their commits, and the people
who wrote and committed them.
-/

/-! ## Files -/

structure SourceFile where
  id : FileId
  path : String
  project : Option ProjectId
  repository : Option RepositoryId
  ignored : Bool
  deriving DecidableEq, Repr

namespace SourceFile

/-- The last part of a path, or the whole path if that part names no file. Empty parts and
single dots do not count; a double dot names no file. -/
def baseName (path : List Char) : List Char :=
  match ((path.splitOn '/').filter fun part => !part.isEmpty && part != ['.']).getLast? with
  | none => path
  | some part => if part = ['.', '.'] then path else part

def name (f : SourceFile) : String := String.ofList (baseName f.path.toList)

end SourceFile

/-! ## Commits -/

structure Commit where
  id : CommitId
  hash : String
  message : String
  /-- The hashes of the commits before this one. -/
  parents : List String
  authors : List PersonId
  committer : Option PersonId
  /-- The files that the commit touches. -/
  files : List FileId
  ignored : Bool
  deriving DecidableEq, Repr

/-- The authors and, unless among them, the committer. -/
def Commit.people (c : Commit) : List PersonId :=
  match c.committer with
  | none => c.authors
  | some p => if c.authors.contains p then c.authors else c.authors ++ [p]

theorem Commit.mem_people {c : Commit} {p : PersonId} :
    p ∈ c.people ↔ p ∈ c.authors ∨ c.committer = some p := by
  unfold people
  cases hc : c.committer with
  | none => simp
  | some q =>
      by_cases hq : q ∈ c.authors
      · simp only [List.contains_iff_mem, hq, if_true, Option.some.injEq]
        exact ⟨Or.inl, fun h => h.elim (fun h => h) fun e => e ▸ hq⟩
      · simp [hq, eq_comm]

structure Repository where
  id : RepositoryId
  name : String
  rootDir : Option String
  ignored : Bool
  commits : List Commit
  deriving DecidableEq, Repr

/-! ## People -/

structure Person where
  id : PersonId
  name : String
  /-- Other names seen of the same person. -/
  names : List String
  emails : List String
  ignored : Bool
  deriving DecidableEq, Repr

def Person.allNames (p : Person) : List String := p.name :: p.names

end Landscape
