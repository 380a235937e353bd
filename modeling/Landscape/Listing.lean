import Landscape.Catalog.Encode
import Landscape.Graph.Basic

namespace Landscape

/-!
# Listings

What is shown of each thing, and the document that holds a list of them.
-/

open Json Json.Value

/-- What is shown of a project. -/
def Project.summary (p : Project) : Value :=
  object ([("id", p.id.toJson), ("name", text p.name)] ++ memberList "groups" p.groups text ++
    [("type", p.type.toJson), ("dependency_count", nat p.dependencies.size)])

/-- What is shown of a dependency: its ends by name and by id. -/
def Link.summary (k : Link) : Value :=
  object ([("source", text k.source.name), ("target", text k.target.name),
      ("source_id", k.source.id.toJson), ("target_id", k.target.id.toJson)] ++
    memberList "versions" k.dependency.versions.toList text)

def SourceFile.summary (f : SourceFile) : Value :=
  object ([("id", f.id.toJson), ("path", text f.path)] ++
    memberIf "project_id" f.project Id.toJson ++ memberIf "repository_id" f.repository Id.toJson)

def Repository.summary (r : Repository) : Value :=
  object ([("id", r.id.toJson), ("name", text r.name)] ++ memberIf "root_dir" r.rootDir text ++
    [("commit_count", nat r.commits.length)])

/-- What is shown of a commit, with the name of its repository. -/
def Commit.summary (r : Repository) (c : Commit) : Value :=
  object ([("id", c.id.toJson), ("repository", text r.name), ("hash", text c.hash)] ++
    (if c.message.isEmpty then [] else [("message", text c.message)]) ++
    memberList "authors" c.authors Id.toJson ++ memberIf "committer" c.committer Id.toJson ++
    [("file_count", nat c.files.length)])

def Person.summary (p : Person) : Value :=
  object ([("id", p.id.toJson), ("name", text p.name)] ++ memberList "names" p.names text ++
    memberList "emails" p.emails text)

namespace Listing

def version : String := "1"

/-- The members that every document begins with. -/
def head (status : String) : List (String × Value) :=
  [("status", text status), ("schema_version", text version)]

def ofItems (name : String) (items : List Value) : Value :=
  object (head "ok" ++ [("count", nat items.length), (name, list items)])

def projects (ps : List Project) : Value := ofItems "projects" (ps.map Project.summary)

def dependencies (ks : List Link) : Value := ofItems "dependencies" (ks.map Link.summary)

def files (fs : List SourceFile) : Value := ofItems "files" (fs.map SourceFile.summary)

def repositories (rs : List Repository) : Value :=
  ofItems "repositories" (rs.map Repository.summary)

def commits (cs : List (Repository × Commit)) : Value :=
  ofItems "commits" (cs.map fun rc => rc.2.summary rc.1)

def people (ps : List Person) : Value := ofItems "people" (ps.map Person.summary)

/-- The answer on a rule that can be read. -/
def check (kind : Kind) (rule : String) (leaves : Nat) : Value :=
  object (head "ok" ++ [("kind", text kind.name), ("rule", text rule), ("leaves", nat leaves)])

/-- The answer on a failure. -/
def failure (code : Nat) (message : String) (details : Option Value) : Value :=
  object (head "error" ++ [("error",
    object ([("code", nat code), ("message", text message)] ++
      memberIf "details" details fun d => d))])

end Listing

end Landscape
