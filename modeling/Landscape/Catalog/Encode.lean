import Landscape.Catalog.Record
import Landscape.Json.Value

namespace Landscape

/-!
# Documents from records

Optional fields and, but for a project's own lists, empty lists are left out.
-/

open Json Json.Value

def Id.toJson {k : Kind} (i : Id k) : Value := nat i.toNat

def ProjectType.toJson (t : ProjectType) : Value := text t.name

def Json.Value.ofSet (s : OrderedSet String) : Value := list (s.toList.map text)

def Json.Value.ofMap (m : Map String String) : Value := ofTexts m.entries

def DependencyRecord.toJson (r : DependencyRecord) : Value :=
  object [("target", text r.target), ("versions", ofSet r.versions), ("data", ofMap r.data)]

def ProjectRecord.toJson (r : ProjectRecord) : Value :=
  object (memberIf "id" r.id Id.toJson ++
    [("name", text r.name), ("groups", list (r.groups.map text)), ("type", r.type.toJson),
      ("ignore", bool r.ignored)] ++
    memberIf "root_dir" r.rootDir text ++ memberIf "repository_id" r.repository Id.toJson ++
    [("data", ofMap r.data), ("dependencies", list (r.dependencies.map DependencyRecord.toJson))])

def SourceFile.toJson (f : SourceFile) : Value :=
  object ([("id", f.id.toJson), ("path", text f.path)] ++
    memberIf "project_id" f.project Id.toJson ++ memberIf "repository_id" f.repository Id.toJson ++
    [("ignore", bool f.ignored)])

def Commit.toJson (c : Commit) : Value :=
  object ([("id", c.id.toJson), ("hash", text c.hash), ("message", text c.message)] ++
    memberList "parents" c.parents text ++ memberList "author_ids" c.authors Id.toJson ++
    memberIf "committer_id" c.committer Id.toJson ++ memberList "file_ids" c.files Id.toJson ++
    [("ignore", bool c.ignored)])

def Repository.toJson (r : Repository) : Value :=
  object ([("id", r.id.toJson), ("name", text r.name)] ++ memberIf "root_dir" r.rootDir text ++
    [("ignore", bool r.ignored)] ++ memberList "commits" r.commits Commit.toJson)

def Person.toJson (p : Person) : Value :=
  object ([("id", p.id.toJson), ("name", text p.name)] ++ memberList "names" p.names text ++
    memberList "emails" p.emails text ++ [("ignore", bool p.ignored)])

/-! ## Projects of a graph -/

def Dependency.toJson (d : Dependency) : Value :=
  object ([("source", d.source.toJson), ("target", d.target.toJson)] ++
    memberList "versions" d.versions.toList text ++
    (if d.data.isEmpty then [] else [("data", ofMap d.data)]))

def Project.toJson (p : Project) : Value :=
  object ([("id", p.id.toJson), ("name", text p.name), ("groups", list (p.groups.map text)),
      ("type", p.type.toJson), ("ignore", bool p.ignored)] ++
    memberIf "root_dir" p.rootDir text ++ memberIf "repository_id" p.repository Id.toJson ++
    (if p.data.isEmpty then [] else [("data", ofMap p.data)]))

end Landscape
