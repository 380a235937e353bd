import Landscape.Catalog.Build
import Landscape.Catalog.Decode

namespace Landscape

/-!
# Catalogs

A catalog holds the graph of projects, the files, the repositories and the people. Things are
found by id through an index of positions, which is made when the catalog is put together
and stays as it is until it is made anew.
-/

/-! ## Positions -/

structure Positions where
  files : Map FileId Nat
  repositories : Map RepositoryId Nat
  people : Map PersonId Nat
  filesOf : Map RepositoryId (List Nat)

namespace Positions

/-- The position of each key; of two equal keys the later counts. -/
def ofKeys {κ : Type} [Key κ] (ks : List κ) : Map κ Nat := .ofList ks.zipIdx

/-- The positions under each key, in order. -/
def grouped {κ : Type} [DecidableEq κ] [Key κ] (ks : List (Option κ)) : Map κ (List Nat) :=
  ks.zipIdx.foldl (fun m e =>
    match e.1 with
    | none => m
    | some k => m.insert k ((m.get? k).getD [] ++ [e.2])) ∅

def build (files : List SourceFile) (repositories : List Repository) (people : List Person) :
    Positions where
  files := ofKeys (files.map (·.id))
  repositories := ofKeys (repositories.map (·.id))
  people := ofKeys (people.map (·.id))
  filesOf := grouped (files.map (·.repository))

end Positions

structure Catalog where
  graph : Graph
  files : List SourceFile
  repositories : List Repository
  people : List Person
  positions : Positions

namespace Catalog

def reindex (c : Catalog) : Catalog :=
  { c with positions := .build c.files c.repositories c.people }

def file? (c : Catalog) (i : FileId) : Option SourceFile :=
  (c.positions.files.get? i).bind fun n => c.files[n]?

def repository? (c : Catalog) (i : RepositoryId) : Option Repository :=
  (c.positions.repositories.get? i).bind fun n => c.repositories[n]?

def person? (c : Catalog) (i : PersonId) : Option Person :=
  (c.positions.people.get? i).bind fun n => c.people[n]?

def filesOf (c : Catalog) (i : RepositoryId) : List SourceFile :=
  ((c.positions.filesOf.get? i).getD []).filterMap fun n => c.files[n]?

/-! ## Putting a catalog together -/

/-- The first id that comes a second time is an error. -/
def ensureUnique {k : Kind} (seen : List (Id k)) : List (Id k) → Except IntegrityError Unit
  | [] => .ok ()
  | i :: is =>
      if i ∈ seen then .error (.duplicateId k i.toNat) else ensureUnique (i :: seen) is

/-- The project and the repository of a file must be there. -/
def checkFile (g : Graph) (repositories : List RepositoryId) (f : SourceFile) :
    Except IntegrityError Unit := do
  match f.project with
  | none => pure ()
  | some i => if (g.get? i).isNone then throw (.unknownReference .project i.toNat)
  match f.repository with
  | none => pure ()
  | some i => if i ∉ repositories then throw (.unknownReference .repository i.toNat)

/-- The catalog of the records, unless names or ids do not fit together. -/
def ofRecord (r : CatalogRecord) : Except IntegrityError Catalog := do
  let graph ← Graph.ofRecords r.projects
  let repositories := r.repositories.map (·.id)
  ensureUnique [] repositories
  ensureUnique [] (r.people.map (·.id))
  ensureUnique [] (r.files.map (·.id))
  r.files.forM (checkFile graph repositories)
  return reindex ⟨graph, r.files, r.repositories, r.people, .build [] [] []⟩

end Catalog

/-! ## Reading a catalog -/

inductive CatalogError where
  | notFound (path : String)
  | unreadable (cause : String)
  /-- The text of a document that does not fit, and the failure. -/
  | malformed (text : String) (failure : Json.Failure)
  | inconsistent (e : IntegrityError)
  deriving DecidableEq, Repr

namespace Catalog

def ofNode (text : String) (n : Json.Node) : Except CatalogError Catalog :=
  match CatalogRecord.decoder n with
  | .error f => .error (.malformed text f)
  | .ok r =>
      match ofRecord r with
      | .error e => .error (.inconsistent e)
      | .ok c => .ok c

def ofText (text : String) : Except CatalogError Catalog :=
  match CatalogRecord.decoder.ofText text.toList with
  | .error f => .error (.malformed text f)
  | .ok r =>
      match ofRecord r with
      | .error e => .error (.inconsistent e)
      | .ok c => .ok c

end Catalog

end Landscape
