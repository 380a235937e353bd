import Landscape.Catalog.Record
import Landscape.Graph.Basic

namespace Landscape.Graph

/-!
# Graphs from records

Records with an id come first, so that ids given away never meet them. Then come the other
records in order, and last the dependencies. A target without a record is an external
library.
-/

/-- Insert the records that have an id. -/
def insertGiven (g : Graph) (rs : List ProjectRecord) : Except IntegrityError Graph :=
  rs.foldlM (fun g r =>
    match r.id with
    | none => .ok g
    | some i => g.insert (r.project i)) g

/-- Create projects for the records without an id. -/
def insertOpen (g : Graph) (rs : List ProjectRecord) : Except IntegrityError Graph :=
  rs.foldlM (fun g r =>
    match r.id with
    | some _ => .ok g
    | none =>
        if (g.named? r.name).isSome then .error (.duplicateProject r.name)
        else do
          let (g, i) ← g.getOrCreate r.name
          return g.modify i fun _ => r.project i) g

/-- The project of a name, a new external library if there is none yet. -/
def targetNamed (g : Graph) (name : String) : Except IntegrityError (Graph × ProjectId) :=
  match g.named? name with
  | some p => .ok (g, p.id)
  | none => do
      let (g, i) ← g.getOrCreate name
      return (g.modify i fun p => { p with type := .library }, i)

def addRecord (source : ProjectId) (g : Graph) (d : DependencyRecord) :
    Except IntegrityError Graph := do
  let (g, target) ← g.targetNamed d.target
  let (g, _) ← g.addDependency source target (Dependency.extend d.versions.toList d.data.entries)
  return g

def addRecords (g : Graph) (rs : List ProjectRecord) : Except IntegrityError Graph :=
  rs.foldlM (fun g r =>
    match g.named? r.name with
    | none => .ok g
    | some p => r.dependencies.foldlM (addRecord p.id) g) g

def ofRecords (rs : List ProjectRecord) : Except IntegrityError Graph := do
  let g ← insertGiven empty rs
  let g ← g.insertOpen rs
  g.addRecords rs

end Landscape.Graph
