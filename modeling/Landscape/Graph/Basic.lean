import Landscape.Graph.Project

namespace Landscape

/-!
# The graph of projects

Projects are kept by id, with an index from names to ids. The index and the names under
which dependencies are filed are those at the time of insertion: a project that is renamed
afterwards is still found under its first name.
-/

/-- Which projects a listing admits. -/
inductive ListMode where
  | all
  | owned
  deriving DecidableEq, Repr

def ListMode.admits : ListMode → Project → Bool
  | all, _ => true
  | owned, p => !p.isExternal

structure Graph where
  projects : Map ProjectId Project
  index : Map String ProjectId
  /-- The next number to give away, one past the last when none is left. -/
  nextId : Nat

/-- A dependency with both ends resolved. -/
structure Link where
  source : Project
  target : Project
  dependency : Dependency

/-- External targets come last; within each part targets go by name without leading colons. -/
def Link.before (k l : Link) : Bool :=
  if k.target.isExternal = l.target.isExternal then
    Text.before k.target.bareName l.target.bareName
  else l.target.isExternal

namespace Graph

def empty : Graph := ⟨∅, ∅, 1⟩

instance : Inhabited Graph := ⟨empty⟩

def size (g : Graph) : Nat := g.projects.size

def get? (g : Graph) (i : ProjectId) : Option Project := g.projects.get? i

def idOf? (g : Graph) (name : String) : Option ProjectId := g.index.get? name

def named? (g : Graph) (name : String) : Option Project := (g.idOf? name).bind g.get?

/-! ## Changes -/

/-- File a project under its id and its name. -/
def file (g : Graph) (p : Project) : Graph :=
  { g with projects := g.projects.insert p.id p, index := g.index.insert p.name p.id }

/-- The id under the name, of a new code project if there is none yet. -/
def getOrCreate (g : Graph) (name : String) : Except IntegrityError (Graph × ProjectId) :=
  match g.idOf? name with
  | some i => .ok (g, i)
  | none =>
      if g.nextId < Id.count then
        let p := Project.new (.ofNat g.nextId) name
        .ok ({ g.file p with nextId := g.nextId + 1 }, p.id)
      else .error (.idsExhausted .project)

/-- Insert a project under its own id, if its name and its id are free. -/
def insert (g : Graph) (p : Project) : Except IntegrityError Graph :=
  if g.index.contains p.name then .error (.duplicateProject p.name)
  else if g.projects.contains p.id then .error (.duplicateId .project p.id.toNat)
  else .ok { g.file p with nextId := max g.nextId (p.id.toNat + 1) }

/-- Change the project with this id, if there is one. The index stays as it is. -/
def modify (g : Graph) (i : ProjectId) (change : Project → Project) : Graph :=
  { g with projects := g.projects.modify i change }

/-- Change the dependency filed under the target's name, a new one if there is none yet; the
second part is the dependency after the change. -/
def addDependency (g : Graph) (source target : ProjectId) (change : Dependency → Dependency) :
    Except IntegrityError (Graph × Dependency) :=
  match g.get? target with
  | none => .error (.unknownReference .project target.toNat)
  | some t =>
      match g.get? source with
      | none => .error (.unknownReference .project source.toNat)
      | some s =>
          let d := change ((s.dependencies.get? t.name).getD (.new source target))
          let s := { s with dependencies := s.dependencies.insert t.name d }
          .ok ({ g with projects := g.projects.insert source s }, d)

/-! ## Listings -/

/-- The admitted projects by name; of equal names the smaller id comes first. -/
def list (g : Graph) (mode : ListMode) : List Project :=
  (g.projects.values.filter mode.admits).mergeSort fun p q => !Key.before q.name p.name

def dependencies (g : Graph) (p : Project) (mode : ListMode) : List Link :=
  let links := p.dependencies.values.filterMap fun d =>
    match g.get? d.target with
    | none => none
    | some t => if mode.admits t then some ⟨p, t, d⟩ else none
  links.mergeSort fun k l => !Link.before l k

def allDependencies (g : Graph) (mode : ListMode) : List Link :=
  (g.list mode).flatMap fun p => g.dependencies p mode

end Graph

end Landscape
