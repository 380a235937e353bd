import Landscape.Identity
import Landscape.Ordered.Set

namespace Landscape

/-!
# Projects and their dependencies

A project holds its outgoing dependencies under the names that their targets had when the
dependencies were added.
-/

inductive ProjectType where
  /-- A package of somebody else's. -/
  | library
  | code
  | database
  deriving DecidableEq, Repr

def ProjectType.name : ProjectType → String
  | library => "lib"
  | code => "code"
  | database => "db"

/-- A directed edge between two projects, with the versions seen of it. -/
structure Dependency where
  source : ProjectId
  target : ProjectId
  versions : OrderedSet String
  data : Map String String
  deriving DecidableEq

namespace Dependency

def new (source target : ProjectId) : Dependency := ⟨source, target, ∅, ∅⟩

/-- Add versions and data; data under a key already there gives way. -/
def extend (versions : List String) (data : List (String × String)) (d : Dependency) :
    Dependency :=
  { d with versions := d.versions.insertAll versions, data := d.data.insertAll data }

@[simp] theorem extend_source (vs : List String) (es : List (String × String)) (d : Dependency) :
    (d.extend vs es).source = d.source := rfl

@[simp] theorem extend_target (vs : List String) (es : List (String × String)) (d : Dependency) :
    (d.extend vs es).target = d.target := rfl

end Dependency

structure Project where
  id : ProjectId
  name : String
  /-- The groups around the project, the outermost first. -/
  groups : List String
  type : ProjectType
  ignored : Bool
  rootDir : Option String
  repository : Option RepositoryId
  data : Map String String
  dependencies : Map String Dependency
  deriving DecidableEq

namespace Project

/-- A code project with nothing but its name. -/
def new (id : ProjectId) (name : String) : Project :=
  ⟨id, name, [], .code, false, none, none, ∅, ∅⟩

/-- What stands behind the last colon of the name. -/
def simpleName (p : Project) : String :=
  String.ofList (p.name.toList.reverse.takeWhile (· ≠ ':')).reverse

def fullGroup (p : Project) : String := String.intercalate ":" p.groups

def isCode (p : Project) : Bool := p.type = .code

def isExternal (p : Project) : Bool := p.type = .library

/-- The name without its leading colons. -/
def bareName (p : Project) : List Char := p.name.toList.dropWhile (· = ':')

end Project

end Landscape
