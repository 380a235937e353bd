import Landscape.Graph.Project
import Landscape.History

namespace Landscape

/-!
# Records

A catalog is written as records: projects with the dependencies listed under them, where
targets are named and ids may be left open.
-/

/-- A dependency as written under its source. -/
structure DependencyRecord where
  target : String
  versions : OrderedSet String
  data : Map String String
  deriving DecidableEq

structure ProjectRecord where
  id : Option ProjectId
  name : String
  groups : List String
  type : ProjectType
  ignored : Bool
  rootDir : Option String
  repository : Option RepositoryId
  data : Map String String
  dependencies : List DependencyRecord
  deriving DecidableEq

def ProjectRecord.project (r : ProjectRecord) (i : ProjectId) : Project where
  id := i
  name := r.name
  groups := r.groups
  type := r.type
  ignored := r.ignored
  rootDir := r.rootDir
  repository := r.repository
  data := r.data
  dependencies := ∅

structure CatalogRecord where
  projects : List ProjectRecord
  files : List SourceFile
  repositories : List Repository
  people : List Person
  deriving DecidableEq

end Landscape
