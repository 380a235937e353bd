import Landscape.CommandLine.Arguments
import Landscape.CommandLine.Failure

namespace Landscape.CommandLine

/-!
# Commands

A command puts the settings together, reads the catalog and prints one document. It runs over
any host that can read files.
-/

open Json

/-- What a command sees of the world. -/
structure Host (m : Type → Type) where
  read : String → m (Except ReadFailure String)
  currentDir : String
  environment : Environment

structure Answer where
  code : Nat
  output : String
  deriving DecidableEq, Repr

def Answer.ok (v : Value) : Answer := ⟨0, v.toText⟩

def Answer.ofResult (r : Except CommandFailure Value) : Answer :=
  match r with
  | .ok v => .ok v
  | .error f => ⟨f.code, f.toJson.toText⟩

/-! ## Checking a rule -/

/-- The number of terms of a rule; routes are searched in a graph without projects. -/
def countLeaves (kind : Kind) (rule : List Char) : Except RuleError Nat :=
  match kind with
  | .file => Formula.leafCount <$> FileRule.ofText .including rule
  | .commit => Formula.leafCount <$> CommitRule.ofText .including rule
  | _ => Formula.leafCount <$> ProjectRule.ofText .empty .including none rule

/-- Check the given rule, by default one on projects. -/
def check (own : Given) : Except CommandFailure Value :=
  let rule := (own.value? .rule).getD ""
  let kind := ((own.value? .kind).bind fun k => kind? k.toList).getD .project
  match countLeaves kind rule.toList with
  | .ok n => .ok (Listing.check kind rule n)
  | .error e => .error (.invalidRule ⟨kind, e⟩)

/-! ## Listings -/

def overrides (common own : Given) : Overrides where
  data := common.value? .data
  maxDepth := (common.value? .maxDepth).bind fun s => depth? s.toList
  keepExternal := (own.value? .external).isSome
  roots := own.values .root

def slice (s : Settings) (own : Given) : Slice where
  added := own.values .added
  removed := own.values .removed
  roots := s.roots.map (·.value)
  keepExternal := s.keepExternal.value
  maxDepth := s.maxDepth.map (·.value)

def params (own : Given) : Query.Params where
  file := (own.value? .file).getD ""
  project := (own.value? .project).getD ""
  repository := (own.value? .repository).getD ""
  person := (own.value? .person).getD ""
  personId := (own.value? .personId).bind fun s => personId? s.toList
  commit := (own.value? .commit).getD ""

def listMode (s : Settings) : ListMode := if s.keepExternal.value then .all else .owned

def listSlice (s : Settings) (c : Catalog) (own : Given)
    (listing : Graph → ProjectRule → ListMode → Value) : Except CommandFailure Value :=
  match (slice s own).rule c.graph with
  | .ok r => .ok (listing c.graph r (listMode s))
  | .error e => .error (.invalidRule ⟨.project, e⟩)

def listQuery (s : Settings) (c : Catalog) (own : Given) (listing : Query → Value) :
    Except CommandFailure Value :=
  match Query.compile c (params own) (s.maxDepth.map (·.value)) with
  | .ok q => .ok (listing q)
  | .error f => .error (.invalidRule f)

def list (topic : Topic) (s : Settings) (c : Catalog) (own : Given) :
    Except CommandFailure Value :=
  match topic with
  | .projects => listSlice s c own fun g r mode => Listing.projects (g.selectProjects r mode)
  | .deps => listSlice s c own fun g r mode => Listing.dependencies (g.selectLinks r mode)
  | .files => listQuery s c own fun q => Listing.files q.files
  | .repos => listQuery s c own fun q => Listing.repositories q.repositories
  | .commits => listQuery s c own fun q => Listing.commits q.commits
  | .people => listQuery s c own fun q => Listing.people q.people
  | .check => check own

/-! ## Reading settings and catalog -/

variable {m : Type → Type} [Monad m]

def readSettings (host : Host m) (workspace : String) (o : Overrides) :
    m (Except CommandFailure Settings) := do
  let content ← host.read (Settings.filePath workspace)
  match Settings.resolve workspace content host.environment o with
  | .ok s => return .ok s
  | .error e => return .error (.ofSettings e)

def readCatalog (host : Host m) (path : String) : m (Except CommandFailure Catalog) := do
  match ← host.read path with
  | .error .notFound => return .error (.ofCatalog (.notFound path))
  | .error (.other cause) => return .error (.ofCatalog (.unreadable cause))
  | .ok text =>
      match Catalog.ofText text with
      | .ok c => return .ok c
      | .error e => return .error (.ofCatalog e)

/-- Run a command on the settings and the catalog of its workspace. -/
def runListing (host : Host m) (topic : Topic) (common own : Given) :
    m (Except CommandFailure Value) := do
  let workspace := (common.value? .workspace).getD host.currentDir
  match ← readSettings host workspace (overrides common own) with
  | .error f => return .error f
  | .ok s =>
      match ← readCatalog host s.data.value with
      | .error f => return .error f
      | .ok c => return list topic s c own

/-- What is printed on the version. -/
def versionText : String := "archer 0.1.0\n"

/-- Run the command that the arguments ask for. Checking a rule reads no files. -/
def run (host : Host m) (args : List String) : m Answer :=
  match Request.ofArguments args with
  | .misuse => return ⟨2, ""⟩
  | .help => return ⟨0, ""⟩
  | .version => return ⟨0, versionText⟩
  | .run .check _ own => return .ofResult (check own)
  | .run topic common own => do return .ofResult (← runListing host topic common own)

end Landscape.CommandLine
