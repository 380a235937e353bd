import Landscape.Json.Decode
import Landscape.Settings.FilePath
import Landscape.Text.Blank
import Landscape.Text.Numeral

namespace Landscape

/-!
# Settings

Settings come from four sources. Each value remembers its source, and a value from a later
source goes before one from an earlier source.
-/

open Json Text

/-- The sources in the order in which they outrank one another. -/
inductive Source where
  | default
  | file
  | environment
  | flag
  deriving DecidableEq, Repr

def Source.rank : Source → Nat
  | default => 0
  | file => 1
  | environment => 2
  | flag => 3

structure Sourced (α : Type) where
  value : α
  source : Source
  deriving DecidableEq, Repr

/-- The second value, unless the first is of a higher source. -/
def Sourced.merge {α : Type} (a b : Sourced α) : Sourced α :=
  if a.source.rank ≤ b.source.rank then b else a

/-! ## What each source may give -/

structure SettingsFile where
  data : Option String
  maxDepth : Option Nat
  keepExternal : Option Bool
  roots : List String
  deriving DecidableEq, Repr

/-- Bounds are numbers of 64 bits. -/
def Settings.depthLimit : Nat := UInt64.size

def SettingsFile.decoder : Decoder SettingsFile :=
  Fields.record ⟨"ProjectConfig", true⟩ <|
    mk <$> .maybe "data" (Decoder.text "path string")
      <*> .maybe "max_depth" (Decoder.natural Settings.depthLimit "usize")
      <*> .maybe "keep_external" Decoder.bool
      <*> .withDefault "roots" [] (Decoder.list Decoder.string)

/-- The flags of a command; external libraries can only be asked for. -/
structure Overrides where
  data : Option String := none
  maxDepth : Option Nat := none
  keepExternal : Bool := false
  roots : List String := []
  deriving DecidableEq, Repr

/-- The variables of the environment, as far as they are set. -/
structure Environment where
  data : Option String := none
  maxDepth : Option String := none
  keepExternal : Option String := none
  deriving DecidableEq, Repr

namespace Environment

def dataKey : String := "ARCHER_DATA"

def maxDepthKey : String := "ARCHER_MAX_DEPTH"

def keepExternalKey : String := "ARCHER_KEEP_EXTERNAL"

end Environment

inductive SettingsError where
  | unreadable (path cause : String)
  /-- A settings file with the given text that does not fit, and the failure. -/
  | malformed (path text : String) (failure : Failure)
  | invalidValue (key value : String)
  deriving DecidableEq, Repr

def SettingsError.message : SettingsError → String
  | unreadable path cause => "cannot read config file " ++ path ++ ": " ++ cause
  | malformed path text failure =>
      "invalid config file " ++ path ++ ": " ++ failure.report text.toList
  | invalidValue key value => "invalid value '" ++ value ++ "' for " ++ key

/-! ## Settings put together -/

structure Settings where
  data : Sourced String
  maxDepth : Option (Sourced Nat)
  keepExternal : Sourced Bool
  roots : List (Sourced String)
  deriving DecidableEq, Repr

namespace Settings

/-- The catalog of a workspace where nothing else is said. -/
def defaultData : String := "archer.json"

/-- The path of the settings file of a workspace. -/
def filePath (workspace : String) : String :=
  FilePath.join (FilePath.join workspace ".archer") "config.json"

def defaults (workspace : String) : Settings :=
  ⟨⟨FilePath.join workspace defaultData, .default⟩, none, ⟨false, .default⟩, []⟩

def setData (s : Settings) (source : Source) (data : Option String) : Settings :=
  match data with
  | none => s
  | some d => { s with data := s.data.merge ⟨d, source⟩ }

def setMaxDepth (s : Settings) (source : Source) (depth : Option Nat) : Settings :=
  match depth with
  | none => s
  | some n =>
      match s.maxDepth with
      | none => { s with maxDepth := some ⟨n, source⟩ }
      | some m => { s with maxDepth := some (m.merge ⟨n, source⟩) }

def setKeepExternal (s : Settings) (source : Source) (keep : Option Bool) : Settings :=
  match keep with
  | none => s
  | some b => { s with keepExternal := s.keepExternal.merge ⟨b, source⟩ }

/-- Roots are taken from one source as a whole. -/
def setRoots (s : Settings) (source : Source) (roots : List String) : Settings :=
  if roots.isEmpty then s else { s with roots := roots.map (⟨·, source⟩) }

/-- The settings of a file; its path of the catalog is seen from the workspace. -/
def withFile (s : Settings) (workspace : String) (f : SettingsFile) : Settings :=
  (((s.setData .file (f.data.map (FilePath.join workspace))).setMaxDepth .file
    f.maxDepth).setKeepExternal .file f.keepExternal).setRoots .file f.roots

/-- A variable that is set and not blank. -/
def given? (v : Option String) : Option String :=
  match v with
  | none => none
  | some s => if (trim s.toList).isEmpty then none else some s

def readDepth (v : Option String) : Except SettingsError (Option Nat) :=
  match given? v with
  | none => .ok none
  | some s =>
      match readNumeral depthLimit (trim s.toList) with
      | .ok n => .ok (some n)
      | .error _ => .error (.invalidValue Environment.maxDepthKey s)

/-- The small letter of an ASCII capital. -/
def lowerAscii (c : Char) : Char :=
  if 'A' ≤ c && c ≤ 'Z' then Char.ofNat (c.toNat + 32) else c

/-- The answer that a text gives to a yes-or-no question. -/
def flagOf? (s : List Char) : Option Bool :=
  let word := String.ofList ((trim s).map lowerAscii)
  if ["1", "true", "yes", "on"].contains word then some true
  else if ["0", "false", "no", "off"].contains word then some false
  else none

def readFlag (v : Option String) : Except SettingsError (Option Bool) :=
  match given? v with
  | none => .ok none
  | some s =>
      match flagOf? s.toList with
      | some b => .ok (some b)
      | none => .error (.invalidValue Environment.keepExternalKey s)

def withEnvironment (s : Settings) (e : Environment) : Except SettingsError Settings := do
  let depth ← readDepth e.maxDepth
  let keep ← readFlag e.keepExternal
  return ((s.setData .environment (given? e.data)).setMaxDepth .environment depth).setKeepExternal
    .environment keep

def withOverrides (s : Settings) (o : Overrides) : Settings :=
  let s := (s.setData .flag o.data).setMaxDepth .flag o.maxDepth
  let s := if o.keepExternal then { s with keepExternal := ⟨true, .flag⟩ } else s
  s.setRoots .flag o.roots

/-- The settings file of a workspace, given what reading its path has come to. A file that is
not there says nothing. -/
def readFile? (workspace : String) (content : Except ReadFailure String) :
    Except SettingsError (Option SettingsFile) :=
  match content with
  | .error .notFound => .ok none
  | .error (.other cause) => .error (.unreadable (filePath workspace) cause)
  | .ok text =>
      match SettingsFile.decoder.ofText text.toList with
      | .ok f => .ok (some f)
      | .error f => .error (.malformed (filePath workspace) text f)

/-- Put the settings together: defaults, file, environment and flags. -/
def resolve (workspace : String) (content : Except ReadFailure String) (e : Environment)
    (o : Overrides) : Except SettingsError Settings := do
  let file ← readFile? workspace content
  let s := defaults workspace
  let s :=
    match file with
    | none => s
    | some f => s.withFile workspace f
  let s ← s.withEnvironment e
  return s.withOverrides o

end Settings

end Landscape
