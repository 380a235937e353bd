import Landscape.Identity

namespace Landscape.CommandLine

/-!
# Arguments

The arguments name a command, with flags before and after its name. Flags before the name
hold for every command; given again after it, the later one counts. A value may not look
like a flag unless it is tied to its flag.
-/

open Text

inductive Flag where
  | workspace
  | data
  | maxDepth
  | logLevel
  | logFormat
  | added
  | removed
  | root
  | external
  | file
  | project
  | repository
  | person
  | personId
  | commit
  | rule
  | kind
  deriving DecidableEq, Repr

/-- What a flag is called and what it takes. -/
structure FlagForm where
  flag : Flag
  name : String
  short : Option Char := none
  takesValue : Bool := true
  repeatable : Bool := false
  /-- Whether a value is good. -/
  accepts : List Char → Bool := fun _ => true

/-- Bounds are numbers of 64 bits. -/
def depthLimit : Nat := UInt64.size

/-- The id of a person; a zero may have a minus sign. -/
def personId? (s : List Char) : Option PersonId :=
  match s with
  | '-' :: ds => if !ds.isEmpty && ds.all (· = '0') then some (.ofNat 0) else none
  | s =>
      match readNumeral Id.count s with
      | .ok n => some (.ofNat n)
      | .error _ => none

def depth? (s : List Char) : Option Nat :=
  match readNumeral depthLimit s with
  | .ok n => some n
  | .error _ => none

def isOneOf (words : List String) (s : List Char) : Bool := words.contains (String.ofList s)

/-- The kinds of things that a rule can be checked for. -/
def checkedKinds : List Kind := [.project, .file, .commit]

def kind? (s : List Char) : Option Kind := checkedKinds.find? fun k => k.name = String.ofList s

namespace FlagForm

def common : List FlagForm := [
  { flag := .workspace, name := "workspace", accepts := fun s => !s.isEmpty },
  { flag := .data, name := "data", accepts := fun s => !s.isEmpty },
  { flag := .maxDepth, name := "max-depth", accepts := fun s => (depth? s).isSome },
  { flag := .logLevel, name := "log-level",
    accepts := isOneOf ["trace", "debug", "info", "warn", "error"] },
  { flag := .logFormat, name := "log-format", accepts := isOneOf ["text", "json"] }]

def ofSlices : List FlagForm := [
  { flag := .added, name := "include", short := some 'i', repeatable := true },
  { flag := .removed, name := "exclude", short := some 'e', repeatable := true },
  { flag := .root, name := "root", short := some 'r', repeatable := true },
  { flag := .external, name := "external", takesValue := false }]

def ofQueries : List FlagForm := [
  { flag := .file, name := "file" },
  { flag := .project, name := "proj" },
  { flag := .repository, name := "repo" },
  { flag := .person, name := "person" },
  { flag := .personId, name := "person-id", accepts := fun s => (personId? s).isSome },
  { flag := .commit, name := "commit" }]

def ofChecks : List FlagForm := [
  { flag := .rule, name := "rule" },
  { flag := .kind, name := "kind", accepts := fun s => (kind? s).isSome }]

end FlagForm

inductive Topic where
  | projects
  | deps
  | files
  | repos
  | commits
  | people
  | check
  deriving DecidableEq, Repr

def Topic.named? : String → Option Topic
  | "projects" => some .projects
  | "deps" => some .deps
  | "files" => some .files
  | "repos" => some .repos
  | "commits" => some .commits
  | "people" => some .people
  | "check" => some .check
  | _ => none

def Topic.flags : Topic → List FlagForm
  | projects | deps => FlagForm.ofSlices
  | files | repos | commits | people => FlagForm.ofQueries
  | check => FlagForm.ofChecks

abbrev Given := List (Flag × String)

/-- What the arguments before or after the name of a command come to. -/
inductive Outcome where
  | misuse
  | help
  | version
  /-- All arguments are read. -/
  | done (given : Given)
  | command (topic : Topic) (given : Given) (rest : List String)

/-- Add a flag with its value, if that is good and the flag may be given again. -/
def give? (given : Given) (f : FlagForm) (value : List Char) : Option Given :=
  if f.accepts value && (f.repeatable || given.all fun g => g.1 ≠ f.flag) then
    some (given ++ [(f.flag, String.ofList value)])
  else none

/-- Where the next argument stands: at a place of its own or as the value of a flag. -/
inductive Await where
  | argument
  | value (f : FlagForm)

inductive Effect where
  | misuse
  | help
  | version
  | next (given : Given) (await : Await)

namespace Effect

def given (g : Option Given) : Effect :=
  match g with
  | none => misuse
  | some g => next g .argument

/-- A flag that is called by its name, with a value tied to it or not. -/
def long (forms : List FlagForm) (before : Bool) (g : Given) (name : List Char)
    (value : Option (List Char)) : Effect :=
  match forms.find? fun f => f.name.toList = name with
  | some f =>
      match f.takesValue, value with
      | true, some v => given (give? g f v)
      | true, none => next g (.value f)
      | false, some _ => misuse
      | false, none => given (give? g f [])
  | none =>
      if value.isSome then misuse
      else if name = "help".toList then help
      else if before && name = "version".toList then version
      else misuse

/-- A flag that is called by its letter, with what follows the letter. -/
def short (forms : List FlagForm) (before : Bool) (g : Given) (letter : Char) (tied : List Char) :
    Effect :=
  match forms.find? fun f => f.short = some letter with
  | some f =>
      match tied with
      | [] => next g (.value f)
      | '=' :: v => given (give? g f v)
      | v => given (give? g f v)
  | none => if letter = 'h' then help else if before && letter = 'V' then version else misuse

end Effect

/-- The text up to the first equals sign and the text behind it. -/
def splitValue (s : List Char) : List Char × Option (List Char) :=
  match s.dropWhile (· ≠ '=') with
  | [] => (s, none)
  | _ :: v => (s.takeWhile (· ≠ '='), some v)

/-- Whether there is help on what is named: on nothing, on a command or on help itself. -/
def isHelpTopic : List String → Bool
  | [] => true
  | [name] => name = "help" || (Topic.named? name).isSome
  | _ => false

/-- Read arguments; `before` says that no command is named yet. -/
def read (forms : List FlagForm) (before : Bool) (given : Given) (await : Await) :
    List String → Outcome
  | [] =>
      match await with
      | .argument => .done given
      | .value _ => .misuse
  | a :: rest =>
      match await, a.toList with
      | .argument, ['-', '-'] => if rest.isEmpty then .done given else .misuse
      | .argument, '-' :: '-' :: s =>
          let (name, value) := splitValue s
          match Effect.long forms before given name value with
          | .next g await => read forms before g await rest
          | .misuse => .misuse
          | .help => .help
          | .version => .version
      | .argument, '-' :: c :: tied =>
          match Effect.short forms before given c tied with
          | .next g await => read forms before g await rest
          | .misuse => .misuse
          | .help => .help
          | .version => .version
      | .argument, _ =>
          if before then
            match Topic.named? a with
            | some topic => .command topic given rest
            | none => if a = "help" && isHelpTopic rest then .help else .misuse
          else .misuse
      | .value _, '-' :: _ :: _ => .misuse
      | .value f, v =>
          match give? given f v with
          | some g => read forms before g .argument rest
          | none => .misuse

/-! ## Commands -/

inductive Request where
  | misuse
  | help
  | version
  | run (topic : Topic) (common : Given) (own : Given)

namespace Request

/-- Put flags before and after the name of a command together; the later ones count. -/
def combine (topic : Topic) (before after : Given) : Request :=
  let isCommon (g : Flag × String) := FlagForm.common.any fun f => f.flag = g.1
  let later := after.filter isCommon
  let earlier := before.filter fun g => later.all fun h => h.1 ≠ g.1
  if topic = .check && after.all fun g => g.1 ≠ .rule then misuse
  else run topic (earlier ++ later) (after.filter fun g => !isCommon g)

def ofArguments (args : List String) : Request :=
  match read FlagForm.common true [] .argument args with
  | .misuse => misuse
  | .help => help
  | .version => version
  | .done _ => misuse
  | .command topic before rest =>
      match read (FlagForm.common ++ topic.flags) false [] .argument rest with
      | .done after => combine topic before after
      | .help => help
      | _ => misuse

end Request

def Given.values (g : Given) (f : Flag) : List String := (g.filter fun e => e.1 = f).map (·.2)

def Given.value? (g : Given) (f : Flag) : Option String := (g.values f).head?

end Landscape.CommandLine
