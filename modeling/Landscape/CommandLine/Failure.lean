import Landscape.Catalog.Basic
import Landscape.Listing
import Landscape.Query.Basic
import Landscape.Settings.Basic

namespace Landscape

/-!
# Failures of a command

Every failure has a message, a code that is also the exit code, and sometimes details.
-/

open Json Json.Value

inductive CommandFailure where
  | invalidArguments (message : String) (details : Option Value)
  | invalidRule (f : RuleFailure)
  | dataNotFound (path : String)
  | invalidData (message : String)
  | internal (message : String)

namespace CommandFailure

def message : CommandFailure → String
  | invalidArguments message _ => "invalid arguments: " ++ message
  | invalidRule f => "invalid " ++ f.kind.name ++ " rule: " ++ f.error.message
  | dataNotFound path => "data file not found: " ++ path
  | invalidData message => "invalid dataset: " ++ message
  | internal message => "internal error: " ++ message

/-- Two for what the caller has given, three for data, ten for anything else. -/
def code : CommandFailure → Nat
  | invalidArguments .. => 2
  | invalidRule _ => 2
  | dataNotFound _ => 3
  | invalidData _ => 3
  | internal _ => 10

def details : CommandFailure → Option Value
  | invalidArguments _ d => d
  | invalidRule f =>
      some (object [("fragment", text f.error.fragment), ("kind", text f.kind.name)])
  | dataNotFound path => some (object [("path", text path)])
  | invalidData _ => none
  | internal _ => none

def toJson (f : CommandFailure) : Value := Listing.failure f.code f.message f.details

def ofCatalog : CatalogError → CommandFailure
  | .notFound path => dataNotFound path
  | .unreadable cause => internal ("IO error: " ++ cause)
  | .malformed source f => invalidData ("JSON error: " ++ f.report source.toList)
  | .inconsistent e => invalidData e.message

def ofSettings (e : SettingsError) : CommandFailure :=
  match e with
  | .unreadable .. => internal e.message
  | .malformed .. => invalidArguments e.message none
  | .invalidValue .. => invalidArguments e.message none

end CommandFailure

end Landscape
