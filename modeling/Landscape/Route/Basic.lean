import Landscape.Pattern.Capture
import Landscape.Route.Search

namespace Landscape

/-!
# Routes

A route is a rule on dependencies: it selects the paths from projects that pass one test to
projects that pass another. Between the tests stands an arrow, which may carry a bound on
the number of edges and the mark `R`: `web -2R-> api`. A route is searched once, when the
rule is read.
-/

open Text

/-! ## The text of a route -/

/-- A route as written, before it is searched. -/
structure RouteText where
  source : ProjectTest
  bound : Option Nat
  /-- Only the edges of the paths themselves count. -/
  required : Bool
  dest : ProjectTest
  deriving DecidableEq

namespace RouteText

/-- The form of a route as a regular expression. Its groups are the test of the source, the digits
of the bound, the mark and the test of the goal. -/
def formText : String := "^([^>]*?)\\s*(?:-(\\d+)?(R)?)?->\\s*([^>]*)$"

def notGreater : CharSet := .compl (.single '>')

/-- What an arrow may carry: a hyphen, the digits of a bound and the mark. -/
def load : Pattern :=
  .sequence [.one (.single '-'),
    .times (.group (.times (.one .digit) 1 none false)) 0 (some 1) false,
    .times (.group (.one (.single 'R'))) 0 (some 1) false]

/-- The pattern that `formText` writes. -/
def form : Pattern :=
  .sequence [.place .textStart, .group (.times (.one notGreater) 0 none true), .run .space,
    .times load 0 (some 1) false, .one (.single '-'), .one (.single '>'), .run .space,
    .group (.run notGreater), .place .textEnd]

/-- Bounds are numbers of 64 bits. -/
def boundLimit : Nat := UInt64.size

/-- The bound that the digits write, the usual one if there are none. -/
def readBound (rule : List Char) (usual : Option Nat) :
    Option (List Char) → Except RuleError (Option Nat)
  | none => .ok usual
  | some digits =>
      match readNumeral boundLimit digits with
      | .ok n => .ok (some n)
      | .error _ => .error (.invalidDepth (String.ofList rule) (String.ofList digits))

/-- Read a route; its parts are looked at in the order of the text. -/
def ofText (usual : Option Nat) (rule : List Char) : Except RuleError RouteText :=
  let rule := trim rule
  match form.captures rule with
  | none => .error (.malformedRoute (String.ofList rule))
  | some groups => do
      let source ← ProjectTest.ofText ((groups.group? 1).getD [])
      let bound ← readBound rule usual (groups.group? 2)
      let dest ← ProjectTest.ofText ((groups.group? 4).getD [])
      return ⟨source, bound, (groups.group? 3).isSome, dest⟩

end RouteText

/-! ## Routes on a graph -/

structure Route where
  rule : String
  policy : Policy
  bound : Option Nat
  required : Bool
  edges : OrderedSet (Edge ProjectId)
  /-- The ends of the recorded edges. -/
  touched : OrderedSet ProjectId
  deriving DecidableEq

namespace Route

/-- The recorded edges of a route: a search from every owned project that passes the test of
the source, in the order of names. -/
def search (g : Graph) (t : RouteText) : OrderedSet (Edge ProjectId) :=
  (g.network t.dest).searchAll t.bound
    (((g.list .owned).filter fun p => t.source.holds p).map (·.id))

def ends (edges : OrderedSet (Edge ProjectId)) : OrderedSet ProjectId :=
  .ofList (edges.toList.flatMap fun e => [e.source, e.target])

/-- The route that `rule` writes, searched in the graph. -/
def resolve (g : Graph) (policy : Policy) (rule : String) (t : RouteText) : Route :=
  let edges := search g t
  ⟨rule, policy, t.bound, t.required, edges, ends edges⟩

def ofText (g : Graph) (policy : Policy) (usual : Option Nat) (rule : List Char) :
    Except RuleError Route :=
  resolve g policy (String.ofList (trim rule)) <$> RouteText.ofText usual rule

def records (r : Route) (source target : ProjectId) : Bool := r.edges.contains ⟨source, target⟩

/-- An including route without the mark takes every edge between touched projects, any other
route only the recorded edges. -/
def takes (r : Route) (source target : ProjectId) : Bool :=
  if r.policy = .including ∧ !r.required then
    r.touched.contains source && r.touched.contains target
  else r.records source target

def verdict (r : Route) (l : Link) : Verdict :=
  .ofMatch r.policy (r.takes l.source.id l.target.id)

end Route

end Landscape
