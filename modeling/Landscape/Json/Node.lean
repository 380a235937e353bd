import Landscape.Json.Number

namespace Landscape.Json

/-!
# Documents with places

A document is read as far as it is JSON; where it goes wrong, the tree ends in the break. So a
reader that walks the tree in the order of the text meets the first problem of either kind,
form or content. What a reader skips is held to a weaker form, so a break tells its failure
for both cases.
-/

/-- Where a document goes wrong, for one who reads the place and for one who skips it. -/
structure Break where
  reading : Failure
  skipping : Failure
  deriving DecidableEq, Repr

def Break.both (f : Failure) : Break := ⟨f, f⟩

structure Span where
  start : Nat
  stop : Nat
  deriving DecidableEq, Repr

/-- The key of a member, unless its escapes form no text, and the place after it and after
blanks that follow. -/
structure MemberKey where
  name : Except Failure String
  after : Nat

inductive Node where
  | null (place : Span)
  | bool (place : Span) (b : Bool)
  | number (place : Span) (l : Literal)
  /-- A text, unless its escapes form none. -/
  | text (place : Span) (s : Except Failure String)
  | array (place : Span) (items : List Node) (cut : Option Break)
  | object (place : Span) (members : List (MemberKey × Node)) (cut : Option Break)
  /-- No value begins, or a text is not closed or not well formed. -/
  | lost (b : Break)
  /-- Something else begins that is no value. -/
  | broken (start : Nat) (b : Break)

namespace Node

mutual

/-- The failure of one who skips the value. -/
def skipFailure? : Node → Option Failure
  | array _ items cut => (skipItems? items).or (cut.map Break.skipping)
  | object _ members cut => (skipMembers? members).or (cut.map Break.skipping)
  | lost b => some b.skipping
  | broken _ b => some b.skipping
  | _ => none

def skipItems? : List Node → Option Failure
  | [] => none
  | n :: ns => n.skipFailure?.or (skipItems? ns)

def skipMembers? : List (MemberKey × Node) → Option Failure
  | [] => none
  | (_, n) :: ms => n.skipFailure?.or (skipMembers? ms)

end

def start : Node → Nat
  | null a | bool a _ | number a _ | text a _ | array a _ _ | object a _ _ => a.start
  | lost b => b.reading.place
  | broken start _ => start

end Node

/-- A document: its value, and what is wrong after it. -/
structure Document where
  root : Node
  after : Option Failure

end Landscape.Json
