import Landscape.Pattern.Basic

namespace Landscape

/-!
# What the groups of a pattern take

Where a pattern takes more than one stretch of a text, one is better than the other: the first
branch of a choice goes before the second, and to repeat goes before to stop, or after it if the
repetition is lazy. A match begins as far to the left as any, and of those that begin there it is
the best.
-/

/-- A place in a text, with what the groups took on the way to it. -/
structure Spot where
  prev : Option Char
  rest : List Char
  /-- The number of each group with its stretch, the last first. -/
  taken : List (Nat × List Char)
  deriving DecidableEq

namespace Spot

/-- The stretch from one spot to a later one. -/
def stretch (x y : Spot) : List Char := x.rest.take (x.rest.length - y.rest.length)

/-- Record what the group `k` took since the spot `x`. -/
def keep (x : Spot) (k : Nat) (y : Spot) : Spot := { y with taken := (k, x.stretch y) :: y.taken }

/-- What the group `k` took when it last took part. -/
def group? (x : Spot) (k : Nat) : Option (List Char) := x.taken.lookup k

end Spot

/-- What is tried from a spot, with the spot where it ends if it succeeds. -/
abbrev Attempt := Spot → Option Spot

namespace Attempt

/-- To stop or to go on, whichever is better, and the other one if that fails. -/
@[macro_inline]
def choose (lazy : Bool) (stop more : Option Spot) : Option Spot :=
  if lazy then stop.or more else more.or stop

/-! ## Repetitions

`body next` tries what is repeated and then `next`.
-/

variable (body : Attempt → Attempt)

def exactly : Nat → Attempt → Attempt
  | 0, next => next
  | n + 1, next => body (exactly n next)

def atMost (lazy : Bool) (next : Attempt) : Nat → Attempt
  | 0, x => next x
  | n + 1, x => choose lazy (next x) (body (atMost lazy next n) x)

/-- A repetition that takes nothing is the last one. -/
def anyTimes (lazy : Bool) (next : Attempt) (x : Spot) : Option Spot :=
  choose lazy (next x) <| body (fun y =>
    if y.rest.length < x.rest.length then anyTimes lazy next y else next y) x
termination_by x.rest.length

end Attempt

namespace Pattern

def groupCount : Pattern → Nat
  | empty | one _ | place _ => 0
  | seq p q | alt p q => groupCount p + groupCount q
  | times p _ _ _ => groupCount p
  | group p => groupCount p + 1

/-- Try the pattern and then `next`, at the best end of the pattern where that succeeds. The groups
of the pattern are numbered from `k`. -/
def attempt : Pattern → Nat → Attempt → Attempt
  | empty, _, next, x => next x
  | one s, _, next, x =>
      match x.rest with
      | [] => none
      | c :: cs => if s.mem c then next ⟨some c, cs, x.taken⟩ else none
  | place a, _, next, x => if a.holds x.prev x.rest.head? then next x else none
  | seq p q, k, next, x => attempt p k (attempt q (k + p.groupCount) next) x
  | alt p q, k, next, x =>
      (attempt p k next x).or (attempt q (k + p.groupCount) next x)
  | times p least most lazy, k, next, x =>
      let more :=
        match most with
        | none => Attempt.anyTimes (attempt p k) lazy next
        | some most => Attempt.atMost (attempt p k) lazy next (most - least)
      Attempt.exactly (attempt p k) least more x
  | group p, k, next, x => attempt p (k + 1) (fun y => next (x.keep k y)) x

/-- The end of the first match that begins in `s`, which stands behind `prev`. -/
def firstMatch (p : Pattern) (prev : Option Char) (s : List Char) : Option Spot :=
  match p.attempt 1 some ⟨prev, s, []⟩ with
  | some y => some y
  | none =>
      match s with
      | [] => none
      | c :: cs => firstMatch p (some c) cs

/-- The end of the first match in a text. Its groups are numbered from one. -/
def captures (p : Pattern) (s : List Char) : Option Spot := p.firstMatch none s

end Pattern

end Landscape
