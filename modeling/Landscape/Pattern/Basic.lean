import Landscape.Pattern.CharSet

namespace Landscape

/-!
# Patterns

A pattern describes stretches of a text: one character of a set, a place between two
characters, and what is built from these by sequence, choice and repetition.
-/

inductive WordEdge where
  | boundary
  | noBoundary
  | start
  | stop
  /-- No word character before. -/
  | startHalf
  /-- No word character after. -/
  | stopHalf
  deriving DecidableEq, Repr

inductive Anchor where
  | textStart
  | textEnd
  /-- After a line feed or at the start. -/
  | lineStart
  /-- Before a line feed or at the end. -/
  | lineEnd
  /-- As `lineStart`, where a carriage return ends a line too, alone or with a line feed. -/
  | anyLineStart
  | anyLineEnd
  | word (edge : WordEdge) (ascii : Bool)
  deriving DecidableEq, Repr

namespace WordEdge

/-- Whether the edge lies between a place's two sides, given if each is a word character. -/
def holds : WordEdge → Bool → Bool → Bool
  | boundary, before, after => before != after
  | noBoundary, before, after => before == after
  | start, before, after => !before && after
  | stop, before, after => before && !after
  | startHalf, before, _ => !before
  | stopHalf, _, after => !after

end WordEdge

namespace Anchor

/-- Whether the condition holds between the characters `prev` and `next`, absent at the ends. -/
def holds (a : Anchor) (prev next : Option Char) : Bool :=
  match a with
  | textStart => prev.isNone
  | textEnd => next.isNone
  | lineStart => prev.isNone || prev == some '\n'
  | lineEnd => next.isNone || next == some '\n'
  | anyLineStart =>
      prev.isNone || prev == some '\n' || (prev == some '\r' && next != some '\n')
  | anyLineEnd =>
      next.isNone || next == some '\r' || (next == some '\n' && prev != some '\r')
  | word edge ascii =>
      let set := if ascii then CharSet.asciiWord else CharSet.word
      edge.holds (prev.any set.mem) (next.any set.mem)

end Anchor

inductive Pattern where
  | empty
  | one (s : CharSet)
  | place (a : Anchor)
  | seq (p q : Pattern)
  | alt (p q : Pattern)
  /-- From `least` up to `most` times, without end if there is no `most`. A lazy repetition is
  better the fewer times it repeats, any other the more. -/
  | times (p : Pattern) (least : Nat) (most : Option Nat) (lazy : Bool)
  | group (p : Pattern)
  deriving DecidableEq

namespace Pattern

/-- One character, in any case variant. -/
def letter (c : Char) : Pattern := one (.fold (.single c))

/-- Any number of characters of the set. -/
def run (s : CharSet) : Pattern := times (one s) 0 none false

def sequence : List Pattern → Pattern
  | [] => empty
  | [p] => p
  | p :: ps => seq p (sequence ps)

end Pattern

end Landscape
