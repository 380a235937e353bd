import Landscape.Pattern.Basic
import Landscape.Pattern.Extent

namespace Landscape

/-!
# The footprint of a pattern

A pattern is compiled into two programs over the bytes of a text, one that reads forward and
one that reads backward. Both are bounded in size. A repetition is compiled as often as its
counts say, so a short text may write a pattern that is too large.
-/

open Text

/-- The sizes of the two programs, in bytes. -/
structure Footprint where
  forward : Nat
  backward : Nat
  deriving DecidableEq, Repr

namespace Footprint

def limit : Nat := 10485760

def fits (f : Footprint) : Bool := f.forward ≤ limit && f.backward ≤ limit

/-- `n` bytes in either program. -/
def both (n : Nat) : Footprint := ⟨n, n⟩

instance : Add Footprint := ⟨fun f g => ⟨f.forward + g.forward, f.backward + g.backward⟩⟩

def copies (n : Nat) (f : Footprint) : Footprint := ⟨n * f.forward, n * f.backward⟩

def state : Nat := 32

/-- The size of one labelled step from a state. -/
def transition : Nat := 8

/-- The size of the name of a state where a program branches. -/
def branch : Nat := 4

end Footprint

/-! ## Characters as bytes

The bytes of the characters of a range make up a few products of ranges of bytes.
-/

namespace Utf8

abbrev Sequence := List (Nat × Nat)

/-- Cut the range from `a` to `b` so that within each part the last `k` digits to base 64
run free of the others. -/
def cut (k a b : Nat) : Ranges :=
  match k with
  | 0 => [(a, b)]
  | k + 1 =>
      let m := Nat.pow 64 (k + 1)
      if a / m = b / m then cut k a b
      else
        let lower := if a % m = 0 then a else (a / m + 1) * m
        let upper := if b % m = m - 1 then b + 1 else b / m * m
        (if a < lower then cut k a (lower - 1) else []) ++
          (if lower < upper then [(lower, upper - 1)] else []) ++
          (if upper ≤ b then cut k upper b else [])

/-- How many bytes follow the first one, and for which characters. -/
def lengths : List (Nat × Nat × Nat) :=
  [(0, 0, 0x7F), (1, 0x80, 0x7FF), (2, 0x800, 0xD7FF), (2, 0xE000, 0xFFFF),
   (3, 0x10000, 0x10FFFF)]

def bytes (n : Nat) : List Nat := (String.utf8EncodeChar (Char.ofNat n)).map (·.toNat)

/-- The sequences for the characters of a range, in order. -/
def sequencesOfRange (r : Nat × Nat) : List Sequence :=
  lengths.flatMap fun (k, lo, hi) =>
    let a := max r.1 lo
    let b := min r.2 hi
    if a ≤ b then (cut k a b).map fun s => (bytes s.1).zip (bytes s.2) else []

def sequences (rs : Ranges) : List Sequence := rs.flatMap sequencesOfRange

/-- The first ranges of the sequences, each with the sequences that it begins. -/
def starts : List Sequence → List ((Nat × Nat) × List Sequence)
  | [] => []
  | [] :: ss => starts ss
  | (r :: s) :: ss =>
      match starts ss with
      | [] => [(r, [s])]
      | (q, tails) :: rest =>
          if q = r then (r, s :: tails) :: rest else (r, [s]) :: (q, tails) :: rest

/-- Every list of sequences that is left after some bytes, `n` at most. -/
def residues (n : Nat) (ss : List Sequence) : List (List Sequence) :=
  match n with
  | 0 => []
  | n + 1 =>
      if ss.all List.isEmpty then []
      else ss :: (starts ss).flatMap fun e => residues n e.2

/-- How many beginnings of at most `n` bytes the sequences have. -/
def beginnings (n : Nat) (ss : List Sequence) : Nat :=
  match n with
  | 0 => 0
  | n + 1 => (starts ss).foldr (fun e count => 1 + beginnings n e.2 + count) 0

end Utf8

namespace Footprint

/-- A set of characters. Equal ends are shared by the forward program, equal beginnings by
the backward one. -/
def ofRanges (rs : Ranges) : Footprint :=
  match rs with
  | [(a, b)] =>
      if a = b then both (state * (Utf8.bytes a).length) else ofMany [(a, b)]
  | rs => ofMany rs
where
  ofMany (rs : Ranges) : Footprint :=
    if rs.all fun r => r.2 < 128 then both (2 * state + transition * rs.length)
    else
      let ss := Utf8.sequences rs
      { forward := (Utf8.residues 4 ss).eraseDups.foldr
          (fun ss size => state + transition * (Utf8.starts ss).length + size) state
        backward := 2 * state + branch * ss.length + state * Utf8.beginnings 4 ss }

end Footprint

namespace Pattern

/-! ## Simplification

Before a pattern is compiled, sets are written out, choices between sets become sets and
beginnings that all branches of a choice share are taken out of it.
-/

/-- The patterns that `p` is a sequence of. -/
def parts : Pattern → List Pattern
  | empty => []
  | seq p q => parts p ++ parts q
  | p => [p]

/-- The patterns that `p` is a choice between. -/
def branches : Pattern → List Pattern
  | alt p q => branches p ++ branches q
  | p => [p]

/-- The character that `p` takes, if there is only one. -/
def onlyChar? : Pattern → Option Nat
  | one (.ranges [(a, b)]) => if a = b then some a else none
  | _ => none

def isLiteral (p : Pattern) : Bool := p.onlyChar?.isSome

/-- The ranges of a set that is no single character. -/
def ranges? (p : Pattern) : Option Ranges :=
  match p with
  | one (.ranges rs) => if p.isLiteral then none else some rs
  | _ => none

/-- The parts of a sequence, where characters that follow each other are one part. -/
def blocks : List Pattern → List (List Pattern)
  | [] => []
  | p :: ps =>
      match blocks ps with
      | (q :: qs) :: rest =>
          if p.isLiteral && q.isLiteral then (p :: q :: qs) :: rest else [p] :: (q :: qs) :: rest
      | rest => [p] :: rest

def commonStart {α : Type} [DecidableEq α] : List α → List α → List α
  | a :: as, b :: bs => if a = b then a :: commonStart as bs else []
  | _, _ => []

def commonStarts {α : Type} [DecidableEq α] : List (List α) → List α
  | [] => []
  | as :: ass => ass.foldl commonStart as

def choice : List Pattern → Pattern
  | [] => empty
  | [p] => p
  | p :: ps => alt p (choice ps)

/-- The choice between the patterns, which is a set if all of them are characters or all of
them are larger sets. -/
def choiceOrSet (ps : List Pattern) : Pattern :=
  match ps.mapM onlyChar? with
  | some ns => one (.ranges (Ranges.normal (ns.map fun n => (n, n))))
  | none =>
      match ps.mapM ranges? with
      | some rss => one (.ranges (Ranges.normal rss.flatten))
      | none => choice ps

/-- The choice between the patterns without the beginning that all of them share. -/
def factored (ps : List Pattern) : Pattern :=
  match ps with
  | [p] => p
  | ps =>
      match choiceOrSet ps with
      | alt p q =>
          let bss := ps.map fun p => blocks p.parts
          let start := commonStarts bss
          if start.isEmpty || bss.any fun bs => bs.length < 2 then alt p q
          else
            let rests := bss.map fun bs => sequence (bs.drop start.length).flatten
            sequence (start.flatten ++ parts (choiceOrSet (rests.flatMap branches)))
      | p => p

def takesSome : Pattern → Bool
  | empty => false
  | one s => !s.extent.isEmpty
  | place _ => false
  | seq p q => takesSome p || takesSome q
  | alt p q => takesSome p && takesSome q
  | times p least _ _ => least != 0 && takesSome p
  | group p => takesSome p

def takesNone : Pattern → Bool
  | empty => true
  | one _ => false
  | place _ => true
  | seq p q => takesNone p && takesNone q
  | alt p q => takesNone p && takesNone q
  | times p _ most _ => most == some 0 || takesNone p
  | group p => takesNone p

/-- A repetition; one of a pattern that takes nothing counts at most once. -/
def repetition (p : Pattern) (least : Nat) (most : Option Nat) (lazy : Bool) : Pattern :=
  let (least, most) :=
    if p.takesNone then (min least 1, some (min (most.getD 1) 1)) else (least, most)
  if most = some 0 then empty
  else if least = 1 && most = some 1 then p
  else times p least most lazy

/-- The branches of the simplified pattern. -/
def simpleBranches : Pattern → List Pattern
  | empty => [empty]
  | one s => [one (.ranges s.extent)]
  | place a => [place a]
  | seq p q => [sequence (parts (factored p.simpleBranches) ++ parts (factored q.simpleBranches))]
  | alt p q => p.simpleBranches ++ q.simpleBranches
  | times p least most lazy => branches (repetition (factored p.simpleBranches) least most lazy)
  | group p => [group (factored p.simpleBranches)]

def simplified (p : Pattern) : Pattern := factored p.simpleBranches

/-! ## Sizes -/

open Footprint

/-- A choice between words, given as what is left of them, each at most `n` bytes. A word that
ends closes the group of words before it. -/
def trieSize (n : Nat) (words : List (List Nat)) : Nat :=
  match n with
  | 0 => 0
  | n + 1 =>
      if words.all List.isEmpty then 0
      else
        let groups := words.splitOnP List.isEmpty
        let sizes := groups.map fun ws =>
          let firsts := (ws.filterMap List.head?).eraseDups
          if firsts.isEmpty then 0
          else branch +
            (if firsts.length = 1 then state
             else state + transition * firsts.length) +
            firsts.foldr (fun b size =>
              trieSize n ((ws.filter fun w => w.head? = some b).map List.tail) + size) 0
        sizes.foldr Nat.add (state + branch * (groups.length - 1))

def word? (p : Pattern) : Option (List Nat) :=
  if p.parts.isEmpty then none
  else (p.parts.mapM onlyChar?).map fun ns => ns.flatMap Utf8.bytes

/-- The size of a choice, given its branches and their sizes together. -/
def choiceFootprint (ps : List Pattern) (inner : Footprint) : Footprint :=
  match ps.mapM word? with
  | some ws =>
      let n := (ws.map List.length).foldl max 0 + 1
      ⟨state + trieSize n ws, state + trieSize n (ws.map List.reverse)⟩
  | none => both (2 * state + branch * ps.length) + inner

/-- The step that a repetition adds: a state with two branches. -/
def loopSize : Nat := state + 2 * branch

/-- The size of a repetition, given that of what it repeats. -/
def timesFootprint (p : Pattern) (least : Nat) (most : Option Nat) (f : Footprint) : Footprint :=
  match most with
  | none =>
      if least = 0 then
        if p.takesSome then both loopSize + f else both (2 * loopSize + state) + f
      else copies least f + both loopSize
  | some most =>
      if least = most then copies least f
      else if most = 1 then both (loopSize + state) + f
      else
        (if least = 0 then both state else copies least f) + both state +
          copies (most - least) (both loopSize + f)

/-- The size of a simplified pattern; of a choice within a choice, that of its branches. -/
def size (inChoice : Bool) : Pattern → Footprint
  | empty => both state
  | one s => .ofRanges s.extent
  | place _ => both state
  | seq p q => size false p + size false q
  | alt p q =>
      let inner := size true p + size true q
      if inChoice then inner else choiceFootprint (branches (alt p q)) inner
  | times p least most _ => timesFootprint p least most (size false p)
  | group p => ⟨2 * state, 0⟩ + size false p

/-- Whether the pattern cannot match before the start of the text is reached. -/
def fixedAtStart : Pattern → Bool
  | place .textStart => true
  | seq p q => fixedAtStart p || (takesNone p && fixedAtStart q)
  | alt p q => fixedAtStart p && fixedAtStart q
  | times p least _ _ => least != 0 && fixedAtStart p
  | group p => fixedAtStart p
  | _ => false

/-- Whether the pattern cannot match but at the end of the text. -/
def fixedAtEnd : Pattern → Bool
  | place .textEnd => true
  | seq p q => fixedAtEnd q || (takesNone q && fixedAtEnd p)
  | alt p q => fixedAtEnd p && fixedAtEnd q
  | times p least _ _ => least != 0 && fixedAtEnd p
  | group p => fixedAtEnd p
  | _ => false

/-- The size of the loop before a pattern that may begin anywhere. -/
def leadSize (fixed : Bool) : Nat :=
  if fixed then state else loopSize + 2 * state + transition

/-- The sizes of the programs for the pattern. Each has a lead, a final state and, if it reads
forward, two states for the place of the whole. -/
def footprint (p : Pattern) : Footprint :=
  let p := p.simplified
  p.size false + ⟨leadSize p.fixedAtStart + 3 * state, leadSize p.fixedAtEnd + state⟩

end Pattern

end Landscape
