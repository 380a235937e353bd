import Landscape.Decimal.Shortest
import Landscape.Json.Failure

namespace Landscape.Json

/-!
# Numbers as written

A number keeps its digits until it is known what is to be read from it. One without fraction
and exponent that fits 64 bits is whole; every other number is a double.
-/

open Decimal

structure Literal where
  negative : Bool
  whole : List Nat
  fraction : List Nat
  exponent : Int
  /-- The literal has neither a fraction nor an exponent. -/
  plain : Bool
  deriving DecidableEq, Repr

inductive Number where
  | natural (n : Nat)
  /-- A number below zero. -/
  | below (n : Nat)
  | double (negative : Bool) (x : Double)
  deriving DecidableEq, Repr

namespace Number

def found : Number → Found
  | natural n => .integer n
  | below n => .integer (-(n : Int))
  | double negative x => .float (Layout.standard.text negative x)

end Number

namespace Literal

/-- Numbers of 64 bits lie below. -/
def wordLimit : Nat := UInt64.size

/-- Read digits while the value fits a word; the second part counts the digits left out. -/
def takeDigits (n : Nat) : List Nat → Nat × Nat
  | [] => (n, 0)
  | d :: ds => if 10 * n + d < wordLimit then takeDigits (10 * n + d) ds else (n, ds.length + 1)

/-- The double of a literal: a whole number of 64 bits times a power of ten. -/
def double? (l : Literal) : Option Double :=
  let (n, left) := takeDigits 0 l.whole
  let (n, unused) := takeDigits n l.fraction
  Double.scaled? n (l.exponent + left - (l.fraction.length - unused : Nat))

def number? (l : Literal) : Option Number :=
  let (n, left) := takeDigits 0 l.whole
  if l.plain && left = 0 && (!l.negative || (n ≠ 0 && n ≤ wordLimit / 2)) then
    some (if l.negative then .below n else .natural n)
  else l.double?.map (.double l.negative)

end Literal

end Landscape.Json
