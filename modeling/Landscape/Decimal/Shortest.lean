import Landscape.Decimal.Double

namespace Landscape.Decimal

/-!
# Shortest digits

The text of a double has the fewest digits that read back as the same double, and of those
the ones nearest to it.
-/

/-- A decimal `digits * 10 ^ exponent`. -/
structure Scaled where
  digits : Nat
  exponent : Int
  deriving DecidableEq, Repr

namespace Double

/-- Whether `d * 10 ^ k` is rounded to the double. The ends of the interval count for an even
mantissa; below a power of two the interval is half as wide. -/
def readsBack (x : Double) (d : Nat) (k : Int) : Bool :=
  let m := x.mantissa
  let narrow := m = leastMantissa ∧ leastExponent < x.exponent
  let (hi, hiDen) := shift (2 * m + 1) 2 (-x.exponent)
  let (lo, loDen) :=
    if narrow then shift (4 * m - 1) 4 (-x.exponent) else shift (2 * m - 1) 2 (-x.exponent)
  let num := if 0 ≤ k then d * Nat.pow 10 k.toNat else d
  let den := if 0 ≤ k then 1 else Nat.pow 10 (-k).toNat
  if m % 2 = 0 then lo * den ≤ num * loDen ∧ num * hiDen ≤ hi * den
  else lo * den < num * loDen ∧ num * hiDen < hi * den

/-- Multiply the quotient by ten until it reaches one; count the steps. -/
def stepsToOne (num den : Nat) : Nat → Nat
  | 0 => 0
  | fuel + 1 => if den ≤ num then 0 else stepsToOne (10 * num) den fuel + 1

def firstExponent (x : Double) : Int :=
  let (num, den) := x.quotient
  if den ≤ num then ((Nat.repr (num / den)).length : Int) - 1 else -(stepsToOne num den 400 : Nat)

/-- The nearest decimal of `n` digits, if it reads back. -/
def atDigits? (x : Double) (n : Nat) : Option Scaled :=
  let k := x.firstExponent + 1 - n
  let (num, den) := x.quotient
  let (num, den) :=
    if 0 ≤ k then (num, den * Nat.pow 10 k.toNat) else (num * Nat.pow 10 (-k).toNat, den)
  let near := roundDiv num den
  let far := if near = num / den then near + 1 else num / den
  if x.readsBack near k then some ⟨near, k⟩
  else if x.readsBack far k then some ⟨far, k⟩
  else none

def shortest (x : Double) : Scaled :=
  ((List.range 17).findSome? fun i => x.atDigits? (i + 1)).getD ⟨x.mantissa, 0⟩

end Double

/-- How the digits of a decimal are laid out: positions while the first digit's exponent lies
between the two bounds, beyond them an exponent with a sign and at least two digits. -/
structure Layout where
  least : Int
  most : Int

def Layout.standard : Layout := ⟨-5, 15⟩

namespace Layout

def zeros (n : Nat) : List Char := List.replicate n '0'

/-- A sign and at least two digits. -/
def exponentText (e : Int) : List Char :=
  let ds := (Nat.repr e.natAbs).toList
  (if 0 ≤ e then '+' else '-') :: zeros (2 - ds.length) ++ ds

/-- Digits with the first at the exponent `e`. -/
def digits (l : Layout) (ds : List Char) (e : Int) : List Char :=
  if l.least ≤ e ∧ e ≤ l.most then
    if 0 ≤ e then
      let whole := e.toNat + 1
      let after := if ds.length ≤ whole then ['0'] else ds.drop whole
      ds.take whole ++ zeros (whole - ds.length) ++ ['.'] ++ after
    else ['0', '.'] ++ zeros ((-e).toNat - 1) ++ ds
  else
    let tail := if ds.length = 1 then [] else '.' :: ds.tail
    ds.take 1 ++ tail ++ 'e' :: exponentText e

def text (l : Layout) (negative : Bool) (x : Double) : String :=
  let body :=
    if x.mantissa = 0 then ['0', '.', '0']
    else
      let s := x.shortest
      let ds := (Nat.repr s.digits).toList
      let kept := (ds.reverse.dropWhile (· = '0')).reverse
      l.digits kept (s.exponent + ds.length - 1)
  String.ofList (if negative then '-' :: body else body)

end Layout

end Landscape.Decimal
