namespace Landscape.Decimal

/-!
# Doubles

A double that is not negative is a number `m * 2 ^ q` with `m` below `2 ^ 53`. Quotients are
rounded to the nearest one, halves to the even neighbour.
-/

structure Double where
  mantissa : Nat
  exponent : Int
  deriving DecidableEq, Repr

def leastExponent : Int := -1074

/-- The exponent of the largest doubles. -/
def mostExponent : Int := 971

/-- The quotient, rounded; a half goes to the even neighbour. -/
def roundDiv (num den : Nat) : Nat :=
  let d := num / den
  let r := num % den
  if 2 * r < den then d else if den < 2 * r then d + 1 else d + d % 2

/-- `num / den * 2 ^ -q` as a quotient. -/
def shift (num den : Nat) (q : Int) : Nat × Nat :=
  if 0 ≤ q then (num, den <<< q.toNat) else (num <<< (-q).toNat, den)

namespace Double

def zero : Double := ⟨0, leastExponent⟩

/-- The least mantissa of 53 bits. -/
def leastMantissa : Nat := Nat.pow 2 52

def quotient (d : Double) : Nat × Nat := shift d.mantissa 1 (-d.exponent)

/-- The double next to `num / den`, unless that is too large. -/
def nearest? (num den : Nat) : Option Double :=
  if num = 0 then some zero
  else
    let q : Int := max ((num.log2 : Int) - den.log2 - 53) leastExponent
    let (a, b) := shift num den q
    let q := if a < 2 * leastMantissa * b then q else q + 1
    let (a, b) := shift num den q
    let m := roundDiv a b
    let d : Double := if m = 2 * leastMantissa then ⟨leastMantissa, q + 1⟩ else ⟨m, q⟩
    if d.exponent ≤ mostExponent then some d else none

def timesTenTo? (d : Double) (k : Nat) : Option Double := do
  let p ← nearest? (Nat.pow 10 k) 1
  nearest? (d.quotient.1 * p.quotient.1) (d.quotient.2 * p.quotient.2)

def overTenTo (d : Double) (k : Nat) : Double :=
  ((do
    let p ← nearest? (Nat.pow 10 k) 1
    nearest? (d.quotient.1 * p.quotient.2) (d.quotient.2 * p.quotient.1)) : Option Double).getD zero

/-- The largest power of ten that is a double. -/
def mostTen : Nat := 308

/-- A whole number of 64 bits times a power of ten, in one rounded step each; what lies below
the least power of ten is divided in several. -/
def scaled? (n : Nat) (k : Int) : Option Double := do
  let d ← nearest? n 1
  if 0 ≤ k then
    if k.toNat ≤ mostTen then timesTenTo? d k.toNat
    else if n = 0 then some zero
    else none
  else
    let k := (-k).toNat
    if k ≤ mostTen then some (d.overTenTo k)
    else if k ≤ 2 * mostTen then some ((d.overTenTo mostTen).overTenTo (k - mostTen))
    else some zero

end Double

end Landscape.Decimal
