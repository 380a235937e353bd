import Landscape.Pattern.Basic

namespace Landscape.Pattern

/-!
# Searching a text

A search reads the text once, from the left. It keeps the residuals: what is left to match
of every attempt begun so far. An attempt succeeds at a place where its residual admits the
empty stretch.
-/

/-- Whether the pattern admits the empty stretch between `prev` and `next`. -/
def nullable (prev next : Option Char) : Pattern → Bool
  | empty => true
  | one _ => false
  | place a => a.holds prev next
  | seq p q => nullable prev next p && nullable prev next q
  | alt p q => nullable prev next p || nullable prev next q
  | times p least _ _ => least == 0 || nullable prev next p
  | group p => nullable prev next p

/-- `p` and then `q`, where nothing is written for an empty `p`. -/
def followedBy : Pattern → Pattern → Pattern
  | empty, q => q
  | p, q => seq p q

/-- What may be left to match once `c`, which follows `prev`, is read. -/
def residuals (prev : Option Char) (c : Char) : Pattern → List Pattern
  | empty => []
  | one s => if s.mem c then [empty] else []
  | place _ => []
  | seq p q =>
      (residuals prev c p).map (followedBy · q) ++
        (if nullable prev (some c) p then residuals prev c q else [])
  | alt p q => residuals prev c p ++ residuals prev c q
  | times p least most lazy =>
      if most = some 0 then []
      else
        let least' := if nullable prev (some c) p then 0 else least - 1
        (residuals prev c p).map (followedBy · (times p least' (most.map (· - 1)) lazy))
  | group p => residuals prev c p

/-- Search on with the residuals `ps`; a new attempt at `p` begins at every place. -/
def scan (p : Pattern) (ps : List Pattern) (prev : Option Char) : List Char → Bool
  | [] => ps.any (nullable prev none)
  | c :: cs =>
      ps.any (nullable prev (some c)) ||
        scan p (p :: ps.flatMap (residuals prev c)).eraseDups (some c) cs

def occursIn (p : Pattern) (s : List Char) : Bool := scan p [p] none s

@[simp] theorem scan_nil (p : Pattern) (ps : List Pattern) (prev : Option Char) :
    scan p ps prev [] = ps.any (nullable prev none) := rfl

theorem scan_cons (p : Pattern) (ps : List Pattern) (prev : Option Char) (c : Char)
    (cs : List Char) :
    scan p ps prev (c :: cs) = (ps.any (nullable prev (some c)) ||
      scan p (p :: ps.flatMap (residuals prev c)).eraseDups (some c) cs) := rfl

end Landscape.Pattern
