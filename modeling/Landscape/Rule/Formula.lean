import Landscape.Rule.Verdict

namespace Landscape

/-!
# Formulas of rules

A formula joins leaves by "all of" and "any of". Its verdict on a thing comes from the
verdicts of its leaves. Where the verdict is neutral the leaves' policies decide, and a
thing stays only if each of them would keep it.
-/

inductive Formula (α : Type) where
  | leaf (a : α)
  | all (fs : List (Formula α))
  | any (fs : List (Formula α))

namespace Formula

variable {α : Type}

/-- The empty formula has no opinion on anything. -/
instance : Inhabited (Formula α) := ⟨any []⟩

mutual

def leaves : Formula α → List α
  | leaf a => [a]
  | all fs => leavesAll fs
  | any fs => leavesAll fs

def leavesAll : List (Formula α) → List α
  | [] => []
  | f :: fs => leaves f ++ leavesAll fs

end

def leafCount (f : Formula α) : Nat := f.leaves.length

mutual

def verdict (v : α → Verdict) : Formula α → Verdict
  | leaf a => v a
  | all fs => Verdict.common (verdicts v fs)
  | any fs => Verdict.mergeAll (verdicts v fs)

def verdicts (v : α → Verdict) : List (Formula α) → List Verdict
  | [] => []
  | f :: fs => verdict v f :: verdicts v fs

end

/-- Whether a thing stays that the formula is neutral on. -/
def keepsByDefault (policy : α → Policy) (f : Formula α) : Bool :=
  f.leaves.all fun a => (policy a).keepsByDefault

/-- Whether a thing stays that has the given verdict. -/
def settle (policy : α → Policy) (f : Formula α) : Verdict → Bool
  | .included => true
  | .excluded => false
  | .neutral => f.keepsByDefault policy

/-- Whether a thing stays, given the verdict of each leaf on it. -/
def keeps (policy : α → Policy) (v : α → Verdict) (f : Formula α) : Bool :=
  f.settle policy (f.verdict v)

mutual

def map {β : Type} (g : α → β) : Formula α → Formula β
  | leaf a => leaf (g a)
  | all fs => all (mapAll g fs)
  | any fs => any (mapAll g fs)

def mapAll {β : Type} (g : α → β) : List (Formula α) → List (Formula β)
  | [] => []
  | f :: fs => map g f :: mapAll g fs

end

@[simp] theorem leaves_leaf (a : α) : (leaf a).leaves = [a] := rfl

@[simp] theorem leaves_all (fs : List (Formula α)) : (all fs).leaves = leavesAll fs := rfl

@[simp] theorem leaves_any (fs : List (Formula α)) : (any fs).leaves = leavesAll fs := rfl

theorem leavesAll_eq_flatMap (fs : List (Formula α)) : leavesAll fs = fs.flatMap leaves := by
  induction fs with
  | nil => rfl
  | cons f fs ih => simp [leavesAll, ih]

theorem verdicts_eq_map (v : α → Verdict) (fs : List (Formula α)) :
    verdicts v fs = fs.map (verdict v) := by
  induction fs with
  | nil => rfl
  | cons f fs ih => simp [verdicts, ih]

theorem mapAll_eq_map {β : Type} (g : α → β) (fs : List (Formula α)) :
    mapAll g fs = fs.map (map g) := by
  induction fs with
  | nil => rfl
  | cons f fs ih => simp [mapAll, ih]

@[simp] theorem verdict_leaf (v : α → Verdict) (a : α) : (leaf a).verdict v = v a := rfl

theorem verdict_all (v : α → Verdict) (fs : List (Formula α)) :
    (all fs).verdict v = Verdict.common (fs.map (verdict v)) := by
  rw [← verdicts_eq_map]
  rfl

theorem verdict_any (v : α → Verdict) (fs : List (Formula α)) :
    (any fs).verdict v = Verdict.mergeAll (fs.map (verdict v)) := by
  rw [← verdicts_eq_map]
  rfl

end Formula

end Landscape
