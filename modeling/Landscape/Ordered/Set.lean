import Landscape.Ordered.Map

namespace Landscape

/-!
# Sets in key order

A set is a map to the one value of `Unit`; its elements are listed in ascending order.
-/

/-- A finite set, listed in ascending order. -/
structure OrderedSet (κ : Type) [Key κ] where
  marks : Map κ Unit

namespace OrderedSet

variable {κ : Type} [Key κ]

instance : EmptyCollection (OrderedSet κ) := ⟨⟨∅⟩⟩

instance : Inhabited (OrderedSet κ) := ⟨∅⟩

instance [DecidableEq κ] : DecidableEq (OrderedSet κ) := fun s t =>
  if h : s.marks = t.marks then isTrue (by cases s; cases t; cases h; rfl)
  else isFalse fun e => h (e ▸ rfl)

def toList (s : OrderedSet κ) : List κ := s.marks.keys

def isEmpty (s : OrderedSet κ) : Bool := s.marks.isEmpty

def contains [DecidableEq κ] (s : OrderedSet κ) (k : κ) : Bool := s.marks.contains k

def insert (s : OrderedSet κ) (k : κ) : OrderedSet κ := ⟨s.marks.insert k ()⟩

def insertAll (s : OrderedSet κ) (ks : List κ) : OrderedSet κ := ks.foldl insert s

def ofList (ks : List κ) : OrderedSet κ := insertAll ∅ ks

@[simp] theorem contains_empty [DecidableEq κ] (k : κ) :
    (∅ : OrderedSet κ).contains k = false := rfl

@[simp] theorem contains_insert [DecidableEq κ] (s : OrderedSet κ) (k k' : κ) :
    (s.insert k).contains k' = (decide (k' = k) || s.contains k') := by
  unfold contains insert Map.contains
  rw [Map.get?_insert]
  by_cases h : k' = k <;> simp [h]

@[simp] theorem insertAll_nil (s : OrderedSet κ) : s.insertAll [] = s := rfl

theorem insertAll_cons (s : OrderedSet κ) (k : κ) (ks : List κ) :
    s.insertAll (k :: ks) = (s.insert k).insertAll ks := rfl

theorem contains_insertAll [DecidableEq κ] (s : OrderedSet κ) (ks : List κ) (k : κ) :
    (s.insertAll ks).contains k = true ↔ k ∈ ks ∨ s.contains k = true := by
  induction ks generalizing s with
  | nil => simp
  | cons a ks ih =>
      rw [insertAll_cons, ih]
      simp only [contains_insert, Bool.or_eq_true, decide_eq_true_eq, List.mem_cons]
      grind

theorem contains_ofList [DecidableEq κ] {ks : List κ} {k : κ} :
    (ofList ks).contains k = true ↔ k ∈ ks := by
  simp [ofList, contains_insertAll]

end OrderedSet

end Landscape
