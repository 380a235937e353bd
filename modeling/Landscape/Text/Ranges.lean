import Landscape.Text.Numeral

namespace Landscape.Text

/-!
# Ranges of code points

Sets of characters as lists of ranges, and the text form in which tables write them:
hexadecimal ends joined by a hyphen, ranges apart by blanks, one number for a single point.
-/

/-- Ranges of code points, both ends included. -/
abbrev Ranges := List (Nat × Nat)

namespace Ranges

def contains (rs : Ranges) (n : Nat) : Bool := rs.any fun r => r.1 ≤ n && n ≤ r.2

@[simp] theorem contains_nil (n : Nat) : contains [] n = false := rfl

theorem contains_cons (r : Nat × Nat) (rs : Ranges) (n : Nat) :
    contains (r :: rs) n = ((decide (r.1 ≤ n) && decide (n ≤ r.2)) || contains rs n) := rfl

@[simp] theorem contains_append (rs ss : Ranges) (n : Nat) :
    contains (rs ++ ss) n = (contains rs n || contains ss n) := List.any_append

/-! ## Normal form

Ranges in increasing order, none of which overlaps or touches the next.
-/

/-- `r` and the ranges `rs` after it, ordered by their lower ends, with those joined that
overlap or touch. -/
def coalesce (r : Nat × Nat) : Ranges → Ranges
  | [] => [r]
  | s :: rs =>
      if s.1 ≤ r.2 + 1 then coalesce (r.1, max r.2 s.2) rs else r :: coalesce s rs

def normal (rs : Ranges) : Ranges :=
  match rs.mergeSort fun r s => r.1 ≤ s.1 with
  | [] => []
  | r :: rs => coalesce r rs

def largest : Nat := 0x10FFFF

/-- The code points from `n` on that the normal form `rs` leaves out. -/
def gaps (n : Nat) : Ranges → Ranges
  | [] => if n ≤ largest then [(n, largest)] else []
  | r :: rs => if n < r.1 then (n, r.1 - 1) :: gaps (r.2 + 1) rs else gaps (r.2 + 1) rs

def complement (rs : Ranges) : Ranges := gaps 0 rs

def union (rs ss : Ranges) : Ranges := normal (rs ++ ss)

def inter (rs ss : Ranges) : Ranges := complement (union (complement rs) (complement ss))

def diff (rs ss : Ranges) : Ranges := inter rs (complement ss)

theorem contains_coalesce (r : Nat × Nat) (rs : Ranges) (n : Nat)
    (h : (r :: rs).Pairwise fun r s => r.1 ≤ s.1) :
    contains (coalesce r rs) n = contains (r :: rs) n := by
  induction rs generalizing r with
  | nil => rfl
  | cons s rs ih =>
    obtain ⟨hr, hs⟩ := List.pairwise_cons.mp h
    have hrs : r.1 ≤ s.1 := hr s List.mem_cons_self
    unfold coalesce
    split
    · rename_i hle
      rw [ih (r.1, max r.2 s.2) (List.pairwise_cons.mpr
        ⟨fun t ht => hr t (List.mem_cons_of_mem _ ht), (List.pairwise_cons.mp hs).2⟩)]
      simp only [contains_cons, ← Bool.or_assoc]
      congr 1
      rw [Bool.eq_iff_iff]
      simp only [Bool.and_eq_true, Bool.or_eq_true, decide_eq_true_eq]
      omega
    · rw [contains_cons, ih _ hs, contains_cons r]

theorem contains_normal (rs : Ranges) (n : Nat) : contains (normal rs) n = contains rs n := by
  have hperm : (rs.mergeSort fun r s => r.1 ≤ s.1).Perm rs := List.mergeSort_perm _ _
  have hsort : (rs.mergeSort fun r s => r.1 ≤ s.1).Pairwise fun r s => r.1 ≤ s.1 := by
    have h := @List.pairwise_mergeSort (Nat × Nat) (fun r s => r.1 ≤ s.1)
      (fun a b c hab hbc => by simp only [decide_eq_true_eq] at *; omega)
      (fun a b => by simp only [Bool.or_eq_true, decide_eq_true_eq]; omega) rs
    simpa only [decide_eq_true_eq] using h
  rw [show contains rs n = contains (rs.mergeSort fun r s => r.1 ≤ s.1) n from
    (hperm.any_eq).symm]
  unfold normal
  generalize rs.mergeSort (fun r s => r.1 ≤ s.1) = ss at hsort
  match ss with
  | [] => rfl
  | r :: ss => exact contains_coalesce r ss n hsort

/-! ## Tables -/

/-- Read on with the number `n` begun, after the lower end `low?` if a hyphen has passed. -/
def read (low? : Option Nat) (n : Nat) : List Char → Ranges
  | [] => [(low?.getD n, n)]
  | c :: cs =>
      match hexDigit? c with
      | some d => read low? (16 * n + d) cs
      | none => if c = '-' then read (some n) 0 cs else (low?.getD n, n) :: read none 0 cs

def ofText (s : String) : Ranges := read none 0 (s.toList.dropWhile fun c => c = '\n')

end Ranges

end Landscape.Text
