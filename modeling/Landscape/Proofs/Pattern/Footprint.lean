import Landscape.Pattern.Footprint
import Landscape.Proofs.Pattern.CharSet

namespace Landscape

/-!
# Sizes of sequences

A sequence is simplified part by part, and it is as large as its parts together.
-/

open Text

namespace Footprint

@[simp] theorem mk_add_mk (a b c d : Nat) : (⟨a, b⟩ : Footprint) + ⟨c, d⟩ = ⟨a + c, b + d⟩ := rfl

end Footprint

namespace Pattern

variable {ps : List Pattern}

theorem parts_sequence (h : ∀ p ∈ ps, p.parts = [p]) : (sequence ps).parts = ps := by
  induction ps with
  | nil => rfl
  | cons p ps ih =>
      obtain ⟨hp, hps⟩ := List.forall_mem_cons.mp h
      cases ps with
      | nil => exact hp
      | cons q ps =>
          have hcons : (sequence (p :: q :: ps)).parts =
              p.parts ++ (sequence (q :: ps)).parts := rfl
          rw [hcons, hp, ih hps, List.singleton_append]

theorem parts_simplified_sequence (h : ∀ p ∈ ps, p.simplified.parts = [p.simplified]) :
    (sequence ps).simplified.parts = ps.map simplified := by
  induction ps with
  | nil => rfl
  | cons p ps ih =>
      obtain ⟨hp, hps⟩ := List.forall_mem_cons.mp h
      cases ps with
      | nil => exact hp
      | cons q ps =>
          have hseq : (sequence (p :: q :: ps)).simplified =
              sequence (p.simplified.parts ++ (sequence (q :: ps)).simplified.parts) := rfl
          rw [hseq, hp, ih hps, List.singleton_append, ← List.map_cons]
          exact parts_sequence (List.forall_mem_map.mpr h)

theorem size_sequence (h : ps ≠ []) : (sequence ps).size false =
    ⟨(ps.map fun p => (p.size false).forward).sum,
      (ps.map fun p => (p.size false).backward).sum⟩ := by
  induction ps with
  | nil => exact absurd rfl h
  | cons p ps ih =>
      cases ps with
      | nil => rfl
      | cons q ps =>
          have hseq : (sequence (p :: q :: ps)).size false =
              p.size false + (sequence (q :: ps)).size false := rfl
          rw [hseq, ih (List.cons_ne_nil q ps)]
          rfl

theorem fixedAtEnd_sequence (ps : List Pattern) :
    (sequence (ps ++ [place .textEnd])).fixedAtEnd = true := by
  induction ps with
  | nil => rfl
  | cons p ps ih =>
      have hseq : sequence (p :: ps ++ [place .textEnd]) =
          seq p (sequence (ps ++ [place .textEnd])) := by cases ps <;> rfl
      rw [hseq, fixedAtEnd, ih, Bool.true_or]

/-- A repetition of a set that is not empty, any number of times. -/
theorem timesFootprint_one {s : CharSet} (h : s.extent ≠ []) (f : Footprint) :
    timesFootprint (one s) 0 none f = .both loopSize + f := by
  have htakes : (one s).takesSome = true := by simp [takesSome, h]
  simp [timesFootprint, htakes]

end Pattern

end Landscape
