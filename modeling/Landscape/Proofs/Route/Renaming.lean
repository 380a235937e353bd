import Landscape.Proofs.Route.Path
import Landscape.Route.Search
import Mathlib.Data.List.Basic

namespace Landscape

/-!
# Searches under other names

A search tells nodes apart and follows the order of their edges. So under other names for the nodes
it takes the same turns, and records the same edges under their new names.
-/

variable {ν : Type}

/-! ## Other names -/

def Edge.map (σ : ν → ν) (e : Edge ν) : Edge ν := ⟨σ e.source, σ e.target⟩

theorem Edge.map_injective {σ : ν → ν} (hσ : σ.Injective) : (Edge.map σ).Injective := by
  rintro ⟨a, b⟩ ⟨c, d⟩ h
  obtain ⟨hs, ht⟩ := Edge.mk.inj h
  obtain rfl : a = c := hσ hs
  obtain rfl : b = d := hσ ht
  rfl

theorem Edge.ofPathBack_map (σ : ν → ν) (p : List ν) :
    ofPathBack (p.map σ) = (ofPathBack p).map (Edge.map σ) := by
  induction p with
  | nil => rfl
  | cons v p ih =>
      cases p with
      | nil => rfl
      | cons u p =>
          simp only [List.map_cons, ofPathBack_cons_cons] at ih ⊢
          rw [ih]
          rfl

def Station.map (σ : ν → ν) (s : Station ν) : Station ν := { s with out := s.out.map σ }

def Arrival.map (σ : ν → ν) : Arrival ν → Arrival ν
  | .stuck => .stuck
  | .found => .found
  | .expand out => .expand (out.map σ)

def Frame.map (σ : ν → ν) (f : Frame ν) : Frame ν := ⟨σ f.node, f.rest.map σ, f.budget⟩

variable [DecidableEq ν] [Key ν]

/-- The one network is the other under the names that `σ` gives to the nodes. -/
def Network.Renames (σ : ν → ν) (net net' : Network ν) : Prop :=
  ∀ v, net'.stations.get? (σ v) = (net.stations.get? v).map (Station.map σ)

/-- The one search stands where the other does, under the names that `σ` gives to the nodes. -/
structure Search.Renames (σ : ν → ν) (s s' : Search ν) : Prop where
  recorded : ∀ e, s'.recorded.contains (e.map σ) = s.recorded.contains e
  visited : s'.visited = s.visited.map σ
  path : s'.path = s.path.map σ
  stack : s'.stack = s.stack.map (Frame.map σ)

variable {σ : ν → ν} {net net' : Network ν} {s s' : Search ν}

theorem Network.Renames.arrive (h : net.Renames σ net') (hσ : σ.Injective) (root : ν)
    (visited : List ν) (budget : Option Nat) (node : ν) :
    net'.arrive (σ root) (visited.map σ) budget (σ node) =
      (net.arrive root visited budget node).map σ := by
  unfold Network.arrive
  rw [h node]
  cases net.stations.get? node with
  | none => rfl
  | some s =>
      simp only [Option.map_some, Station.map, ne_eq, hσ.eq_iff, List.mem_map_of_injective hσ]
      split
      · rfl
      · split
        · rfl
        · split
          · rfl
          · rfl

/-! ## Turns -/

namespace Search

theorem Renames.record (h : s.Renames σ s') (hσ : σ.Injective) (path : List ν) :
    (s.record path).Renames σ (s'.record (path.map σ)) := by
  refine ⟨fun e => ?_, h.visited, h.path, h.stack⟩
  rw [Bool.eq_iff_iff]
  unfold Search.record
  rw [OrderedSet.contains_insertAll, OrderedSet.contains_insertAll, Edge.ofPathBack_map,
    List.mem_map_of_injective (Edge.map_injective hσ), h.recorded]

theorem Renames.enter (h : s.Renames σ s') (hnet : net.Renames σ net') (hσ : σ.Injective)
    (root : ν) (budget : Option Nat) (node : ν) (path : List ν) :
    (s.enter net root budget node path).Renames σ
      (s'.enter net' (σ root) budget (σ node) (path.map σ)) := by
  unfold Search.enter
  rw [h.visited, hnet.arrive hσ]
  cases net.arrive root s.visited budget node with
  | stuck => exact h
  | found => exact h.record hσ path
  | expand out =>
      refine ⟨h.recorded, rfl, rfl, ?_⟩
      simp [Arrival.map, h.stack, Frame.map]

theorem Renames.turn (h : s.Renames σ s') (hnet : net.Renames σ net') (hσ : σ.Injective)
    (root : ν) : (s.turn net root).Renames σ (s'.turn net' (σ root)) := by
  unfold Search.turn
  rw [h.stack]
  cases s.stack with
  | nil => exact h
  | cons f frames =>
      obtain ⟨node, rest, budget⟩ := f
      cases rest with
      | nil =>
          refine ⟨h.recorded, h.visited, ?_, rfl⟩
          simp [Frame.map, h.path]
      | cons target rest =>
          have hrest : ({ s with stack := ⟨node, rest, budget⟩ :: frames } : Search ν).Renames σ
              { s' with
                path := s.path.map σ
                stack := ⟨σ node, rest.map σ, budget⟩ :: frames.map (Frame.map σ) } :=
            ⟨h.recorded, h.visited, rfl, rfl⟩
          have hedge : s'.recorded.contains ⟨σ node, σ target⟩ =
              s.recorded.contains ⟨node, target⟩ := h.recorded ⟨node, target⟩
          simp only [List.map_cons, Frame.map, hedge, h.path]
          split
          · exact hrest.record hσ s.path
          · exact hrest.enter hnet hσ root budget target (target :: s.path)

theorem Renames.run (h : s.Renames σ s') (hnet : net.Renames σ net') (hσ : σ.Injective)
    (root : ν) : (s.run net root).Renames σ (s'.run net' (σ root)) := by
  induction s using Search.run.induct net root generalizing s' with
  | case1 s hs =>
      have hs' : s'.stack = [] := by rw [h.stack, hs]; rfl
      have hdone : s.run net root = s := by rw [Search.run, dif_pos hs]
      have hdone' : s'.run net' (σ root) = s' := by rw [Search.run, dif_pos hs']
      rw [hdone, hdone']
      exact h
  | case2 s hs ih =>
      have hs' : s'.stack ≠ [] := by
        rw [h.stack]
        simpa using hs
      have hgo : s.run net root = (s.turn net root).run net root := by
        rw [Search.run, dif_neg hs]
      have hgo' : s'.run net' (σ root) = (s'.turn net' (σ root)).run net' (σ root) := by
        rw [Search.run, dif_neg hs']
      rw [hgo, hgo']
      exact ih (h.turn hnet hσ root)

end Search

/-! ## What is recorded -/

namespace Network

theorem Renames.searchFrom (hnet : net.Renames σ net') (hσ : σ.Injective) (bound : Option Nat)
    {T T' : OrderedSet (Edge ν)} (hT : ∀ e, T'.contains (e.map σ) = T.contains e) (root : ν)
    (e : Edge ν) : (net'.searchFrom bound T' (σ root)).contains (e.map σ) =
      (net.searchFrom bound T root).contains e := by
  have hempty : (⟨T, [], [], []⟩ : Search ν).Renames σ ⟨T', [], [], []⟩ := ⟨hT, rfl, rfl, rfl⟩
  exact ((hempty.enter hnet hσ root bound root [root]).run hnet hσ root).recorded e

theorem Renames.searchAll (hnet : net.Renames σ net') (hσ : σ.Injective) (bound : Option Nat)
    (roots : List ν) (e : Edge ν) :
    (net'.searchAll bound (roots.map σ)).contains (e.map σ) =
      (net.searchAll bound roots).contains e := by
  unfold Network.searchAll
  rw [List.foldl_map]
  have hrun (T T' : OrderedSet (Edge ν)) (hT : ∀ e, T'.contains (e.map σ) = T.contains e) :
      ∀ e, (roots.foldl (fun T root => net'.searchFrom bound T (σ root)) T').contains (e.map σ) =
        (roots.foldl (net.searchFrom bound) T).contains e := by
    induction roots generalizing T T' with
    | nil => exact hT
    | cons root roots ih => exact ih _ _ fun e => hnet.searchFrom hσ bound hT root e
  exact hrun ∅ ∅ (fun _ => rfl) e

end Network

end Landscape
