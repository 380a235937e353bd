import Landscape.Route.Network
import Mathlib.Data.List.Chain

namespace Landscape

/-!
# Paths through a network

A path is listed from its last node back to its root. The ways of a search are the paths on
which it may stand: they repeat no node and pass no goal behind the root.
-/

variable {ν : Type}

namespace Edge

theorem mem_ofPathBack_iff {e : Edge ν} {p : List ν} :
    e ∈ ofPathBack p ↔ ∃ q, e.target :: e.source :: q <:+ p := by
  induction p with
  | nil => simp
  | cons v p ih =>
      cases p with
      | nil => simp [List.suffix_cons_iff]
      | cons u p =>
          rw [ofPathBack_cons_cons, List.mem_cons, ih]
          constructor
          · rintro (rfl | ⟨q, hq⟩)
            · exact ⟨p, List.suffix_rfl⟩
            · exact ⟨q, hq.trans (List.suffix_cons v _)⟩
          · rintro ⟨q, hq⟩
            rcases List.suffix_cons_iff.mp hq with h | h
            · obtain ⟨source, target⟩ := e
              simp only [List.cons.injEq] at h
              exact Or.inl (by rw [h.1, h.2.1])
            · exact Or.inr ⟨q, h⟩

theorem ofPathBack_subset_of_suffix {p q : List ν} (h : p <:+ q) :
    ofPathBack p ⊆ ofPathBack q := by
  intro e he
  obtain ⟨l, hl⟩ := mem_ofPathBack_iff.mp he
  exact mem_ofPathBack_iff.mpr ⟨l, hl.trans h⟩

/-- Every node but the last is the source of an edge. -/
theorem exists_mem_ofPathBack_iff {s : ν} {p : List ν} :
    (∃ t, ⟨s, t⟩ ∈ ofPathBack p) ↔ s ∈ p.tail := by
  induction p with
  | nil => simp
  | cons v p ih =>
      cases p with
      | nil => simp
      | cons u p =>
          rw [List.tail_cons] at ih ⊢
          rw [List.mem_cons, ← ih]
          simp [exists_or]

end Edge

namespace Network

variable [DecidableEq ν] [Key ν] {net : Network ν} {root u v : ν} {p q : List ν}

/-- The search may go on behind the node. -/
def Passable (net : Network ν) (v : ν) : Prop :=
  ∃ s, net.stations.get? v = some s ∧ s.blocked = false ∧ s.closed = false

def Goal (net : Network ν) (v : ν) : Prop :=
  ∃ s, net.stations.get? v = some s ∧ s.blocked = false ∧ s.goal = true

/-- A path may run through the node. -/
def Inner (net : Network ν) (v : ν) : Prop := net.Passable v ∧ ¬ net.Goal v

def Leads (net : Network ν) (u v : ν) : Prop :=
  ∃ s, net.stations.get? u = some s ∧ v ∈ s.out

/-! ## Arrivals -/

section

variable {visited out : List ν} {budget : Option Nat}

theorem goal_of_arrive (h : net.arrive root visited budget v = .found) :
    net.Goal v ∧ v ≠ root := by
  unfold arrive at h
  split at h
  · cases h
  · rename_i s hs
    split at h
    · cases h
    · rename_i hb
      split at h
      · rename_i hg
        exact ⟨⟨s, hs, by simpa using hb, hg.2⟩, hg.1⟩
      · split at h <;> cases h

theorem expands_of_arrive (h : net.arrive root visited budget v = .expand out) :
    net.Passable v ∧ (v ≠ root → ¬ net.Goal v) ∧ budget ≠ some 0 ∧ v ∉ visited ∧
      ∀ w, w ∈ out ↔ net.Leads v w := by
  unfold arrive at h
  split at h
  · cases h
  · rename_i s hs
    split at h
    · cases h
    · rename_i hb
      split at h
      · cases h
      · rename_i hg
        split at h
        · cases h
        · rename_i hc
          cases h
          simp only [not_or] at hc
          refine ⟨⟨s, hs, by simpa using hb, by simpa using hc.1⟩, ?_, hc.2.1, hc.2.2, ?_⟩
          · rintro hv ⟨s', hs', -, hgoal⟩
            rw [hs] at hs'
            cases hs'
            exact hg ⟨hv, hgoal⟩
          · intro w
            simp [Leads, hs]

theorem stuck_of_arrive (h : net.arrive root visited budget v = .stuck) :
    ¬ (net.Goal v ∧ v ≠ root) ∧ (net.Passable v → budget ≠ some 0 → v ∈ visited) := by
  unfold arrive at h
  split at h
  · rename_i hs
    exact ⟨fun ⟨⟨s, hs', _⟩, _⟩ => by simp [hs] at hs', fun ⟨s, hs', _⟩ => by simp [hs] at hs'⟩
  · rename_i s hs
    constructor
    · rintro ⟨⟨s', hs', hb, hg⟩, hv⟩
      rw [hs] at hs'
      cases hs'
      simp [hb, hg, hv] at h
    · rintro ⟨s', hs', hb, hc⟩ hbudget
      rw [hs] at hs'
      cases hs'
      simp only [hb, hc, hbudget, Bool.false_eq_true, if_false, false_or] at h
      split at h
      · cases h
      · split at h
        · assumption
        · cases h

end

/-! ## Ways -/

/-- A path of a search from `root`, listed from its last node. -/
inductive Way (net : Network ν) (root : ν) : List ν → Prop
  | root : net.Passable root → Way net root [root]
  | step {u v : ν} {p : List ν} : Way net root (u :: p) → net.Leads u v → net.Inner v →
      v ∉ u :: p → Way net root (v :: u :: p)

theorem Way.suffix (h : net.Way root p) (hq : v :: q <:+ p) : net.Way root (v :: q) := by
  induction h with
  | root hr =>
      rcases List.suffix_cons_iff.mp hq with heq | hnil
      · exact heq ▸ .root hr
      · cases List.suffix_nil.mp hnil
  | step hw hl hin hv ih =>
      rcases List.suffix_cons_iff.mp hq with heq | hq
      · exact heq ▸ .step hw hl hin hv
      · exact ih hq

theorem Way.root_suffix (h : net.Way root p) : [root] <:+ p := by
  induction h with
  | root _ => exact List.suffix_rfl
  | step _ _ _ _ ih => exact ih.trans (List.suffix_cons _ _)

theorem Way.root_mem (h : net.Way root p) : root ∈ p :=
  h.root_suffix.subset (List.mem_singleton_self root)

theorem Way.leads (h : net.Way root (v :: u :: p)) : net.Leads u v := by
  cases h with
  | step _ hl _ _ => exact hl

theorem Way.inner (h : net.Way root (v :: u :: p)) : net.Inner v := by
  cases h with
  | step _ _ hin _ => exact hin

theorem Way.passable (h : net.Way root (v :: p)) : net.Passable v := by
  cases h with
  | root hr => exact hr
  | step _ _ hin _ => exact hin.1

theorem Way.passable_root (h : net.Way root p) : net.Passable root :=
  (h.suffix h.root_suffix).passable

/-- A way does not come back to its root. -/
theorem Way.ne_root (h : net.Way root (v :: u :: p)) : v ≠ root := by
  cases h with
  | step hw _ _ hv =>
      rintro rfl
      exact hv hw.root_mem

theorem Way.nodup (h : net.Way root p) : p.Nodup := by
  induction h with
  | root _ => simp
  | step _ _ _ hv ih => exact List.nodup_cons.mpr ⟨hv, ih⟩

theorem Way.isChain (h : net.Way root p) : p.IsChain fun v u => net.Leads u v := by
  induction h with
  | root _ => exact List.isChain_singleton root
  | step _ hl _ _ ih => exact List.isChain_cons_cons.mpr ⟨hl, ih⟩

/-- A way comes from its root over inner nodes. -/
theorem Way.exists_eq_append (h : net.Way root p) :
    ∃ q, p = q ++ [root] ∧ net.Passable root ∧ ∀ x ∈ q, net.Inner x := by
  induction h with
  | root hr => exact ⟨[], rfl, hr, by simp⟩
  | @step u v p _ _ hin _ ih =>
      obtain ⟨q, hq, hr, hinner⟩ := ih
      exact ⟨v :: q, by rw [hq, List.cons_append], hr, List.forall_mem_cons.mpr ⟨hin, hinner⟩⟩

end Network

end Landscape
