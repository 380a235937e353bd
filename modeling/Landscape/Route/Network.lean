import Landscape.Graph.Basic
import Landscape.Rule.ProjectTest

namespace Landscape

/-!
# Networks

A network is what a search for routes sees of a graph: for every node where its edges lead,
whether the search may pass and whether it has arrived.
-/

structure Edge (ν : Type) where
  source : ν
  target : ν
  deriving DecidableEq, Repr

instance {ν : Type} [DecidableEq ν] [Key ν] : Key (Edge ν) where
  before d e :=
    Key.before d.source e.source ||
      (decide (d.source = e.source) && Key.before d.target e.target)
  before_irrefl e := by simp [Key.before_irrefl]
  before_trans {a b c} h₁ h₂ := by
    simp only [Bool.or_eq_true, Bool.and_eq_true, decide_eq_true_eq] at *
    rcases h₁ with h₁ | ⟨h₁, h₁'⟩ <;> rcases h₂ with h₂ | ⟨h₂, h₂'⟩
    · exact Or.inl (Key.before_trans h₁ h₂)
    · exact Or.inl (h₂ ▸ h₁)
    · exact Or.inl (h₁ ▸ h₂)
    · exact Or.inr ⟨h₁.trans h₂, Key.before_trans h₁' h₂'⟩
  eq_of_not_before {a b} h₁ h₂ := by
    simp only [Bool.or_eq_false_iff, Bool.and_eq_false_iff, decide_eq_false_iff_not] at *
    have hs : a.source = b.source := Key.eq_of_not_before h₁.1 h₂.1
    have ht : a.target = b.target :=
      Key.eq_of_not_before (h₁.2.resolve_left fun h => h hs)
        (h₂.2.resolve_left fun h => h hs.symm)
    cases a
    cases b
    simp_all

namespace Edge

variable {ν : Type}

/-- The edges of a path that is listed from its last node back to its first. -/
def ofPathBack : List ν → List (Edge ν)
  | b :: a :: rest => ⟨a, b⟩ :: ofPathBack (a :: rest)
  | _ => []

@[simp] theorem ofPathBack_nil : ofPathBack ([] : List ν) = [] := rfl

@[simp] theorem ofPathBack_singleton (a : ν) : ofPathBack [a] = [] := rfl

@[simp] theorem ofPathBack_cons_cons (b a : ν) (rest : List ν) :
    ofPathBack (b :: a :: rest) = ⟨a, b⟩ :: ofPathBack (a :: rest) := rfl

end Edge

/-- What a search knows of a node. -/
structure Station (ν : Type) where
  /-- The search ends here without having arrived. -/
  blocked : Bool
  goal : Bool
  /-- The search may arrive here but not pass. -/
  closed : Bool
  out : List ν

structure Network (ν : Type) [Key ν] where
  stations : Map ν (Station ν)

/-- What happens where a search arrives. -/
inductive Arrival (ν : Type) where
  | stuck
  | found
  | expand (out : List ν)

namespace Network

variable {ν : Type} [DecidableEq ν] [Key ν]

/-- Arrive at `node` in a search that began at `root` and may go on for `budget` edges. -/
def arrive (net : Network ν) (root : ν) (visited : List ν) (budget : Option Nat) (node : ν) :
    Arrival ν :=
  match net.stations.get? node with
  | none => .stuck
  | some s =>
      if s.blocked then .stuck
      else if node ≠ root ∧ s.goal then .found
      else if s.closed ∨ budget = some 0 ∨ node ∈ visited then .stuck
      else .expand s.out

def unvisited (net : Network ν) (visited : List ν) : List ν :=
  net.stations.keys.filter fun n => n ∉ visited

theorem unvisited_cons (net : Network ν) (node : ν) (visited : List ν) :
    net.unvisited (node :: visited) = (net.unvisited visited).filter (· ≠ node) := by
  simp [unvisited, List.filter_filter]

/-- An expanded node is there and was not visited before. -/
theorem mem_unvisited_of_expand {net : Network ν} {root node : ν} {visited out : List ν}
    {budget : Option Nat} (h : net.arrive root visited budget node = .expand out) :
    node ∈ net.unvisited visited := by
  unfold arrive at h
  split at h
  · cases h
  · rename_i s hs
    split at h
    · cases h
    · split at h
      · cases h
      · split at h
        · cases h
        · rename_i hgo
          have hvisited : node ∉ visited := fun hmem => hgo (.inr (.inr hmem))
          exact List.mem_filter.mpr ⟨Map.mem_keys_of_get? hs, by simpa using hvisited⟩

theorem length_unvisited_cons_lt {net : Network ν} {root node : ν} {visited out : List ν}
    {budget : Option Nat} (h : net.arrive root visited budget node = .expand out) :
    (net.unvisited (node :: visited)).length < (net.unvisited visited).length := by
  rw [unvisited_cons, List.length_filter_lt_length_iff_exists]
  exact ⟨node, mem_unvisited_of_expand h, by simp⟩

end Network

namespace Graph

def station (g : Graph) (dest : ProjectTest) (p : Project) : Station ProjectId where
  blocked := p.ignored
  goal := dest.holds p
  closed := p.isExternal
  out := (g.dependencies p .all).map fun l => l.target.id

/-- The graph as a search sees it, which goes by ids: a project is looked up under the id that a
dependency has for its target. That is the project itself wherever projects are filed under their
own ids. -/
def network (g : Graph) (dest : ProjectTest) : Network ProjectId :=
  ⟨g.projects.mapValues (g.station dest)⟩

end Graph

end Landscape
