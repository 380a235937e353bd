import Landscape.Proofs.Route.Found
import Landscape.Proofs.Route.Table
import Mathlib.Logic.Relation

namespace Landscape

/-!
# What searches reach

From a root a search reaches nodes over inner nodes, as long as no recorded edge turns it back.
Where an earlier search recorded an edge, that search reached what lies behind. So the ends of
the walks that are asked for are touched, whatever becomes of the nodes between them.
-/

variable {ν : Type} [DecidableEq ν] [Key ν]

namespace Network

variable {net : Network ν} {bound : Option Nat} {T : OrderedSet (Edge ν)} {root u v x y z : ν}
  {roots : List ν}

/-! ## Walks -/

/-- A walk leads from one node to the other, and all of it behind its first node is inner. -/
def Reaches (net : Network ν) : ν → ν → Prop :=
  Relation.ReflTransGen fun x y => net.Leads x y ∧ net.Inner y

/-- A walk leads from the node to a goal, over inner nodes unless it is a goal itself. -/
inductive GoalAhead (net : Network ν) : ν → Prop
  | goal {v : ν} : net.Goal v → GoalAhead net v
  | step {v w : ν} : net.Inner v → net.Leads v w → GoalAhead net w → GoalAhead net v

/-- The edge lies on a walk from the root to a goal. -/
structure Between (net : Network ν) (root : ν) (e : Edge ν) : Prop where
  passable : net.Passable root
  reaches : net.Reaches root e.source
  leads : net.Leads e.source e.target
  ahead : net.GoalAhead e.target

/-- A walk leads from the root to the goal `z`, which is another node. -/
structure Connects (net : Network ν) (root z : ν) : Prop where
  ne : z ≠ root
  passable : net.Passable root
  goal : net.Goal z
  exists_last : ∃ u, net.Reaches root u ∧ net.Leads u z

theorem Reaches.eq_or_inner (h : net.Reaches u v) : v = u ∨ net.Inner v := by
  cases h with
  | refl => exact Or.inl rfl
  | tail _ hstep => exact Or.inr hstep.2

theorem Reaches.passable (h : net.Reaches u v) (hu : net.Passable u) : net.Passable v := by
  rcases h.eq_or_inner with rfl | hin
  · exact hu
  · exact hin.1

theorem Way.reaches {p : List ν} (h : net.Way root (v :: p)) : net.Reaches root v := by
  induction p generalizing v with
  | nil =>
      cases h with
      | root _ => exact .refl
  | cons u p ih =>
      have hu := ih (h.suffix (List.suffix_cons v _))
      exact hu.tail ⟨h.leads, h.inner⟩

theorem GoalAhead.exists_last (h : net.GoalAhead v) (hu : net.Reaches x u) (hl : net.Leads u v) :
    ∃ w z, net.Reaches x w ∧ net.Leads w z ∧ net.Goal z := by
  induction h generalizing u with
  | @goal v hg => exact ⟨u, v, hu, hl, hg⟩
  | step hin hl' _ ih => exact ih (hu.tail ⟨hl, hin⟩) hl'

theorem Onward.goalAhead (hT : ∀ e, T.contains e = true → net.Leads e.source e.target)
    {l : List ν} (h : net.Onward T v l) : net.GoalAhead v := by
  induction h with
  | goal hg => exact .goal hg
  | step hin he _ ih => exact .step hin (hT _ he) ih

theorem Onward.exists_last (hT : ∀ e, T.contains e = true → net.Leads e.source e.target)
    {l : List ν} (h : net.Onward T v l) (hu : net.Reaches x u)
    (he : T.contains ⟨u, v⟩ = true) :
    ∃ w z, net.Reaches x w ∧ T.contains ⟨w, z⟩ = true ∧ net.Goal z := by
  induction h generalizing u with
  | @goal v hg => exact ⟨u, v, hu, he, hg⟩
  | step hin he' _ ih => exact ih (hu.tail ⟨hT _ he, hin⟩) he'

/-! ## What is recorded is reached -/

theorem leads_of_contains {e : Edge ν} (he : (net.searchAll bound roots).contains e = true) :
    net.Leads e.source e.target := by
  obtain ⟨-, -, -, -, -, -, hl, -⟩ := sound_searchAll he
  exact hl

/-- A recorded edge lies between a root that is the source of recorded edges and a goal to which
recorded edges lead. -/
theorem exists_between_of_contains {e : Edge ν}
    (he : (net.searchAll bound roots).contains e = true) :
    ∃ root ∈ roots, net.Between root e ∧
      (∃ d, (net.searchAll bound roots).contains ⟨root, d⟩ = true) ∧
      ∃ w z, net.Reaches e.source w ∧ (net.searchAll bound roots).contains ⟨w, z⟩ = true ∧
        net.Goal z := by
  obtain ⟨root, hroot, q, hway, -, hedges, hl, l, hon⟩ := sound_searchAll he
  obtain ⟨d, hd⟩ : ∃ d, ⟨root, d⟩ ∈ Edge.ofPathBack (e.target :: e.source :: q) :=
    Edge.exists_mem_ofPathBack_iff.mpr hway.root_mem
  refine ⟨root, hroot, ⟨hway.passable_root, hway.reaches, hl, ?_⟩, ⟨d, hedges _ hd⟩, ?_⟩
  · exact hon.goalAhead fun _ => leads_of_contains
  · exact hon.exists_last (fun _ => leads_of_contains) .refl he

/-- An edge to a goal is recorded only when some root other than the goal reaches it. -/
theorem exists_connects_of_contains (hz : net.Goal z)
    (he : (net.searchAll bound roots).contains ⟨u, z⟩ = true) :
    ∃ root ∈ roots, net.Connects root z := by
  induction roots using List.reverseRecOn with
  | nil => simp [searchAll] at he
  | append_singleton roots last ih =>
      rw [searchAll_concat] at he
      have hlater (h : (net.searchAll bound roots).contains ⟨u, z⟩ = true) :
          ∃ root ∈ roots ++ [last], net.Connects root z := by
        obtain ⟨root, hroot, hconnects⟩ := ih h
        exact ⟨root, List.mem_append_left _ hroot, hconnects⟩
      rcases contains_searchFrom_iff.mp he with he | ⟨p, hp, hep⟩
      · exact hlater he
      · have hW := ways_ways net bound (net.searchAll bound roots) last
        obtain ⟨q, -, hq, (⟨-, hne⟩ | he) | hmem⟩ := hW.of_mem_ofPathBack hp hep
        · have hway := hW.way _ hq
          have hleads := leads_of_contains (searchAll_concat net bound roots last ▸ he)
          exact ⟨last, by simp, hne, hway.passable_root, hz, u, hway.reaches, hleads⟩
        · exact hlater he
        · exact absurd hz (hW.way _ hmem).inner.2

/-! ## What is reached is found -/

/-- An unbounded search expands what it reaches, or an earlier search has recorded an edge on the
way there. -/
theorem mem_ways_or_exists_lead (hp : net.Passable root) (h : net.Reaches root u) :
    (∃ q, u :: q ∈ net.ways none T root) ∨
      ∃ x y q, x :: q ∈ net.ways none T root ∧ net.Leads x y ∧ T.contains ⟨x, y⟩ = true ∧
        net.Inner y ∧ net.Reaches y u := by
  induction h with
  | refl => exact Or.inl ⟨[], root_mem_ways hp (by simp)⟩
  | @tail v w _ hvw ih =>
      rcases ih with ⟨q, hq⟩ | ⟨x, y, q, hq, hl, hT, hin, hv⟩
      · rcases (settled_of_mem_ways hq hvw.1).expands hvw.2 (by simp [Room]) with hT | hr
        · exact Or.inr ⟨v, w, q, hq, hvw.1, hT, hvw.2, .refl⟩
        · exact Or.inl hr
      · exact Or.inr ⟨x, y, q, hq, hl, hT, hin, hv.tail hvw⟩

theorem Connects.exists_finds (h : net.Connects root z) : ∃ p, net.Finds none T root p := by
  obtain ⟨u, hu, hl⟩ := h.exists_last
  rcases mem_ways_or_exists_lead (T := T) h.passable hu with ⟨q, hq⟩ | ⟨x, y, q, hq, hxy, hT, -, -⟩
  · exact ⟨_, z, u, q, rfl, hq, hl, Or.inl ⟨h.goal, h.ne⟩⟩
  · exact ⟨_, y, x, q, rfl, hq, hxy, Or.inr hT⟩

theorem Connects.exists_contains_root (h : net.Connects root z) (hroot : root ∈ roots) :
    ∃ d, (net.searchAll none roots).contains ⟨root, d⟩ = true := by
  obtain ⟨before, after, rfl⟩ := List.append_of_mem hroot
  obtain ⟨p, hp⟩ := h.exists_finds (T := net.searchAll none before)
  obtain ⟨d, hd⟩ := Edge.exists_mem_ofPathBack_iff.mpr hp.root_mem_tail
  exact ⟨d, contains_searchAll_iff.mpr ⟨before, root, after, rfl, p, hp, hd⟩⟩

/-- The node is an end of an edge in the table. -/
def Touched (T : OrderedSet (Edge ν)) (x : ν) : Prop :=
  ∃ y, T.contains ⟨x, y⟩ = true ∨ T.contains ⟨y, x⟩ = true

theorem Touched.of_searchFrom (h : Touched T x) : Touched (net.searchFrom bound T root) x := by
  obtain ⟨y, he⟩ := h
  exact ⟨y, he.imp kept_of_searchFrom kept_of_searchFrom⟩

/-- A goal that another root is connected with is touched. -/
theorem Connects.touched_goal (h : net.Connects root z) (hroot : root ∈ roots) :
    Touched (net.searchAll none roots) z := by
  induction roots using List.reverseRecOn generalizing root with
  | nil => cases hroot
  | append_singleton roots last ih =>
      rw [searchAll_concat]
      rcases List.mem_append.mp hroot with hroot | hroot
      · exact (ih h hroot).of_searchFrom
      · obtain rfl := List.mem_singleton.mp hroot
        obtain ⟨u, hu, hl⟩ := h.exists_last
        rcases mem_ways_or_exists_lead h.passable hu with ⟨q, hq⟩ | ⟨x, y, q, -, -, hT, hin, hy⟩
        · refine ⟨u, Or.inr ((settled_of_mem_ways hq hl).records ?_ ⟨u, z⟩ (by simp))⟩
          exact Or.inl ⟨h.goal, h.ne⟩
        · -- The root whose search recorded the lead reaches `z` as well, or it is `z`.
          obtain ⟨s, hs, hbetween, ⟨d, hd⟩, -⟩ := exists_between_of_contains hT
          by_cases hsz : s = z
          · exact Touched.of_searchFrom ⟨d, Or.inl (hsz ▸ hd)⟩
          · refine (ih ⟨Ne.symm hsz, hbetween.passable, h.goal, u, ?_, hl⟩ hs).of_searchFrom
            exact (hbetween.reaches.tail ⟨hbetween.leads, hin⟩).trans hy

theorem Connects.touched_root (h : net.Connects root z) (hroot : root ∈ roots) :
    Touched (net.searchAll none roots) root := by
  obtain ⟨d, hd⟩ := h.exists_contains_root hroot
  exact ⟨d, Or.inl hd⟩

/-- Whatever the bound, a touched node is connected: a root with it, or it with a goal, and then
it is a root if it is a goal itself. -/
theorem connects_of_touched (h : Touched (net.searchAll bound roots) x) :
    (∃ root ∈ roots, net.Connects root x) ∨
      ∃ z, net.Connects x z ∧ (net.Goal x → x ∈ roots) := by
  by_cases hx : net.Goal x
  · obtain ⟨y, he | he⟩ := h
    · obtain ⟨root, hroot, hbetween, -, w, z, hw, hz, hgoal⟩ := exists_between_of_contains he
      -- A goal is no inner node, so the search that recorded the edge began here.
      obtain rfl : x = root := hbetween.reaches.eq_or_inner.resolve_right fun hin => hin.2 hx
      by_cases hzx : z = x
      · exact Or.inl (exists_connects_of_contains hx (hzx ▸ hz))
      · exact Or.inr ⟨z, ⟨hzx, hbetween.passable, hgoal, w, hw, leads_of_contains hz⟩,
          fun _ => hroot⟩
    · exact Or.inl (exists_connects_of_contains hx he)
  · have hne {z : ν} (hz : net.Goal z) : z ≠ x := fun heq => hx (heq ▸ hz)
    right
    obtain ⟨y, he | he⟩ := h
    · obtain ⟨root, -, hbetween, -, w, z, hw, hz, hgoal⟩ := exists_between_of_contains he
      refine ⟨z, ⟨hne hgoal, ?_, hgoal, w, hw, leads_of_contains hz⟩, fun h => absurd h hx⟩
      exact hbetween.reaches.passable hbetween.passable
    · obtain ⟨root, -, hbetween, -⟩ := exists_between_of_contains he
      cases hbetween.ahead with
      | goal hgoal => exact absurd hgoal hx
      | step hin hl hahead =>
          obtain ⟨w, z, hw, hz, hgoal⟩ := hahead.exists_last .refl hl
          exact ⟨z, ⟨hne hgoal, hin.1, hgoal, w, hw, hz⟩, fun h => absurd h hx⟩

/-- A root or a goal that some searches touch, bounded or not, is touched by unbounded searches
from the same roots or more, in whatever order. -/
theorem touched_of_touched {more : List ν} (hsub : roots ⊆ more) (hx : x ∈ more ∨ net.Goal x)
    (h : Touched (net.searchAll bound roots) x) : Touched (net.searchAll none more) x := by
  rcases connects_of_touched h with ⟨root, hroot, hconnects⟩ | ⟨z, hconnects, hgoal⟩
  · exact hconnects.touched_goal (hsub hroot)
  · exact hconnects.touched_root (hx.elim id fun hg => hsub (hgoal hg))

end Network

end Landscape
