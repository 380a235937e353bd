import Landscape.Proofs.Route.Unbounded

namespace Landscape

/-!
# Raising the bound of a route

A search with a larger bound may stand on a node by another way, and may leave an edge to an
earlier search that had too little of its bound left. Where the walks of the route never join,
neither happens and all that was touched stays touched. Taking the bound away never loses a root
or a destination.
-/

variable {ν : Type} [DecidableEq ν] [Key ν]

namespace Network

variable {net : Network ν} {T T' : OrderedSet (Edge ν)} {root u v x : ν}
  {roots more : List ν} {n m : Option Nat}

/-- What fits the bound `n` fits the bound `m`. -/
def BoundLe (n m : Option Nat) : Prop := ∀ k, m = some k → ∃ j, n = some j ∧ j ≤ k

/-- The walks from the roots never join: each inner node between the roots and goals is entered
along one edge and from one root. -/
structure Apart (net : Network ν) (roots : List ν) : Prop where
  branches : ∀ root ∈ roots, net.Branches root
  unique : ∀ r ∈ roots, ∀ s ∈ roots, ∀ u w v, net.Between r ⟨u, v⟩ → net.Between s ⟨w, v⟩ →
    net.Inner v → r = s

theorem Apart.of_subset (h : net.Apart more) (hsub : roots ⊆ more) : net.Apart roots where
  branches root hroot := h.branches root (hsub hroot)
  unique r hr s hs := h.unique r (hsub hr) s (hsub hs)

theorem Branches.apart (h : net.Branches root) : net.Apart [root] where
  branches _ hr := List.mem_singleton.mp hr ▸ h
  unique _ hr _ hs _ _ _ _ _ _ := (List.mem_singleton.mp hr).trans (List.mem_singleton.mp hs).symm

/-- A way on which one search stands and which leads on to a goal is a way of the search with
the larger bound, if no edge to an inner node there was recorded before. -/
theorem Branches.mem_ways_of_boundLe (hb : net.Branches root) (hnm : BoundLe n m)
    (hT : ∀ e, T'.contains e = true → net.Inner e.target → ¬ net.Between root e)
    {q : List ν} (hq : u :: q ∈ net.ways n T root) (hl : net.Leads u v) (hv : net.GoalAhead v) :
    u :: q ∈ net.ways m T' root := by
  have hW := ways_ways net n T root
  have hfits {p : List ν} (hp : p ∈ net.ways n T root) (k : Nat) (hk : m = some k) :
      p.length ≤ k := by
    obtain ⟨j, hj, hjk⟩ := hnm k hk
    exact (hW.length_le p hp j hj).trans hjk
  induction q generalizing u v with
  | nil =>
      have hway := hW.way _ hq
      obtain rfl := List.mem_singleton.mp hway.root_mem
      exact root_mem_ways hway.passable fun h0 => by simpa using hfits hq 0 h0
  | cons y q ih =>
      have hway := hW.way _ hq
      have hy : y :: q ∈ net.ways n T root := hW.suffix _ hq y q (List.suffix_cons u _)
      have hahead : net.GoalAhead u := .step hway.inner hl hv
      have hbetween := (hW.way _ hy).between hway.leads hahead
      have hy' := ih hy hway.leads hahead
      rcases (settled_of_mem_ways hy' hway.leads).expands hway.inner (hfits hq) with hlead | ⟨r, hr⟩
      · exact absurd hbetween (hT _ hlead hway.inner)
      · exact hb.mem_ways hy' hbetween hway.inner hr

/-- Where the walks from the roots never join, a larger bound loses no edge. -/
theorem contains_searchAll_of_boundLe (hnm : BoundLe n m) (hroots : net.Apart roots)
    (hnodup : roots.Nodup) {e : Edge ν} (he : (net.searchAll n roots).contains e = true) :
    (net.searchAll m roots).contains e = true := by
  induction roots using List.reverseRecOn generalizing e with
  | nil => simp [searchAll] at he
  | append_singleton roots last ih =>
      obtain ⟨hbefore, -, hdisjoint⟩ := List.nodup_append.mp hnodup
      have hkept {e : Edge ν} (he : (net.searchAll n roots).contains e = true) :=
        ih (hroots.of_subset (List.subset_append_left _ _)) hbefore he
      rw [searchAll_concat] at he ⊢
      rcases contains_searchFrom_iff.mp he with he | ⟨p, ⟨v, u, q, rfl, hq, hl, ha⟩, hep⟩
      · exact kept_of_searchFrom (hkept he)
      · have hahead : net.GoalAhead v := by
          rcases ha with ⟨hgoal, -⟩ | hlead
          · exact .goal hgoal
          · obtain ⟨s, -, hbetween, -⟩ := exists_between_of_contains hlead
            exact hbetween.ahead
        have hnolead : ∀ e, (net.searchAll m roots).contains e = true → net.Inner e.target →
            ¬ net.Between last e := by
          intro e he hin hlast
          obtain ⟨s, hs, hbetween, -⟩ := exists_between_of_contains he
          have heq : s = last :=
            hroots.unique s (by simp [hs]) last (by simp) _ _ e.target hbetween hlast hin
          exact hdisjoint s hs last (List.mem_singleton_self last) heq
        have hq' := (hroots.branches last (by simp)).mem_ways_of_boundLe hnm hnolead hq hl hahead
        exact (settled_of_mem_ways hq' hl).records (ha.imp_right hkept) e hep

end Network

namespace Route

variable {g : Graph} {t : RouteText} {n m : Option Nat}

theorem nodup_roots (hg : g.FiledById) (t : RouteText) : (roots g t).Nodup := by
  have hvalues : (g.projects.values.map (·.id)).Nodup := by
    refine Map.nodup_map_values fun i p j q hp hq hid => ?_
    rw [← hg i p hp, hid, hg j q hq]
  have hperm : (g.list .owned).Perm (g.projects.values.filter ListMode.owned.admits) :=
    List.mergeSort_perm _ _
  have hlist : ((g.list .owned).map (·.id)).Nodup :=
    (hperm.map _).nodup_iff.mpr (hvalues.sublist (List.filter_sublist.map _))
  exact hlist.sublist (List.filter_sublist.map _)

/-- A project that a route touches is touched under a larger bound too if the walks from the roots
never join. Without any bound it is touched if it is a root or passes the test of the
destination, or if the walks from each root by itself never join. -/
theorem touched_of_boundLe (hg : g.FiledById) (hnm : Network.BoundLe n m) {x : ProjectId}
    (hx : (ends (search g { t with bound := n })).contains x = true)
    (hkept : (g.network t.dest).Apart (roots g t) ∨ m = none ∧
      ((x ∈ roots g t ∨ g.Has x fun p => p.ignored = false ∧ t.dest.holds p = true) ∨
        ∀ r ∈ roots g t, (g.network t.dest).Branches r)) :
    (ends (search g { t with bound := m })).contains x = true := by
  rw [contains_ends_iff, search_eq] at hx ⊢
  have hedges (h : ∀ e, ((g.network t.dest).searchAll n (roots g t)).contains e = true →
      ((g.network t.dest).searchAll m (roots g t)).contains e = true) :
      Network.Touched ((g.network t.dest).searchAll m (roots g t)) x := by
    obtain ⟨y, he⟩ := hx
    exact ⟨y, he.imp (h _) (h _)⟩
  rcases hkept with hapart | ⟨rfl, hend | hbranches⟩
  · exact hedges fun e he =>
      Network.contains_searchAll_of_boundLe hnm hapart (nodup_roots hg t) he
  · exact Network.touched_of_touched (List.Subset.refl _) (hend.imp_right Graph.goal_iff.mpr) hx
  · refine hedges fun e he => (Network.contains_searchAll_iff_between hbranches).mpr ?_
    obtain ⟨root, hroot, hbetween, -⟩ := Network.exists_between_of_contains he
    exact ⟨root, hroot, hbetween⟩

/-- Where `web` leads over `core` to `api`, `core` is touched by the route to `api` for
paths of two edges and for paths of three. -/
theorem touched_of_boundLe_of_chain :
    let t : RouteText := ⟨.id ⟨1⟩, none, false, .id ⟨3⟩⟩
    ∃ g, Graph.ofRecords [.code "web" ["core"], .code "core" ["api"], .code "api" []] = .ok g ∧
      Network.BoundLe (some 2) (some 3) ∧ (g.network t.dest).Apart (roots g t) ∧
      (ends (search g { t with bound := some 2 })).contains ⟨2⟩ = true ∧
      (ends (search g { t with bound := some 3 })).contains ⟨2⟩ = true := by
  intro t
  have hle : Network.BoundLe (some 2) (some 3) := fun k hk =>
    ⟨2, rfl, Option.some.inj hk ▸ Nat.le_succ 2⟩
  have hkept {g : Graph}
      (hg : Graph.ofRecords [.code "web" ["core"], .code "core" ["api"], .code "api" []] = .ok g)
      (hroots : roots g t = [⟨1⟩]) (hb : (g.network t.dest).Branches ⟨1⟩)
      (hx : (ends (search g { t with bound := some 2 })).contains ⟨2⟩ = true) :
      (g.network t.dest).Apart (roots g t) ∧
        (ends (search g { t with bound := some 2 })).contains ⟨2⟩ = true ∧
        (ends (search g { t with bound := some 3 })).contains ⟨2⟩ = true := by
    have hapart : (g.network t.dest).Apart (roots g t) := hroots ▸ hb.apart
    exact ⟨hapart, hx,
      touched_of_boundLe (Graph.filedById_of_ofRecords hg) hle hx (Or.inl hapart)⟩
  refine ⟨_, by cbv, hle, hkept ?_ ?_ ?_ ?_⟩
  · cbv
  · cbv
  · exact Network.branches_of_forall [⟨1⟩, ⟨2⟩, ⟨3⟩] (by decide) (by decide +kernel)
  · cbv

/-- Where `r` leads to `m` over `x` and over `a` and `k`, and `m` to `z`, the route from `r` to
`z` for paths of three edges touches `x`. For paths of four edges, and for any paths, the search
has expanded `m` on the way over `k` before it comes to `x`, and `x` is not touched. -/
theorem exists_touched_not_kept :
    ∃ g t, Graph.ofRecords [.code "r" ["a", "x"], .code "a" ["k"], .code "k" ["m"], .code "m" ["z"],
        .code "x" ["m"], .code "z" []] = .ok g ∧
      t = (⟨.id ⟨1⟩, none, false, .id ⟨6⟩⟩ : RouteText) ∧
      (ends (search g { t with bound := some 3 })).contains ⟨5⟩ = true ∧
      (ends (search g { t with bound := some 4 })).contains ⟨5⟩ = false ∧
      (ends (search g t)).contains ⟨5⟩ = false := by
  refine ⟨_, _, by cbv, rfl, ?_, ?_, ?_⟩
  · cbv
  · cbv
  · cbv

end Route

end Landscape
