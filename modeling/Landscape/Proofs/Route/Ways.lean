import Landscape.Proofs.Route.Path
import Landscape.Route.Search
import Mathlib.Data.Set.Insert

namespace Landscape

/-!
# What one search records

The ways of a search are the paths on which it stands, one for every node that it expands.
It records just the edges of the paths that go one edge on from a way and arrive: at a goal,
or along an edge recorded by an earlier search.
-/

variable {ν : Type} [DecidableEq ν] [Key ν]

namespace Search

/-- The paths on which a search stands before each of its turns. -/
def ways (net : Network ν) (root : ν) (s : Search ν) : List (List ν) :=
  if _h : s.stack = [] then [] else s.path :: ways net root (s.turn net root)
  termination_by ((net.unvisited s.visited).length, pending s.stack)
  decreasing_by exact turn_decreases net root s _h

end Search

namespace Network

def ways (net : Network ν) (bound : Option Nat) (recorded : OrderedSet (Edge ν)) (root : ν) :
    List (List ν) :=
  (Search.start net root bound recorded).ways net root

/-- A path arrives along the edge: at a goal, or because the edge is recorded already. -/
def Arrives (net : Network ν) (recorded : OrderedSet (Edge ν)) (root u v : ν) : Prop :=
  net.Goal v ∧ v ≠ root ∨ recorded.contains ⟨u, v⟩ = true

/-- The path goes one edge on from one of the ways `W` and arrives. -/
def Completes (net : Network ν) (recorded : OrderedSet (Edge ν)) (root : ν) (W : Set (List ν))
    (p : List ν) : Prop :=
  ∃ v u q, p = v :: u :: q ∧ u :: q ∈ W ∧ net.Leads u v ∧ net.Arrives recorded root u v

/-- A path of this many nodes may go on for another edge. -/
def Room (bound : Option Nat) (length : Nat) : Prop := ∀ n, bound = some n → length < n

/-- Paths that a search may stand on, no two of them with the same last node. -/
structure Ways (net : Network ν) (bound : Option Nat) (root : ν) (W : Set (List ν)) : Prop where
  way : ∀ p ∈ W, net.Way root p
  length_le : ∀ p ∈ W, ∀ n, bound = some n → p.length ≤ n
  suffix : ∀ p ∈ W, ∀ v q, v :: q <:+ p → v :: q ∈ W
  unique : ∀ v p q, v :: p ∈ W → v :: q ∈ W → p = q

variable {net : Network ν} {bound : Option Nat} {T : OrderedSet (Edge ν)} {root : ν}
  {W : Set (List ν)}

theorem Completes.mono {W' : Set (List ν)} (hW : W ⊆ W') {p : List ν}
    (h : net.Completes T root W p) : net.Completes T root W' p := by
  obtain ⟨v, u, q, hp, hq, hl, ha⟩ := h
  exact ⟨v, u, q, hp, hW hq, hl, ha⟩

/-- An edge of a completed path ends where the path arrives or on a way. -/
theorem Ways.of_mem_ofPathBack (hW : net.Ways bound root W) {p : List ν}
    (hp : net.Completes T root W p) {u v : ν} (he : ⟨u, v⟩ ∈ Edge.ofPathBack p) :
    ∃ q, v :: u :: q <:+ p ∧ u :: q ∈ W ∧ (net.Arrives T root u v ∨ v :: u :: q ∈ W) := by
  obtain ⟨z, y, r, rfl, hr, -, ha⟩ := hp
  obtain ⟨q, hq⟩ := Edge.mem_ofPathBack_iff.mp he
  rcases List.suffix_cons_iff.mp hq with h | h
  · simp only [List.cons.injEq] at h
    obtain ⟨rfl, rfl, rfl⟩ := h
    exact ⟨q, hq, hr, Or.inl ha⟩
  · exact ⟨q, hq, hW.suffix _ hr u q ((List.suffix_cons v _).trans h),
      Or.inr (hW.suffix _ hr v _ h)⟩

end Network

namespace Search

open Network

variable {net : Network ν} {bound : Option Nat} {T : OrderedSet (Edge ν)} {root : ν}
  {W : Set (List ν)} {s : Search ν}

/-! ## The invariant of a search -/

/-- Each frame holds targets of its node and the budget that is left below it. -/
inductive Framed (net : Network ν) (bound : Option Nat) : List (Frame ν) → Prop
  | nil : Framed net bound []
  | cons {f : Frame ν} {fs : List (Frame ν)} : (∀ v ∈ f.rest, net.Leads f.node v) →
      f.budget = bound.map (· - (fs.length + 1)) → Framed net bound fs → Framed net bound (f :: fs)

/-- The edge from `u` to `v` behind the way `u :: q` is dealt with: the path is recorded if it
arrives, and `v` is expanded if it can be. -/
structure Settled (net : Network ν) (bound : Option Nat) (T : OrderedSet (Edge ν)) (root : ν)
    (W : Set (List ν)) (recorded : OrderedSet (Edge ν)) (u v : ν) (q : List ν) : Prop where
  records : net.Arrives T root u v →
    ∀ e ∈ Edge.ofPathBack (v :: u :: q), recorded.contains e = true
  expands : net.Inner v → Room bound (u :: q).length →
    T.contains ⟨u, v⟩ = true ∨ ∃ r, v :: r ∈ W

/-- A search that began with the recorded edges `T` and has stood on the ways `W`. -/
structure Inv (net : Network ν) (bound : Option Nat) (T : OrderedSet (Edge ν)) (root : ν)
    (W : Set (List ν)) (s : Search ν) : Prop where
  ways : net.Ways bound root W
  visited : ∀ v, v ∈ s.visited ↔ ∃ q, v :: q ∈ W
  path : s.path = s.stack.map (·.node)
  stands : s.stack ≠ [] → s.path ∈ W
  framed : Framed net bound s.stack
  kept : ∀ e, T.contains e = true → s.recorded.contains e = true
  sound : ∀ e, s.recorded.contains e = true →
    T.contains e = true ∨ ∃ p, net.Completes T root W p ∧ e ∈ Edge.ofPathBack p
  done : ∀ u q v, u :: q ∈ W → net.Leads u v →
    (∃ f ∈ s.stack, f.node = u ∧ v ∈ f.rest) ∨ Settled net bound T root W s.recorded u v q

theorem Settled.mono {W' : Set (List ν)} (hW : W ⊆ W') {R R' : OrderedSet (Edge ν)}
    (hR : ∀ e, R.contains e = true → R'.contains e = true) {u v : ν} {q : List ν}
    (h : Settled net bound T root W R u v q) : Settled net bound T root W' R' u v q where
  records ha e he := hR e (h.records ha e he)
  expands hin hroom := (h.expands hin hroom).imp_right fun ⟨r, hr⟩ => ⟨r, hW hr⟩

/-! ## One turn -/

section

variable {f : Frame ν} {fs : List (Frame ν)} {v : ν} {rest : List ν}

theorem Inv.path_eq (h : Inv net bound T root W s) (hs : s.stack = f :: fs) :
    s.path = f.node :: fs.map (·.node) := by
  rw [h.path, hs, List.map_cons]

theorem Inv.mem_ways (h : Inv net bound T root W s) (hs : s.stack = f :: fs) :
    f.node :: fs.map (·.node) ∈ W := by
  have hmem := h.stands (by simp [hs])
  rwa [h.path_eq hs] at hmem

theorem Inv.leads_next (h : Inv net bound T root W s) (hs : s.stack = f :: fs)
    (hf : f.rest = v :: rest) : net.Leads f.node v := by
  have hframed := hs ▸ h.framed
  cases hframed with
  | cons hl _ _ => exact hl v (by simp [hf])

theorem Inv.budget_eq (h : Inv net bound T root W s) (hs : s.stack = f :: fs) :
    f.budget = bound.map (· - (fs.length + 1)) := by
  have hframed := hs ▸ h.framed
  cases hframed with
  | cons _ hb _ => exact hb

theorem Framed.drop (h : Framed net bound (f :: fs)) (hf : f.rest = v :: rest) :
    Framed net bound ({ f with rest := rest } :: fs) := by
  cases h with
  | cons hl hb hfs => exact .cons (fun w hw => hl w (by simp [hf, hw])) hb hfs

/-- When the next target is taken off the stack, its edge is the only one that may be neither
pending nor settled. -/
theorem Inv.done_or_next (h : Inv net bound T root W s) (hs : s.stack = f :: fs)
    (hf : f.rest = v :: rest) {u t : ν} {q : List ν} (hq : u :: q ∈ W) (hl : net.Leads u t) :
    (∃ g ∈ { f with rest := rest } :: fs, g.node = u ∧ t ∈ g.rest) ∨
      Settled net bound T root W s.recorded u t q ∨
        u = f.node ∧ t = v ∧ q = fs.map (·.node) := by
  rcases h.done u q t hq hl with ⟨g, hg, rfl, ht⟩ | hset
  · rw [hs] at hg
    rcases List.mem_cons.mp hg with rfl | hg
    · rw [hf] at ht
      rcases List.mem_cons.mp ht with rfl | ht
      · exact Or.inr (Or.inr ⟨rfl, rfl, h.ways.unique _ _ _ hq (h.mem_ways hs)⟩)
      · exact Or.inl ⟨_, List.mem_cons_self, rfl, ht⟩
    · exact Or.inl ⟨g, List.mem_cons_of_mem _ hg, rfl, ht⟩
  · exact Or.inr (Or.inl hset)

theorem Inv.pop (h : Inv net bound T root W s) (hs : s.stack = f :: fs) (hf : f.rest = []) :
    Inv net bound T root W { s with path := s.path.tail, stack := fs } where
  ways := h.ways
  visited := h.visited
  path := by rw [h.path_eq hs, List.tail_cons]
  stands hne := by
    rw [h.path_eq hs, List.tail_cons]
    cases fs with
    | nil => exact absurd rfl hne
    | cons g fs => exact h.ways.suffix _ (h.mem_ways hs) _ _ (List.suffix_cons _ _)
  framed := by
    have hframed := hs ▸ h.framed
    cases hframed with
    | cons _ _ hfs => exact hfs
  kept := h.kept
  sound := h.sound
  done u q t hq hl := by
    rcases h.done u q t hq hl with ⟨g, hg, hgu, ht⟩ | hset
    · rw [hs] at hg
      rcases List.mem_cons.mp hg with rfl | hg
      · rw [hf] at ht
        cases ht
      · exact Or.inl ⟨g, hg, hgu, ht⟩
    · exact Or.inr hset

/-- The next target is taken off the stack and its edge is settled. -/
theorem Inv.settle (h : Inv net bound T root W s) (hs : s.stack = f :: fs)
    (hf : f.rest = v :: rest) {R : OrderedSet (Edge ν)}
    (hkept : ∀ e, s.recorded.contains e = true → R.contains e = true)
    (hsound : ∀ e, R.contains e = true → s.recorded.contains e = true ∨
      ∃ p, net.Completes T root W p ∧ e ∈ Edge.ofPathBack p)
    (hset : Settled net bound T root W R f.node v (fs.map (·.node))) :
    Inv net bound T root W { s with recorded := R, stack := { f with rest := rest } :: fs } where
  ways := h.ways
  visited := h.visited
  path := by rw [h.path_eq hs, List.map_cons]
  stands _ := h.stands (by simp [hs])
  framed := (hs ▸ h.framed).drop hf
  kept e he := hkept e (h.kept e he)
  sound e he := by
    rcases hsound e he with he | he
    · exact h.sound e he
    · exact Or.inr he
  done u q t hq hl := by
    rcases h.done_or_next hs hf hq hl with hpending | hold | ⟨rfl, rfl, rfl⟩
    · exact Or.inl hpending
    · exact Or.inr (hold.mono subset_rfl hkept)
    · exact Or.inr hset

/-- A recorded edge either comes from an earlier search, or leads to a node that is a goal or
that this search has expanded behind it. -/
theorem Inv.arrives_or_mem_ways (h : Inv net bound T root W s) {u : ν} {q : List ν}
    (hq : u :: q ∈ W) (he : s.recorded.contains ⟨u, v⟩ = true) :
    (net.Arrives T root u v ∨ v :: u :: q ∈ W) ∧
      (T.contains ⟨u, v⟩ = true ∨ ∃ p, net.Completes T root W p ∧ v :: u :: q <:+ p) := by
  rcases h.sound _ he with hT | ⟨p, hp, hep⟩
  · exact ⟨Or.inl (Or.inr hT), Or.inl hT⟩
  · obtain ⟨r, hsuf, hr, hor⟩ := h.ways.of_mem_ofPathBack hp hep
    rw [h.ways.unique u q r hq hr]
    exact ⟨hor, Or.inr ⟨p, hp, hsuf⟩⟩

/-- The next edge is recorded: the path to its source is recorded as well. -/
theorem Inv.lead (h : Inv net bound T root W s) (hs : s.stack = f :: fs)
    (hf : f.rest = v :: rest) (he : s.recorded.contains ⟨f.node, v⟩ = true) :
    Inv net bound T root W { s with
      recorded := s.recorded.insertAll (Edge.ofPathBack s.path)
      stack := { f with rest := rest } :: fs } := by
  have hq := h.mem_ways hs
  -- What this search has recorded itself lies on a completed path through this very way.
  obtain ⟨hor, hpath⟩ := h.arrives_or_mem_ways hq he
  refine h.settle hs hf (fun e he => ?_) (fun e he => ?_) ⟨?_, ?_⟩
  · exact (OrderedSet.contains_insertAll _ _ _).mpr (Or.inr he)
  · rcases (OrderedSet.contains_insertAll _ _ _).mp he with he | he
    · rw [h.path_eq hs] at he
      right
      rcases hpath with hT | ⟨p, hp, hsuf⟩
      · exact ⟨_, ⟨v, _, _, rfl, hq, h.leads_next hs hf, Or.inr hT⟩, by simp [he]⟩
      · exact ⟨p, hp, Edge.ofPathBack_subset_of_suffix ((List.suffix_cons v _).trans hsuf) he⟩
    · exact Or.inl he
  · intro _ e he'
    rw [OrderedSet.contains_insertAll, h.path_eq hs]
    rcases List.mem_cons.mp he' with rfl | he'
    · exact Or.inr he
    · exact Or.inl he'
  · intro hin _
    rcases hor with (⟨hg, -⟩ | hT) | hmem
    · exact absurd hg hin.2
    · exact Or.inl hT
    · exact Or.inr ⟨_, hmem⟩

theorem Inv.found (h : Inv net bound T root W s) (hs : s.stack = f :: fs)
    (hf : f.rest = v :: rest) (hgoal : net.Goal v ∧ v ≠ root) :
    Inv net bound T root W { s with
      recorded := s.recorded.insertAll (Edge.ofPathBack (v :: s.path))
      stack := { f with rest := rest } :: fs } := by
  refine h.settle hs hf (fun e he => ?_) (fun e he => ?_) ⟨?_, ?_⟩
  · exact (OrderedSet.contains_insertAll _ _ _).mpr (Or.inr he)
  · rcases (OrderedSet.contains_insertAll _ _ _).mp he with he | he
    · rw [h.path_eq hs] at he
      exact Or.inr ⟨_, ⟨v, _, _, rfl, h.mem_ways hs, h.leads_next hs hf, Or.inl hgoal⟩, he⟩
    · exact Or.inl he
  · intro _ e he
    rw [OrderedSet.contains_insertAll, h.path_eq hs]
    exact Or.inl he
  · intro hin _
    exact absurd hgoal.1 hin.2

theorem Inv.stuck (h : Inv net bound T root W s) (hs : s.stack = f :: fs)
    (hf : f.rest = v :: rest) (he : ¬ s.recorded.contains ⟨f.node, v⟩ = true)
    (hgoal : ¬ (net.Goal v ∧ v ≠ root))
    (hvisited : net.Passable v → f.budget ≠ some 0 → v ∈ s.visited) :
    Inv net bound T root W { s with stack := { f with rest := rest } :: fs } := by
  refine h.settle hs hf (fun e he => he) (fun e he => Or.inl he) ⟨?_, ?_⟩
  · rintro (hg | hT)
    · exact absurd hg hgoal
    · exact absurd (h.kept _ hT) he
  · intro hin hroom
    refine Or.inr ((h.visited v).mp (hvisited hin.1 ?_))
    rw [h.budget_eq hs]
    intro hzero
    obtain ⟨n, hn, hn0⟩ := Option.map_eq_some_iff.mp hzero
    have hlt := hroom n hn
    rw [List.length_cons, List.length_map] at hlt
    omega

/-- A node that is expanded is new and makes a way with the path before it. -/
theorem Inv.way_of_expands (h : Inv net bound T root W s) (hs : s.stack = f :: fs)
    (hf : f.rest = v :: rest) (hp : net.Passable v) (hgoal : v ≠ root → ¬ net.Goal v)
    (hvisited : v ∉ s.visited) : net.Inner v ∧ net.Way root (v :: f.node :: fs.map (·.node)) := by
  have hq := h.mem_ways hs
  have hway := h.ways.way _ hq
  have hroot : v ≠ root := by
    rintro rfl
    exact hvisited ((h.visited v).mpr ⟨[], h.ways.suffix _ hq v [] hway.root_suffix⟩)
  refine ⟨⟨hp, hgoal hroot⟩, .step hway (h.leads_next hs hf) ⟨hp, hgoal hroot⟩ fun hv => ?_⟩
  obtain ⟨l₁, l₂, hl⟩ := List.append_of_mem hv
  exact hvisited ((h.visited v).mpr ⟨l₂, h.ways.suffix _ hq v l₂ ⟨l₁, hl.symm⟩⟩)

theorem Inv.ways_insert (h : Inv net bound T root W s) (hs : s.stack = f :: fs)
    (hway : net.Way root (v :: f.node :: fs.map (·.node))) (hbudget : f.budget ≠ some 0)
    (hvisited : v ∉ s.visited) :
    net.Ways bound root (insert (v :: f.node :: fs.map (·.node)) W) where
  way p hp := by
    rcases Set.mem_insert_iff.mp hp with rfl | hp
    · exact hway
    · exact h.ways.way p hp
  length_le p hp n hn := by
    rcases Set.mem_insert_iff.mp hp with rfl | hp
    · rw [h.budget_eq hs, hn, Option.map_some, ne_eq, Option.some.injEq] at hbudget
      simp only [List.length_cons, List.length_map]
      omega
    · exact h.ways.length_le p hp n hn
  suffix p hp w q hq := by
    rcases Set.mem_insert_iff.mp hp with rfl | hp
    · rcases List.suffix_cons_iff.mp hq with heq | hq
      · exact Set.mem_insert_iff.mpr (Or.inl heq)
      · exact Set.mem_insert_of_mem _ (h.ways.suffix _ (h.mem_ways hs) w q hq)
    · exact Set.mem_insert_of_mem _ (h.ways.suffix p hp w q hq)
  unique w p q hp hq := by
    have hnew (r : List ν) : v :: r ∉ W := fun hr => hvisited ((h.visited v).mpr ⟨r, hr⟩)
    rcases Set.mem_insert_iff.mp hp with hp | hp <;> rcases Set.mem_insert_iff.mp hq with hq | hq
    · exact (List.cons.inj (hp.trans hq.symm)).2
    · exact absurd ((List.cons.inj hp).1 ▸ hq) (hnew q)
    · exact absurd ((List.cons.inj hq).1 ▸ hp) (hnew p)
    · exact h.ways.unique w p q hp hq

theorem Inv.expand (h : Inv net bound T root W s) (hs : s.stack = f :: fs)
    (hf : f.rest = v :: rest) (he : ¬ s.recorded.contains ⟨f.node, v⟩ = true)
    (hp : net.Passable v) (hgoal : v ≠ root → ¬ net.Goal v) (hbudget : f.budget ≠ some 0)
    (hvisited : v ∉ s.visited) {out : List ν} (hout : ∀ w, w ∈ out ↔ net.Leads v w) :
    Inv net bound T root (insert (v :: s.path) W) { s with
      visited := v :: s.visited
      path := v :: s.path
      stack := ⟨v, out, f.budget.map (· - 1)⟩ :: { f with rest := rest } :: fs } := by
  obtain ⟨hin, hway⟩ := h.way_of_expands hs hf hp hgoal hvisited
  have hsub : W ⊆ insert (v :: f.node :: fs.map (·.node)) W := Set.subset_insert _ _
  rw [h.path_eq hs]
  exact {
    ways := h.ways_insert hs hway hbudget hvisited
    visited := fun w => by
      rw [List.mem_cons, h.visited]
      constructor
      · rintro (rfl | ⟨q, hq⟩)
        · exact ⟨_, Set.mem_insert _ _⟩
        · exact ⟨q, hsub hq⟩
      · rintro ⟨q, hq⟩
        rcases Set.mem_insert_iff.mp hq with hq | hq
        · exact Or.inl (List.cons.inj hq).1
        · exact Or.inr ⟨q, hq⟩
    path := rfl
    stands := fun _ => Set.mem_insert _ _
    framed := by
      refine .cons (fun w hw => (hout w).mp hw) ?_ ((hs ▸ h.framed).drop hf)
      rw [h.budget_eq hs, Option.map_map]
      rfl
    kept := h.kept
    sound := fun e hR => (h.sound e hR).imp_right fun ⟨p, hp, hep⟩ => ⟨p, hp.mono hsub, hep⟩
    done := fun u q t hq hl => by
      rcases Set.mem_insert_iff.mp hq with hq | hq
      · obtain ⟨rfl, rfl⟩ := List.cons.inj hq
        exact Or.inl ⟨_, List.mem_cons_self, rfl, (hout t).mpr hl⟩
      · rcases h.done_or_next hs hf hq hl with ⟨g, hg, hgt⟩ | hset | ⟨rfl, rfl, rfl⟩
        · exact Or.inl ⟨g, List.mem_cons_of_mem _ hg, hgt⟩
        · exact Or.inr (hset.mono hsub fun e he => he)
        · refine Or.inr ⟨?_, fun _ _ => Or.inr ⟨_, Set.mem_insert _ _⟩⟩
          rintro (hg | hT)
          · exact absurd hg.1 hin.2
          · exact absurd (h.kept _ hT) he }

end

/-- The path on which a search stands, if it still stands somewhere. -/
def here (s : Search ν) : Set (List ν) := {p | s.stack ≠ [] ∧ p = s.path}

theorem Inv.union_here (h : Inv net bound T root W s) : W ∪ s.here = W := by
  refine Set.union_eq_left.mpr fun p hp => ?_
  rw [hp.2]
  exact h.stands hp.1

theorem Inv.turn (h : Inv net bound T root W s) (hs : s.stack ≠ []) :
    Inv net bound T root (W ∪ (s.turn net root).here) (s.turn net root) := by
  -- Only a turn that expands a node makes a new way.
  suffices hturn : Inv net bound T root W (s.turn net root) ∨
      Inv net bound T root (insert (s.turn net root).path W) (s.turn net root) ∧
        (s.turn net root).stack ≠ [] by
    rcases hturn with hold | ⟨hnew, hne⟩
    · rwa [hold.union_here]
    · have hhere : (s.turn net root).here = {(s.turn net root).path} := by
        ext p
        simp [here, hne]
      rwa [hhere, Set.union_singleton]
  obtain ⟨f, fs, hstack⟩ := List.exists_cons_of_ne_nil hs
  cases hf : f.rest with
  | nil =>
      left
      have hpop := h.pop hstack hf
      simpa [Search.turn, hstack, hf] using hpop
  | cons v rest =>
      by_cases he : s.recorded.contains ⟨f.node, v⟩ = true
      · left
        have hlead := h.lead hstack hf he
        simpa [Search.turn, hstack, hf, he, record] using hlead
      · cases harr : net.arrive root s.visited f.budget v with
        | stuck =>
            left
            obtain ⟨hgoal, hvisited⟩ := stuck_of_arrive harr
            have hstuck := h.stuck hstack hf he hgoal hvisited
            simpa [Search.turn, hstack, hf, he, enter, harr] using hstuck
        | found =>
            left
            have hfound := h.found hstack hf (goal_of_arrive harr)
            simpa [Search.turn, hstack, hf, he, enter, harr, record] using hfound
        | expand out =>
            right
            obtain ⟨hp, hgoal, hbudget, hvisited, hout⟩ := expands_of_arrive harr
            have hexpand := h.expand hstack hf he hp hgoal hbudget hvisited hout
            simpa [Search.turn, hstack, hf, he, enter, harr] using hexpand

/-! ## The whole search -/

theorem mem_ways_iff (hs : s.stack ≠ []) {p : List ν} :
    p ∈ s.ways net root ↔ p = s.path ∨ p ∈ (s.turn net root).ways net root := by
  rw [ways, dif_neg hs, List.mem_cons]

theorem here_subset_ways (s : Search ν) : s.here ⊆ {p | p ∈ s.ways net root} := by
  rintro p ⟨hs, hp⟩
  exact (mem_ways_iff hs).mpr (Or.inl hp)

theorem Inv.run (h : Inv net bound T root W s) :
    Inv net bound T root (W ∪ {p | p ∈ s.ways net root}) (s.run net root) := by
  fun_induction Search.run net root s generalizing W with
  | case1 s hs =>
      rw [Search.ways, dif_pos hs]
      simpa using h
  | case2 s hs ih =>
      -- The path before a turn is a way already, the path after it is one of the ways to come.
      have hturn := ih (h.turn hs)
      rw [Set.union_assoc, Set.union_eq_right.mpr (here_subset_ways _)] at hturn
      have hways : W ∪ {p | p ∈ s.ways net root} =
          W ∪ {p | p ∈ (s.turn net root).ways net root} := by
        ext p
        simp only [Set.mem_union, Set.mem_ofPred_eq, mem_ways_iff hs]
        constructor
        · rintro (hp | rfl | hp)
          · exact Or.inl hp
          · exact Or.inl (h.stands hs)
          · exact Or.inr hp
        · rintro (hp | hp)
          · exact Or.inl hp
          · exact Or.inr (Or.inr hp)
      rw [hways]
      exact hturn

theorem stack_run (s : Search ν) : (s.run net root).stack = [] := by
  fun_induction Search.run net root s with
  | case1 s hs => exact hs
  | case2 s hs ih => exact ih

theorem inv_idle (net : Network ν) (bound : Option Nat) (T : OrderedSet (Edge ν)) (root : ν) :
    Inv net bound T root ∅ ⟨T, [], [], []⟩ where
  ways := ⟨fun _ hp => hp.elim, fun _ hp => hp.elim, fun _ hp => hp.elim, fun _ _ _ hp => hp.elim⟩
  visited := by simp
  path := rfl
  stands hs := absurd rfl hs
  framed := .nil
  kept _ he := he
  sound _ he := Or.inl he
  done _ _ _ hp := hp.elim

theorem inv_root (hp : net.Passable root) (hbound : bound ≠ some 0) {out : List ν}
    (hout : ∀ w, w ∈ out ↔ net.Leads root w) :
    Inv net bound T root {[root]} ⟨T, [root], [root], [⟨root, out, bound.map (· - 1)⟩]⟩ where
  ways := {
    way := fun p hmem => hmem ▸ .root hp
    length_le := fun p hmem n hn => by
      have hn0 : n ≠ 0 := fun h0 => hbound (h0 ▸ hn)
      rw [hmem, List.length_singleton]
      omega
    suffix := fun p hmem v q hq => by
      rw [hmem] at hq
      rcases List.suffix_cons_iff.mp hq with heq | hnil
      · exact heq
      · cases List.suffix_nil.mp hnil
    unique := fun v p q hp hq => (List.cons.inj (hp.trans hq.symm)).2 }
  visited := by simp
  path := rfl
  stands _ := rfl
  framed := .cons (fun w hw => (hout w).mp hw) rfl .nil
  kept _ he := he
  sound _ he := Or.inl he
  done u q t hq hl := by
    obtain ⟨rfl, rfl⟩ := List.cons.inj (Set.mem_singleton_iff.mp hq)
    exact Or.inl ⟨_, List.mem_cons_self, rfl, (hout t).mpr hl⟩

/-- At its start a search stands on its root or nowhere. -/
theorem inv_start (net : Network ν) (bound : Option Nat) (T : OrderedSet (Edge ν)) (root : ν) :
    Inv net bound T root (start net root bound T).here (start net root bound T) ∧
      (net.Passable root → bound ≠ some 0 → (start net root bound T).here = {[root]}) := by
  cases harr : net.arrive root [] bound root with
  | stuck =>
      have hstart : start net root bound T = ⟨T, [], [], []⟩ := by
        simp [start, enter, harr]
      have hhere : (⟨T, [], [], []⟩ : Search ν).here = ∅ := by simp [here]
      rw [hstart, hhere]
      refine ⟨inv_idle net bound T root, fun hp hb => ?_⟩
      exact absurd ((stuck_of_arrive harr).2 hp hb) List.not_mem_nil
  | found => exact absurd rfl (goal_of_arrive harr).2
  | expand out =>
      obtain ⟨hp, -, hbound, -, hout⟩ := expands_of_arrive harr
      have hstart : start net root bound T =
          ⟨T, [root], [root], [⟨root, out, bound.map (· - 1)⟩]⟩ := by
        simp [start, enter, harr]
      have hhere : (⟨T, [root], [root], [⟨root, out, bound.map (· - 1)⟩]⟩ : Search ν).here =
          {[root]} := by simp [here]
      rw [hstart, hhere]
      exact ⟨inv_root hp hbound hout, fun _ _ => rfl⟩

end Search

namespace Network

variable {net : Network ν} {bound : Option Nat} {T : OrderedSet (Edge ν)} {root u v : ν}
  {q : List ν}

theorem inv_run (net : Network ν) (bound : Option Nat) (T : OrderedSet (Edge ν)) (root : ν) :
    Search.Inv net bound T root {p | p ∈ net.ways bound T root}
      ((Search.start net root bound T).run net root) := by
  have hrun := (Search.inv_start net bound T root).1.run
  rwa [Set.union_eq_right.mpr (Search.here_subset_ways _)] at hrun

theorem ways_ways (net : Network ν) (bound : Option Nat) (T : OrderedSet (Edge ν)) (root : ν) :
    net.Ways bound root {p | p ∈ net.ways bound T root} := (inv_run net bound T root).ways

theorem root_mem_ways (hp : net.Passable root) (hb : bound ≠ some 0) :
    [root] ∈ net.ways bound T root := by
  apply Search.here_subset_ways
  rw [(Search.inv_start net bound T root).2 hp hb]
  rfl

theorem settled_of_mem_ways (hq : u :: q ∈ net.ways bound T root) (hl : net.Leads u v) :
    Search.Settled net bound T root {p | p ∈ net.ways bound T root}
      (net.searchFrom bound T root) u v q := by
  rcases (inv_run net bound T root).done u q v hq hl with ⟨f, hf, -⟩ | hset
  · rw [Search.stack_run] at hf
    cases hf
  · exact hset

/-- The search from `root` completes the path. -/
def Finds (net : Network ν) (bound : Option Nat) (T : OrderedSet (Edge ν)) (root : ν)
    (p : List ν) : Prop :=
  net.Completes T root {q | q ∈ net.ways bound T root} p

/-- A search adds the edges of the paths that it completes. -/
theorem contains_searchFrom_iff {e : Edge ν} :
    (net.searchFrom bound T root).contains e = true ↔
      T.contains e = true ∨ ∃ p, net.Finds bound T root p ∧ e ∈ Edge.ofPathBack p := by
  constructor
  · exact (inv_run net bound T root).sound e
  · rintro (he | ⟨p, ⟨v, u, q, rfl, hq, hl, ha⟩, he⟩)
    · exact (inv_run net bound T root).kept e he
    · exact (settled_of_mem_ways hq hl).records ha e he

end Network

end Landscape
