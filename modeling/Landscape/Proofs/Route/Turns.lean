import Landscape.Proofs.Graph
import Landscape.Proofs.Route.Ways
import Mathlib

namespace Landscape

/-!
# The turns of a search

A turn tries one edge of the node last reached, or leaves the node. So a search takes one turn for
each node that it expands and one for each edge of such a node, on cyclic graphs as on others.
Before every turn the path and the stack hold the same nodes, and each budget is what the nodes on
the stack have left of the bound.
-/

variable {ν : Type} [DecidableEq ν] [Key ν]

namespace Network

variable {net : Network ν} {root v : ν} {visited out : List ν} {budget : Option Nat}

/-- How many edges lead on from a node. -/
def outDegree (net : Network ν) (v : ν) : Nat := (net.stations.get? v).elim 0 fun s => s.out.length

/-- The nodes and their edges, counted together. -/
def weight (net : Network ν) (vs : List ν) : Nat := vs.length + (vs.map net.outDegree).sum

theorem weight_cons (net : Network ν) (v : ν) (vs : List ν) :
    net.weight (v :: vs) = net.outDegree v + 1 + net.weight vs := by
  simp only [weight, List.length_cons, List.map_cons, List.sum_cons]
  omega

theorem length_of_arrive (h : net.arrive root visited budget v = .expand out) :
    out.length = net.outDegree v := by
  unfold arrive at h
  unfold outDegree
  split at h
  · cases h
  · rename_i s hs
    rw [hs]
    split_ifs at h
    cases h
    rfl

end Network

namespace Search

open Network

variable {net : Network ν} {bound : Option Nat} {T : OrderedSet (Edge ν)} {root : ν}
  {s : Search ν} {f : Frame ν} {frames : List (Frame ν)}

/-! ## One turn -/

omit [DecidableEq ν] [Key ν] in
theorem pending_cons (v : ν) (rest : List ν) (budget : Option Nat) (frames : List (Frame ν)) :
    pending (⟨v, rest, budget⟩ :: frames) = rest.length + 1 + pending frames := rfl

omit [DecidableEq ν] [Key ν] in
theorem pending_eq_zero_iff : pending frames = 0 ↔ frames = [] := by
  cases frames with
  | nil => exact iff_of_true rfl rfl
  | cons f frames => exact iff_of_false (by simp [pending]) (List.cons_ne_nil f frames)

theorem turn_of_stack_eq_nil (h : s.stack = []) : s.turn net root = s := by
  simp only [turn, h]

/-- A turn takes one edge or one node off what is pending, or it expands a node that was not visited
before. -/
theorem turn_cases (net : Network ν) (root : ν) (hs : s.stack ≠ []) :
    (s.turn net root).visited = s.visited ∧ (s.turn net root).path.length ≤ s.path.length ∧
        pending (s.turn net root).stack + 1 = pending s.stack ∨
      ∃ v, v ∉ s.visited ∧ (s.turn net root).visited = v :: s.visited ∧
        (s.turn net root).path = v :: s.path ∧
        pending (s.turn net root).stack = pending s.stack + net.outDegree v := by
  obtain ⟨⟨node, rest, budget⟩, frames, hstack⟩ := List.exists_cons_of_ne_nil hs
  cases rest with
  | nil =>
      have hturn : s.turn net root = { s with path := s.path.tail, stack := frames } := by
        simp only [turn, hstack]
      rw [hturn, hstack, pending_cons]
      refine .inl ⟨rfl, ?_, Nat.add_comm ..⟩
      rw [List.length_tail]
      exact Nat.sub_le _ _
  | cons v rest =>
      have hpending : pending (⟨node, v :: rest, budget⟩ :: frames) =
          pending (⟨node, rest, budget⟩ :: frames) + 1 := by
        rw [pending_cons, pending_cons, List.length_cons]
        omega
      rw [hstack, hpending]
      by_cases hlead : s.recorded.contains ⟨node, v⟩ = true
      · have hturn : s.turn net root =
            { s with stack := ⟨node, rest, budget⟩ :: frames }.record s.path := by
          simp only [turn, hstack, hlead, if_true, record]
        rw [hturn]
        exact .inl ⟨rfl, Nat.le_refl _, rfl⟩
      · have hturn : s.turn net root = enter net root
            { s with stack := ⟨node, rest, budget⟩ :: frames } budget v (v :: s.path) := by
          simp only [turn, hstack, hlead, Bool.false_eq_true, if_false]
        rw [hturn, enter]
        cases harr : net.arrive root s.visited budget v with
        | stuck => exact .inl ⟨rfl, Nat.le_refl _, rfl⟩
        | found => exact .inl ⟨rfl, Nat.le_refl _, rfl⟩
        | expand out =>
            obtain ⟨-, -, -, hvisited, -⟩ := expands_of_arrive harr
            have hout : pending (⟨v, out, budget.map (· - 1)⟩ :: ⟨node, rest, budget⟩ :: frames) =
                out.length + 1 + pending (⟨node, rest, budget⟩ :: frames) := pending_cons ..
            refine .inr ⟨v, hvisited, rfl, rfl, hout.trans ?_⟩
            rw [← length_of_arrive harr]
            omega

/-- Whatever a turn adds to the visited nodes it adds to what is pending, and takes one off. -/
theorem pending_turn (net : Network ν) (root : ν) (hs : s.stack ≠ []) :
    pending (s.turn net root).stack + 1 + net.weight s.visited =
      pending s.stack + net.weight (s.turn net root).visited := by
  rcases turn_cases net root hs with ⟨hvisited, -, hpending⟩ | ⟨v, -, hvisited, -, hpending⟩
  · rw [hvisited, hpending]
  · rw [hvisited, hpending, weight_cons]
    omega

theorem nodup_visited_turn (net : Network ν) (root : ν) (h : s.visited.Nodup) :
    (s.turn net root).visited.Nodup := by
  by_cases hs : s.stack = []
  · rw [turn_of_stack_eq_nil hs]
    exact h
  · rcases turn_cases net root hs with ⟨hvisited, -, -⟩ | ⟨v, hv, hvisited, -, -⟩
    · rw [hvisited]
      exact h
    · rw [hvisited]
      exact List.nodup_cons.mpr ⟨hv, h⟩

/-! ## All turns -/

/-- The search after a number of turns. -/
def after (net : Network ν) (root : ν) (s : Search ν) (j : Nat) : Search ν := (turn net root)^[j] s

theorem after_succ (net : Network ν) (root : ν) (s : Search ν) (j : Nat) :
    s.after net root (j + 1) = (s.after net root j).turn net root :=
  Function.iterate_succ_apply' _ _ _

theorem after_of_stack_eq_nil (hs : s.stack = []) (j : Nat) : s.after net root j = s :=
  Function.iterate_fixed (turn_of_stack_eq_nil hs) j

/-- Until it stands nowhere, a search does as many turns as nodes and edges are done with. -/
theorem pending_after (h : pending s.stack = net.weight s.visited) {j : Nat}
    (hj : ∀ i < j, (s.after net root i).stack ≠ []) :
    pending (s.after net root j).stack + j = net.weight (s.after net root j).visited := by
  induction j with
  | zero => exact h
  | succ j ih =>
      have hturn := pending_turn net root (hj j (Nat.lt_succ_self j))
      have hold := ih fun i hi => hj i (Nat.lt_succ_of_lt hi)
      rw [after_succ]
      omega

theorem exists_after_eq_run (net : Network ν) (root : ν) (s : Search ν) :
    ∃ k, s.after net root k = s.run net root ∧ ∀ j < k, (s.after net root j).stack ≠ [] := by
  fun_induction Search.run net root s with
  | case1 s hs => exact ⟨0, rfl, fun j hj => absurd hj (Nat.not_lt_zero j)⟩
  | case2 s hs ih =>
      obtain ⟨k, hk, hbefore⟩ := ih
      refine ⟨k + 1, hk, fun j hj => ?_⟩
      cases j with
      | zero => exact hs
      | succ j => exact hbefore j (Nat.lt_of_succ_lt_succ hj)

/-- A search is over after just as many turns as it expands nodes and these have edges. -/
theorem stack_after_eq_nil_iff (h : pending s.stack = net.weight s.visited) (j : Nat) :
    ((s.after net root j).stack = [] ↔ net.weight (s.run net root).visited ≤ j) ∧
      s.after net root (net.weight (s.run net root).visited) = s.run net root := by
  obtain ⟨k, hk, hbefore⟩ := exists_after_eq_run net root s
  have hweight : net.weight (s.run net root).visited = k := by
    have hcount := pending_after h hbefore
    rw [hk, pending_eq_zero_iff.mpr (stack_run s), Nat.zero_add] at hcount
    exact hcount.symm
  rw [hweight]
  refine ⟨⟨fun hj => Nat.le_of_not_lt fun hlt => hbefore j hlt hj, fun hj => ?_⟩, hk⟩
  obtain ⟨i, rfl⟩ := Nat.exists_eq_add_of_le' hj
  have hsplit : s.after net root (i + k) = (s.after net root k).after net root i :=
    Function.iterate_add_apply _ _ _ _
  rw [hsplit, hk, after_of_stack_eq_nil (stack_run s)]
  exact stack_run s

theorem nodup_visited_after (h : s.visited.Nodup) (j : Nat) :
    (s.after net root j).visited.Nodup := by
  induction j with
  | zero => exact h
  | succ j ih =>
      rw [after_succ]
      exact nodup_visited_turn net root ih

/-- The path grows only by nodes that are expanded, for the first time. -/
theorem visited_of_path_eq_cons {j : Nat} {v : ν}
    (h : (s.after net root (j + 1)).path = v :: (s.after net root j).path) :
    v ∉ (s.after net root j).visited ∧
      (s.after net root (j + 1)).visited = v :: (s.after net root j).visited := by
  rw [after_succ] at h ⊢
  have hlength := congrArg List.length h
  rw [List.length_cons] at hlength
  by_cases hs : (s.after net root j).stack = []
  · rw [turn_of_stack_eq_nil hs] at hlength
    omega
  · rcases turn_cases net root hs with ⟨-, hle, -⟩ | ⟨w, hw, hvisited, hpath, -⟩
    · omega
    · obtain rfl : v = w := (List.cons.inj (h.symm.trans hpath)).1
      exact ⟨hw, hvisited⟩

/-! ## The invariant between turns -/

/-- At its start a search has all to do that it has visited. -/
theorem pending_start (net : Network ν) (root : ν) (bound : Option Nat) (T : OrderedSet (Edge ν)) :
    pending (start net root bound T).stack = net.weight (start net root bound T).visited ∧
      (start net root bound T).visited.Nodup := by
  unfold start enter
  cases harr : net.arrive root [] bound root with
  | stuck => exact ⟨rfl, List.nodup_nil⟩
  | found => exact ⟨rfl, List.nodup_nil⟩
  | expand out =>
      refine ⟨?_, List.nodup_singleton root⟩
      rw [weight_cons, ← length_of_arrive harr]
      rfl

theorem exists_inv_after (net : Network ν) (root : ν) (bound : Option Nat)
    (T : OrderedSet (Edge ν)) (j : Nat) :
    ∃ W, Inv net bound T root W ((start net root bound T).after net root j) := by
  induction j with
  | zero => exact ⟨_, (inv_start net bound T root).1⟩
  | succ j ih =>
      obtain ⟨W, h⟩ := ih
      rw [after_succ]
      by_cases hs : ((start net root bound T).after net root j).stack = []
      · rw [turn_of_stack_eq_nil hs]
        exact ⟨W, h⟩
      · exact ⟨_, h.turn hs⟩

theorem Framed.budget_eq (h : Framed net bound frames) {fs : List (Frame ν)}
    (hf : f :: fs <:+ frames) : f.budget = bound.map (· - (fs.length + 1)) := by
  induction h with
  | nil => cases List.suffix_nil.mp hf
  | cons _ hbudget _ ih =>
      rcases List.suffix_cons_iff.mp hf with heq | hf
      · obtain ⟨rfl, rfl⟩ := List.cons.inj heq
        exact hbudget
      · exact ih hf

/-- The budget of a frame and the frames up to it make up the bound: nothing was taken from a budget
that was used up. -/
theorem Inv.budget_add_eq {W : Set (List ν)} (h : Inv net bound T root W s) {fs : List (Frame ν)}
    (hf : f :: fs <:+ s.stack) : f.budget.map (· + (fs.length + 1)) = bound := by
  rw [h.framed.budget_eq hf]
  cases hbound : bound with
  | none => rfl
  | some n =>
      have hstands : s.path ∈ W := h.stands fun hnil => by
        rw [hnil, List.suffix_nil] at hf
        cases hf
      have hpath : s.path.length ≤ n := h.ways.length_le _ hstands n hbound
      have hle := hf.length_le
      rw [h.path, List.length_map] at hpath
      rw [List.length_cons] at hle
      rw [Option.map_some, Option.map_some, Nat.sub_add_cancel (Nat.le_trans hle hpath)]

end Search

namespace Graph

variable {g : Graph}

/-- How many dependencies of the project resolve. -/
def outDegree (g : Graph) (i : ProjectId) : Nat :=
  (g.get? i).elim 0 fun p => (g.dependencies p .all).length

/-- How many dependencies the project stores, those on missing projects included. -/
def storedDegree (g : Graph) (i : ProjectId) : Nat :=
  (g.get? i).elim 0 fun p => p.dependencies.size

theorem outDegree_network (g : Graph) (dest : ProjectTest) (i : ProjectId) :
    (g.network dest).outDegree i = g.outDegree i := by
  rw [Network.outDegree, network, Map.get?_mapValues]
  unfold outDegree get?
  cases g.projects.get? i with
  | none => rfl
  | some p => exact List.length_map ..

theorem outDegree_le_storedDegree (g : Graph) (i : ProjectId) :
    g.outDegree i ≤ g.storedDegree i := by
  unfold outDegree storedDegree
  cases g.get? i with
  | none => exact Nat.le_refl _
  | some p =>
      simp only [Option.elim_some, dependencies, List.length_mergeSort]
      refine Nat.le_trans (List.length_filterMap_le _ _) (Nat.le_of_eq ?_)
      rw [Map.values, List.length_map]
      rfl

/-- From any root, table and bound, and on any graph, the search is over after just as many turns as
it expands projects and these have dependencies that resolve, which are at most those that they
store. Before every turn the path holds the nodes of the stack, in their order; a project that is
put on it was not expanded before and is marked by the same turn, so that none is expanded twice;
and the budget of a frame, with one for each frame up to it, makes up the bound, so that no budget
is taken from below zero. -/
theorem search_turns (g : Graph) (dest : ProjectTest) (root : ProjectId) (bound : Option Nat)
    (T : OrderedSet (Edge ProjectId)) :
    let net := g.network dest
    let s (j : Nat) := (Search.start net root bound T).after net root j
    let final := (Search.start net root bound T).run net root
    let turns := final.visited.length + (final.visited.map g.outDegree).sum
    ((∀ j, (s j).stack = [] ↔ turns ≤ j) ∧ s turns = final ∧
        final.recorded = net.searchFrom bound T root ∧
        turns ≤ final.visited.length + (final.visited.map g.storedDegree).sum) ∧
      (∀ j, (s j).path = (s j).stack.map (·.node)) ∧
      (final.visited.Nodup ∧ ∀ j v, (s (j + 1)).path = v :: (s j).path →
        v ∉ (s j).visited ∧ (s (j + 1)).visited = v :: (s j).visited) ∧
      ∀ j f fs, f :: fs <:+ (s j).stack → f.budget.map (· + (fs.length + 1)) = bound := by
  intro net s final turns
  obtain ⟨hpending, hnodup⟩ := Search.pending_start net root bound T
  have hturns : turns = net.weight final.visited := by
    have hdegree : g.outDegree = net.outDegree := funext fun i => (g.outDegree_network dest i).symm
    rw [Network.weight, ← hdegree]
  have hfinal : s turns = final := by
    rw [hturns]
    exact (Search.stack_after_eq_nil_iff hpending 0).2
  refine ⟨⟨fun j => ?_, hfinal, rfl, ?_⟩, fun j => ?_, ⟨?_, fun j v => ?_⟩, fun j f fs hf => ?_⟩
  · rw [hturns]
    exact (Search.stack_after_eq_nil_iff hpending j).1
  · exact Nat.add_le_add_left (List.sum_le_sum fun i _ => g.outDegree_le_storedDegree i) _
  · obtain ⟨W, h⟩ := Search.exists_inv_after net root bound T j
    exact h.path
  · rw [← hfinal]
    exact Search.nodup_visited_after hnodup turns
  · exact Search.visited_of_path_eq_cons
  · obtain ⟨W, h⟩ := Search.exists_inv_after net root bound T j
    exact h.budget_add_eq hf

/-- Where `web` and `core` depend on each other and `core` on itself, the search from `web` expands
two projects with three edges. The first turn puts `core` on the path, with two less than the bound
for what follows. -/
theorem search_turns_of_cycle :
    let rs : List ProjectRecord := [.code "web" ["core"], .code "core" ["core", "web"]]
    let s (g : Graph) (j : Nat) := (Search.start (g.network (.id ⟨9⟩)) ⟨1⟩ (some 7) ∅).after
      (g.network (.id ⟨9⟩)) ⟨1⟩ j
    ∃ g, Graph.ofRecords rs = .ok g ∧
      (s g 1).stack.map (fun f => (f.node, f.budget)) = [(⟨2⟩, some 5), (⟨1⟩, some 6)] ∧
      (s g 1).path = ⟨2⟩ :: (s g 0).path ∧ ⟨2⟩ ∉ (s g 0).visited ∧
      (s g 1).visited = ⟨2⟩ :: (s g 0).visited ∧
      (∀ j, (s g j).stack = [] ↔ 5 ≤ j) ∧
      ∀ f fs, f :: fs <:+ (s g 1).stack → f.budget.map (· + (fs.length + 1)) = some 7 := by
  intro rs s
  have hsearch (g : Graph) (hpath : (s g 1).path = ⟨2⟩ :: (s g 0).path)
      (hturns : ((Search.start (g.network (.id ⟨9⟩)) ⟨1⟩ (some 7) ∅).run (g.network (.id ⟨9⟩))
        ⟨1⟩).visited.map g.outDegree = [2, 1]) :
      (s g 1).path = ⟨2⟩ :: (s g 0).path ∧ ⟨2⟩ ∉ (s g 0).visited ∧
        (s g 1).visited = ⟨2⟩ :: (s g 0).visited ∧ (∀ j, (s g j).stack = [] ↔ 5 ≤ j) ∧
        ∀ f fs, f :: fs <:+ (s g 1).stack → f.budget.map (· + (fs.length + 1)) = some 7 := by
    obtain ⟨⟨hend, -⟩, -, ⟨-, hnew⟩, hbudgets⟩ := search_turns g (.id ⟨9⟩) ⟨1⟩ (some 7) ∅
    obtain ⟨hvisited, hmarked⟩ := hnew 0 ⟨2⟩ hpath
    have hlength := congrArg List.length hturns
    rw [List.length_map] at hlength
    rw [hturns, hlength] at hend
    exact ⟨hpath, hvisited, hmarked, hend, hbudgets 1⟩
  refine ⟨_, by cbv, ?_, hsearch _ ?_ ?_⟩
  · dsimp only [s]
    cbv
  · dsimp only [s]
    cbv
  · cbv

end Graph

end Landscape
