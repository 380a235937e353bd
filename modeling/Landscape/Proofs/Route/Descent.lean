import Landscape.Proofs.Route.Selection

namespace Landscape

/-!
# The search as a recursion

Told without a stack, the search is a descent: at a node it stops, or it marks the node as visited
and goes on along each of its edges in their order. The search with a stack of its own leaves the
same table, whatever graph it runs in and whatever is recorded before.
-/

/-- What a descent passes on from one call to the next. -/
structure Tally where
  visited : List ProjectId
  recorded : OrderedSet (Edge ProjectId)

namespace Tally

def record (t : Tally) (path : List ProjectId) : Tally :=
  { t with recorded := t.recorded.insertAll (Edge.ofPathBack path) }

def mark (t : Tally) (i : ProjectId) : Tally := { t with visited := i :: t.visited }

end Tally

namespace Graph

/-- The projects that are not visited yet. -/
def unmarked (g : Graph) (visited : List ProjectId) : List ProjectId :=
  g.projects.keys.filter fun i => i ∉ visited

theorem length_unmarked_lt {g : Graph} {i : ProjectId} {p : Project}
    {visited visited' : List ProjectId} (hp : g.get? i = some p) (hi : i ∉ visited)
    (hsub : i :: visited ⊆ visited') :
    (g.unmarked visited').length < (g.unmarked visited).length := by
  have hcons : g.unmarked visited' = (g.unmarked visited).filter (· ∉ visited') := by
    unfold unmarked
    rw [List.filter_filter]
    refine List.filter_congr fun j _ => ?_
    simpa using fun hj hvisited => hj (hsub (List.mem_cons_of_mem i hvisited))
  have hmem : i ∈ g.unmarked visited :=
    List.mem_filter.mpr ⟨Map.mem_keys_of_get? hp, by simpa using hi⟩
  rw [hcons, List.length_filter_lt_length_iff_exists]
  exact ⟨i, hmem, by simpa using hsub List.mem_cons_self⟩

/-- The descent at `i` behind the nodes of `path`, with the fact that nodes stay visited. -/
def descend (g : Graph) (dest : ProjectTest) (root : ProjectId) (path : List ProjectId)
    (budget : Option Nat) (i : ProjectId) (t : Tally) : {u : Tally // t.visited ⊆ u.visited} :=
  match _hp : g.get? i with
  | none => ⟨t, List.Subset.refl _⟩
  | some p =>
      if p.ignored then ⟨t, List.Subset.refl _⟩
      else if i ≠ root ∧ dest.holds p then ⟨t.record (i :: path), List.Subset.refl _⟩
      else if _hstop : p.isExternal ∨ budget = some 0 ∨ i ∈ t.visited then ⟨t, List.Subset.refl _⟩
      else
        let start : {u : Tally // (t.mark i).visited ⊆ u.visited} := ⟨t.mark i, List.Subset.refl _⟩
        let final := (g.dependencies p .all).foldl (fun u k =>
          if u.1.recorded.contains ⟨i, k.target.id⟩ then ⟨u.1.record (i :: path), u.2⟩
          else
            let v := g.descend dest root (i :: path) (budget.map (· - 1)) k.target.id u.1
            ⟨v.1, List.Subset.trans u.2 v.2⟩) start
        ⟨final.1, List.Subset.trans (List.subset_cons_self i t.visited) final.2⟩
  termination_by (g.unmarked t.visited).length
  decreasing_by
    exact length_unmarked_lt _hp (fun hi => _hstop (.inr (.inr hi))) u.2

/-- Search for the goal below `i`, which is reached over the nodes of `path` and from where
`budget` edges may follow. -/
def visit (g : Graph) (dest : ProjectTest) (root : ProjectId) (path : List ProjectId)
    (budget : Option Nat) (i : ProjectId) (t : Tally) : Tally :=
  (g.descend dest root path budget i t).1

/-- Go along one edge of the node `i`, or record the path if the edge is recorded already. -/
def follow (g : Graph) (dest : ProjectTest) (root : ProjectId) (path : List ProjectId)
    (budget : Option Nat) (i : ProjectId) (t : Tally) (j : ProjectId) : Tally :=
  if t.recorded.contains ⟨i, j⟩ then t.record path else g.visit dest root path budget j t

variable (g : Graph) (dest : ProjectTest) (root : ProjectId)

theorem visit_eq (path : List ProjectId) (budget : Option Nat) (i : ProjectId) (t : Tally) :
    g.visit dest root path budget i t =
      match g.get? i with
      | none => t
      | some p =>
          if p.ignored then t
          else if i ≠ root ∧ dest.holds p then t.record (i :: path)
          else if p.isExternal ∨ budget = some 0 ∨ i ∈ t.visited then t
          else
            (g.dependencies p .all).foldl
              (fun u k => g.follow dest root (i :: path) (budget.map (· - 1)) i u k.target.id)
              (t.mark i) := by
  unfold visit descend
  split
  · rename_i hp
    simp only [hp]
  · rename_i p hp
    simp only [hp]
    split_ifs with hignored hgoal hstop
    · rfl
    · rfl
    · rfl
    · refine (List.foldl_hom Subtype.val fun u k => ?_).symm
      unfold follow visit
      split_ifs with hlead
      · rfl
      · rfl

/-- A descent sees of a project what the search with a stack sees. -/
theorem visit_eq_arrive (path : List ProjectId) (budget : Option Nat) (i : ProjectId) (t : Tally) :
    g.visit dest root path budget i t =
      match (g.network dest).arrive root t.visited budget i with
      | .stuck => t
      | .found => t.record (i :: path)
      | .expand out =>
          out.foldl (g.follow dest root (i :: path) (budget.map (· - 1)) i) (t.mark i) := by
  rw [visit_eq]
  unfold Network.arrive
  rw [get?_stations]
  cases g.get? i with
  | none => rfl
  | some p =>
      simp only [Option.map_some, station]
      split_ifs
      · rfl
      · rfl
      · rfl
      · exact List.foldl_map.symm

theorem length_unmarked_le {visited visited' : List ProjectId} (hsub : visited ⊆ visited') :
    (g.unmarked visited').length ≤ (g.unmarked visited).length := by
  refine (List.monotone_filter_right _ fun i hi => ?_).length_le
  rw [decide_eq_true_iff] at hi ⊢
  exact fun hvisited => hi (hsub hvisited)

theorem unvisited_network (visited : List ProjectId) :
    (g.network dest).unvisited visited = g.unmarked visited := by
  simp only [Network.unvisited, unmarked, network, Map.keys, Map.mapValues, List.map_map]
  rfl

theorem visited_subset_follow (path : List ProjectId) (budget : Option Nat) (i : ProjectId)
    (t : Tally) (j : ProjectId) :
    t.visited ⊆ (g.follow dest root path budget i t j).visited := by
  unfold follow
  split_ifs
  · exact List.Subset.refl _
  · exact (g.descend dest root path budget j t).2

end Graph

/-! ## The stack of a search -/

namespace Search

variable {g : Graph} {dest : ProjectTest} {root : ProjectId} {s : Search ProjectId}
  {frames : List (Frame ProjectId)}

def tally (s : Search ProjectId) : Tally := ⟨s.visited, s.recorded⟩

@[simp] theorem tally_visited (s : Search ProjectId) : s.tally.visited = s.visited := rfl

@[simp] theorem tally_recorded (s : Search ProjectId) : s.tally.recorded = s.recorded := rfl

/-- The search on the frames, with a path and a tally that it has come to. -/
def resume (t : Tally) (path : List ProjectId) (frames : List (Frame ProjectId)) :
    Search ProjectId :=
  ⟨t.recorded, t.visited, path, frames⟩

@[simp] theorem tally_resume (t : Tally) (path : List ProjectId) :
    (resume t path frames).tally = t := rfl

theorem run_of_stack_eq_nil {net : Network ProjectId} (h : s.stack = []) : s.run net root = s := by
  rw [run, dif_pos h]

theorem run_of_stack_ne_nil {net : Network ProjectId} (h : s.stack ≠ []) :
    s.run net root = (s.turn net root).run net root := by
  rw [run, dif_neg h]

/-- From the frame on top, the search goes down along each edge that is still to be tried there,
and leaves the frame. -/
def Descends (g : Graph) (dest : ProjectTest) (root : ProjectId) (s : Search ProjectId) : Prop :=
  ∀ f fs, s.stack = f :: fs → s.run (g.network dest) root =
    (resume (f.rest.foldl (g.follow dest root s.path f.budget f.node) s.tally) s.path.tail fs).run
      (g.network dest) root

theorem run_edge {node j : ProjectId} {rest : List ProjectId} {budget : Option Nat}
    (hs : s.stack = ⟨node, j :: rest, budget⟩ :: frames)
    (hbelow : ∀ s' : Search ProjectId, (g.unmarked s'.visited).length <
      (g.unmarked s.visited).length → Descends g dest root s') :
    s.run (g.network dest) root =
      (resume (g.follow dest root s.path budget node s.tally j) s.path
        (⟨node, rest, budget⟩ :: frames)).run (g.network dest) root := by
  rw [run_of_stack_ne_nil (by simp [hs]), Graph.follow]
  by_cases hlead : s.recorded.contains ⟨node, j⟩ = true
  · simp [turn, hs, hlead, record, resume, tally, Tally.record]
  · rw [tally_recorded, if_neg hlead, Graph.visit_eq_arrive, tally_visited]
    cases harr : (g.network dest).arrive root s.visited budget j with
    | stuck => simp [turn, hs, hlead, enter, harr, resume, tally]
    | found => simp [turn, hs, hlead, enter, harr, record, resume, tally, Tally.record]
    | expand out =>
        have hturn : s.turn (g.network dest) root = resume (s.tally.mark j) (j :: s.path)
            (⟨j, out, budget.map (· - 1)⟩ :: ⟨node, rest, budget⟩ :: frames) := by
          simp [turn, hs, hlead, enter, harr, resume, tally, Tally.mark]
        rw [hturn, hbelow _ ?_ _ _ rfl]
        · rfl
        · rw [← Graph.unvisited_network g dest, ← Graph.unvisited_network g dest]
          exact Network.length_unvisited_cons_lt harr

theorem descends (g : Graph) (dest : ProjectTest) (root : ProjectId) (s : Search ProjectId) :
    Descends g dest root s := by
  -- Below an edge one more node is visited; beside it there is one edge less to be tried.
  obtain ⟨n, hn⟩ : ∃ n, (g.unmarked s.visited).length ≤ n := ⟨_, Nat.le_refl _⟩
  induction n using Nat.strong_induction_on generalizing s with
  | _ n ihn =>
      rintro ⟨node, rest, budget⟩ fs hs
      induction rest generalizing s with
      | nil =>
          rw [run_of_stack_ne_nil (by simp [hs])]
          simp [turn, hs, resume, tally]
      | cons j rest ih =>
          have hbelow : ∀ s' : Search ProjectId, (g.unmarked s'.visited).length <
              (g.unmarked s.visited).length → Descends g dest root s' := fun s' hlt =>
            ihn _ (Nat.lt_of_lt_of_le hlt hn) s' (Nat.le_refl _)
          rw [run_edge hs hbelow, ih _ ?_ rfl]
          · rfl
          · exact Nat.le_trans (g.length_unmarked_le (g.visited_subset_follow ..)) hn

end Search

namespace Graph

variable (g : Graph) (dest : ProjectTest) (root : ProjectId)

theorem recorded_searchFrom (bound : Option Nat) (T : OrderedSet (Edge ProjectId)) :
    (g.network dest).searchFrom bound T root =
      (g.visit dest root [] bound root ⟨[], T⟩).recorded := by
  rw [visit_eq_arrive, Network.searchFrom, Search.start, Search.enter]
  cases (g.network dest).arrive root [] bound root with
  | stuck => rw [Search.run_of_stack_eq_nil rfl]
  | found =>
      rw [Search.run_of_stack_eq_nil rfl]
      rfl
  | expand out =>
      rw [Search.descends g dest root _ _ _ rfl, Search.run_of_stack_eq_nil rfl]
      rfl

/-- The search leaves the table of the recursive descent, from whatever table, root and bound it
begins. The descent stops at a node that is ignored; at a goal other than the root it records the
path and stops; it stops at a library, without budget and at a node that it has visited from this
root. Otherwise it marks the node, and along each edge in the order of the listing it records the
path if the edge is in the table by then, and goes on with one edge less if not. A route is the
descent from each of its roots, one after the other. -/
theorem searchFrom_eq_visit (g : Graph) :
    (∀ dest root bound T, (g.network dest).searchFrom bound T root =
      (g.visit dest root [] bound root ⟨[], T⟩).recorded) ∧
    (∀ dest root path budget i t, g.visit dest root path budget i t =
      match g.get? i with
      | none => t
      | some p =>
          if p.ignored then t
          else if i ≠ root ∧ dest.holds p then t.record (i :: path)
          else if p.isExternal ∨ budget = some 0 ∨ i ∈ t.visited then t
          else
            (g.dependencies p .all).foldl
              (fun u k =>
                if u.recorded.contains ⟨i, k.target.id⟩ then u.record (i :: path)
                else g.visit dest root (i :: path) (budget.map (· - 1)) k.target.id u)
              (t.mark i)) ∧
    ∀ t : RouteText, Route.search g t =
      ((g.list .owned).filter fun p => t.source.holds p).foldl
        (fun T p => (g.visit t.dest p.id [] t.bound p.id ⟨[], T⟩).recorded) ∅ := by
  refine ⟨fun dest root bound T => recorded_searchFrom g dest root bound T,
    fun dest root path budget i t => visit_eq g dest root path budget i t, fun t => ?_⟩
  rw [Route.search, Network.searchAll, List.foldl_map]
  congr 1
  funext T p
  exact recorded_searchFrom g t.dest p.id t.bound T

end Graph

end Landscape
