import Mathlib
import Landscape.Proofs.Graph.Loading
import Landscape.Proofs.Route.Table
import Landscape.Route.Basic

namespace Landscape

/-!
# The edges of a route

A route asks for the paths from projects that pass its first test to projects that pass its
second. What it records lies on such paths.
-/

/-! ## A graph as a network -/

namespace Graph

variable {g : Graph} {dest : ProjectTest} {u v : ProjectId}

theorem get?_stations (g : Graph) (dest : ProjectTest) (i : ProjectId) :
    (g.network dest).stations.get? i = (g.get? i).map (g.station dest) :=
  Map.get?_mapValues _ _ _

theorem passable_iff : (g.network dest).Passable u ↔
    g.Has u fun p => p.ignored = false ∧ p.isExternal = false := by
  simp [Network.Passable, get?_stations, Has, station]

theorem goal_iff : (g.network dest).Goal u ↔
    g.Has u fun p => p.ignored = false ∧ dest.holds p = true := by
  simp [Network.Goal, get?_stations, Has, station]

theorem inner_iff : (g.network dest).Inner u ↔
    g.Has u fun p => p.ignored = false ∧ p.isExternal = false ∧ dest.holds p = false := by
  rw [Network.Inner, passable_iff, goal_iff]
  constructor
  · rintro ⟨⟨p, hp, hi, he⟩, hg⟩
    refine ⟨p, hp, hi, he, ?_⟩
    cases hd : dest.holds p with
    | false => rfl
    | true => exact absurd ⟨p, hp, hi, hd⟩ hg
  · rintro ⟨p, hp, hi, he, hd⟩
    refine ⟨⟨p, hp, hi, he⟩, ?_⟩
    rintro ⟨q, hq, -, hd'⟩
    rw [Option.mem_unique hq hp, hd] at hd'
    cases hd'

theorem leads_iff (hg : g.FiledById) : (g.network dest).Leads u v ↔ g.DependsOn u v := by
  have hout (p : Project) : (v ∈ (g.dependencies p .all).map fun l => l.target.id) ↔
      (g.get? v).isSome ∧ ∃ d ∈ p.dependencies.values, d.target = v := by
    constructor
    · intro hv
      obtain ⟨l, hl, hlv⟩ := List.mem_map.mp hv
      obtain ⟨d, hd, ht⟩ := mem_dependencies_iff.mp ⟨l, hl, rfl⟩
      have hdv : d.target = v := by rw [← hlv, hg _ _ ht]
      exact ⟨by rw [← hdv, ht]; rfl, d, hd, hdv⟩
    · rintro ⟨hv, d, hd, rfl⟩
      obtain ⟨t, ht⟩ := Option.isSome_iff_exists.mp hv
      obtain ⟨l, hl, rfl⟩ := mem_dependencies_iff.mpr ⟨d, hd, ht⟩
      exact List.mem_map.mpr ⟨l, hl, hg _ _ ht⟩
  simp only [Network.Leads, get?_stations, DependsOn, Has, Option.mem_def, ← hout]
  constructor
  · rintro ⟨s, hs, hv⟩
    obtain ⟨p, hp, rfl⟩ := Option.map_eq_some_iff.mp hs
    exact ⟨p, hp, hv⟩
  · rintro ⟨p, hp, hv⟩
    exact ⟨_, Option.map_eq_some_iff.mpr ⟨p, hp, rfl⟩, hv⟩

/-- A path that a route asks for: from `r`, a source of the route, over inner projects to `z`. -/
structure Selects (g : Graph) (t : RouteText) (r : ProjectId) (inner : List ProjectId)
    (z : ProjectId) : Prop where
  source : g.Has r fun p => p.ignored = false ∧ p.isExternal = false ∧ t.source.holds p = true
  passed : ∀ x ∈ inner,
    g.Has x fun p => p.ignored = false ∧ p.isExternal = false ∧ t.dest.holds p = false
  goal : g.Has z fun p => p.ignored = false ∧ t.dest.holds p = true
  chain : (r :: (inner ++ [z])).IsChain g.DependsOn

instance {g : Graph} {t : RouteText} {r : ProjectId} {inner : List ProjectId} {z : ProjectId} :
    Decidable (g.Selects t r inner z) :=
  decidable_of_iff
    ((g.Has r fun p => p.ignored = false ∧ p.isExternal = false ∧ t.source.holds p = true) ∧
      (∀ x ∈ inner,
        g.Has x fun p => p.ignored = false ∧ p.isExternal = false ∧ t.dest.holds p = false) ∧
      (g.Has z fun p => p.ignored = false ∧ t.dest.holds p = true) ∧
      (r :: (inner ++ [z])).IsChain g.DependsOn)
    ⟨fun h => ⟨h.1, h.2.1, h.2.2.1, h.2.2.2⟩, fun h => ⟨h.source, h.passed, h.goal, h.chain⟩⟩

end Graph

namespace Route

variable {g : Graph} {t : RouteText}

/-- A route that can be read is the one that its text writes, searched in the graph. -/
theorem exists_of_ofText_eq_ok {policy : Policy} {usual : Option Nat} {rule : List Char}
    {r : Route} (h : ofText g policy usual rule = .ok r) :
    ∃ t, RouteText.ofText usual rule = .ok t ∧
      r = resolve g policy (String.ofList (Text.trim rule)) t := by
  unfold ofText at h
  cases ht : RouteText.ofText usual rule with
  | error e => simp [ht] at h
  | ok t =>
      rw [ht] at h
      cases h
      exact ⟨t, rfl, rfl⟩

def roots (g : Graph) (t : RouteText) : List ProjectId :=
  ((g.list .owned).filter fun p => t.source.holds p).map (·.id)

theorem search_eq (g : Graph) (t : RouteText) :
    search g t = (g.network t.dest).searchAll t.bound (roots g t) := rfl

theorem mem_roots_iff (hg : g.FiledById) {r : ProjectId} :
    r ∈ roots g t ↔ g.Has r fun p => p.isExternal = false ∧ t.source.holds p = true := by
  simp only [roots, List.mem_map, List.mem_filter, Graph.mem_list_iff, ListMode.admits,
    Bool.not_eq_true']
  constructor
  · rintro ⟨p, ⟨⟨⟨i, hi⟩, he⟩, hs⟩, rfl⟩
    rw [← hg i p hi] at hi
    exact ⟨p, hi, he, hs⟩
  · rintro ⟨p, hp, he, hs⟩
    exact ⟨p, ⟨⟨⟨r, hp⟩, he⟩, hs⟩, hg r p hp⟩

/-- The touched projects are the ends of the recorded edges. -/
theorem contains_ends_iff {edges : OrderedSet (Edge ProjectId)} {x : ProjectId} :
    (ends edges).contains x = true ↔
      ∃ y, edges.contains ⟨x, y⟩ = true ∨ edges.contains ⟨y, x⟩ = true := by
  rw [ends, OrderedSet.contains_ofList]
  simp only [List.mem_flatMap, OrderedSet.mem_toList_iff]
  constructor
  · rintro ⟨⟨s, d⟩, he, hx⟩
    simp only [List.mem_cons, List.not_mem_nil, or_false] at hx
    rcases hx with rfl | rfl
    · exact ⟨d, Or.inl he⟩
    · exact ⟨s, Or.inr he⟩
  · rintro ⟨y, he | he⟩
    · exact ⟨_, he, by simp⟩
    · exact ⟨_, he, by simp⟩

/-! ## Soundness -/

/-- A recorded edge is a dependency from a project that is passed to one that is not ignored. -/
theorem dependsOn_of_contains (hg : g.FiledById) {s d : ProjectId}
    (he : (search g t).contains ⟨s, d⟩ = true) :
    g.DependsOn s d ∧ (g.Has s fun p => p.ignored = false ∧ p.isExternal = false) ∧
      g.Has d fun p => p.ignored = false := by
  obtain ⟨root, -, q, hway, -, -, hl, l, hon⟩ := Network.sound_searchAll he
  refine ⟨(Graph.leads_iff hg).mp hl, Graph.passable_iff.mp hway.passable, ?_⟩
  -- the target is a goal or an inner project on the way to one
  cases hon with
  | goal hgoal =>
      obtain ⟨p, hp, hi, -⟩ := Graph.goal_iff.mp hgoal
      exact ⟨p, hp, hi⟩
  | step hin _ _ =>
      obtain ⟨p, hp, hi, -⟩ := Graph.inner_iff.mp hin
      exact ⟨p, hp, hi⟩

theorem exists_walk_of_contains (hg : g.FiledById) {s d : ProjectId}
    (he : (search g t).contains ⟨s, d⟩ = true) :
    ∃ r inner z, g.Selects t r inner z ∧
      (r :: (inner ++ [z])).IsChain (fun u v => (search g t).contains ⟨u, v⟩ = true) ∧
      ∃ before after, r :: (inner ++ [z]) = before ++ s :: d :: after ∧
        ∀ n, t.bound = some n → before.length + 1 ≤ n := by
  obtain ⟨r, hr, inner, z, before, after, hp, hinner, hz, hw, hchain, hlen⟩ :=
    (Network.sound_searchAll he).exists_walk
  refine ⟨r, inner, z, ⟨?_, ?_, ?_, ?_⟩, hchain, before, after, hw, hlen⟩
  · obtain ⟨p, hget, hi, he⟩ := Graph.passable_iff.mp hp
    obtain ⟨p', hget', -, hs⟩ := (mem_roots_iff hg).mp hr
    obtain rfl := Option.mem_unique hget hget'
    exact ⟨p, hget, hi, he, hs⟩
  · exact fun x hx => Graph.inner_iff.mp (hinner x hx)
  · exact Graph.goal_iff.mp hz
  · exact hchain.imp fun u v huv => (dependsOn_of_contains hg huv).1

/-- In a graph whose projects are filed under their own ids, every recorded edge lies on a walk
along recorded edges that the route asks for, and the walk comes to the edge within the bound. The
ends of the recorded edges are touched, and no ignored project is. -/
theorem resolve_sound (hg : g.FiledById) (policy : Policy) (rule : String) (t : RouteText) :
    (∀ s d, (resolve g policy rule t).edges.contains ⟨s, d⟩ = true →
      g.DependsOn s d ∧ (g.Has s fun p => p.ignored = false ∧ p.isExternal = false) ∧
        (g.Has d fun p => p.ignored = false) ∧
        ∃ r inner z, g.Selects t r inner z ∧
          (r :: (inner ++ [z])).IsChain (fun u v =>
            (resolve g policy rule t).edges.contains ⟨u, v⟩ = true) ∧
          ∃ before after, r :: (inner ++ [z]) = before ++ s :: d :: after ∧
            ∀ n, t.bound = some n → before.length + 1 ≤ n) ∧
      (∀ x, (resolve g policy rule t).touched.contains x = true ↔
        ∃ y, (resolve g policy rule t).edges.contains ⟨x, y⟩ = true ∨
          (resolve g policy rule t).edges.contains ⟨y, x⟩ = true) ∧
      ∀ x, (resolve g policy rule t).touched.contains x = true →
        g.Has x fun p => p.ignored = false := by
  refine ⟨fun s d he => ?_, fun x => contains_ends_iff, fun x hx => ?_⟩
  · obtain ⟨hdep, hs, hd⟩ := dependsOn_of_contains hg he
    exact ⟨hdep, hs, hd, exists_walk_of_contains hg he⟩
  · obtain ⟨y, he | he⟩ := contains_ends_iff.mp hx
    · obtain ⟨-, ⟨p, hp, hi, -⟩, -⟩ := dependsOn_of_contains hg he
      exact ⟨p, hp, hi⟩
    · exact (dependsOn_of_contains hg he).2.2

/-- Where `web` leads over `core` to `api`, the edge from `web` to `core` lies on a path that
the route from `web` to `api` asks for. -/
theorem resolve_sound_of_two_edges :
    let rs : List ProjectRecord := [.code "web" ["core"], .code "core" ["api"], .code "api" []]
    let t : RouteText := ⟨.id ⟨1⟩, some 2, true, .id ⟨3⟩⟩
    ∃ g, Graph.ofRecords rs = .ok g ∧
      (resolve g .excluding "id:1 -2R-> id:3" t).edges.contains ⟨⟨1⟩, ⟨2⟩⟩ = true ∧
      ∃ r inner z, g.Selects t r inner z ∧
        ∃ before after, r :: (inner ++ [z]) = before ++ ⟨1⟩ :: ⟨2⟩ :: after := by
  intro rs t
  have hwalk {g : Graph} (hg : Graph.ofRecords rs = .ok g)
      (he : (resolve g .excluding "id:1 -2R-> id:3" t).edges.contains ⟨⟨1⟩, ⟨2⟩⟩ = true) :
      ∃ r inner z, g.Selects t r inner z ∧
        ∃ before after, r :: (inner ++ [z]) = before ++ ⟨1⟩ :: ⟨2⟩ :: after := by
    obtain ⟨-, -, -, r, inner, z, hsel, -, before, after, hw, -⟩ :=
      (resolve_sound (Graph.filedById_of_ofRecords hg) .excluding "id:1 -2R-> id:3" t).1 _ _ he
    exact ⟨r, inner, z, hsel, before, after, hw⟩
  refine ⟨_, by cbv, by cbv, hwalk ?_ ?_⟩
  · cbv
  · cbv

end Route

end Landscape
