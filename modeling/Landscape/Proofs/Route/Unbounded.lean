import Landscape.Proofs.Route.Lost
import Landscape.Proofs.Route.Reach

namespace Landscape

/-!
# Routes without a bound

Without a bound the searches find every source and every destination. The edges between them
depend on what earlier searches have recorded, unless the walks from each root part and never
join again.
-/

variable {ν : Type} [DecidableEq ν] [Key ν]

namespace Network

variable {net : Network ν} {bound : Option Nat} {T : OrderedSet (Edge ν)} {root u v : ν}
  {roots : List ν}

/-! ## Walks that never join -/

/-- On the walks from the root to goals no edge leads back to the root, and each inner node is
entered along one edge. -/
structure Branches (net : Network ν) (root : ν) : Prop where
  ne_root : ∀ u v, net.Between root ⟨u, v⟩ → v ≠ root
  unique : ∀ u u' v, net.Between root ⟨u, v⟩ → net.Between root ⟨u', v⟩ → net.Inner v → u = u'

theorem Way.between {q : List ν} (h : net.Way root (u :: q)) (hl : net.Leads u v)
    (hv : net.GoalAhead v) : net.Between root ⟨u, v⟩ :=
  ⟨h.passable_root, h.reaches, hl, hv⟩

/-- The search comes to an inner node along the one edge by which it is entered. -/
theorem Branches.mem_ways (hb : net.Branches root) {q r : List ν}
    (hq : u :: q ∈ net.ways bound T root) (he : net.Between root ⟨u, v⟩) (hin : net.Inner v)
    (hr : v :: r ∈ net.ways bound T root) : v :: u :: q ∈ net.ways bound T root := by
  have hW := ways_ways net bound T root
  have hway := hW.way _ hr
  cases r with
  | nil =>
      exact absurd (List.mem_singleton.mp hway.root_mem).symm (hb.ne_root u v he)
  | cons w r =>
      have hw : w :: r ∈ net.ways bound T root := hW.suffix _ hr w r (List.suffix_cons v _)
      obtain rfl := hb.unique u w v he ((hW.way _ hw).between hway.leads he.ahead) hin
      rwa [hW.unique u q r hq hw]

/-- A search that stands on a node records each edge from there that lies between. -/
theorem Branches.contains_searchFrom (hb : net.Branches root) {q : List ν}
    (hq : u :: q ∈ net.ways none T root) (hl : net.Leads u v) (hv : net.GoalAhead v) :
    (net.searchFrom none T root).contains ⟨u, v⟩ = true := by
  have hway := (ways_ways net none T root).way
  -- Along the walk to the goal: what is recorded behind `v` is recorded with the edge to it.
  induction hv generalizing u q with
  | @goal v hg =>
      have hne := hb.ne_root u v ((hway _ hq).between hl (.goal hg))
      exact (settled_of_mem_ways hq hl).records (Or.inl ⟨hg, hne⟩) ⟨u, v⟩ (by simp)
  | @step v w hin hvw hw ih =>
      rcases (settled_of_mem_ways hq hl).expands hin (by simp [Room]) with hT | ⟨r, hr⟩
      · exact kept_of_searchFrom hT
      · have hbetween := (hway _ hq).between hl (.step hin hvw hw)
        have hmem := hb.mem_ways hq hbetween hin hr
        exact contains_of_next hmem hvw (ih hmem hvw)

/-- If the walks from each root never join, the searches record what lies between one of the
roots and a goal. -/
theorem contains_searchAll_iff_between (hb : ∀ root ∈ roots, net.Branches root) {e : Edge ν} :
    (net.searchAll none roots).contains e = true ↔ ∃ root ∈ roots, net.Between root e := by
  constructor
  · intro he
    obtain ⟨root, hroot, hbetween, -⟩ := exists_between_of_contains he
    exact ⟨root, hroot, hbetween⟩
  · rintro ⟨root, hroot, he⟩
    induction roots using List.reverseRecOn generalizing root with
    | nil => cases hroot
    | append_singleton roots last ih =>
        have hearlier := ih fun r hr => hb r (List.mem_append_left _ hr)
        rw [searchAll_concat]
        rcases List.mem_append.mp hroot with hroot | hroot
        · exact kept_of_searchFrom (hearlier root hroot he)
        · obtain rfl := List.mem_singleton.mp hroot
          rcases mem_ways_or_exists_lead he.passable he.reaches with
            ⟨q, hq⟩ | ⟨x, y, q, -, -, hT, hin, hy⟩
          · exact (hb root (by simp)).contains_searchFrom hq he.leads he.ahead
          · -- The edge lies behind a lead, so it lies between the lead's root and a goal too.
            obtain ⟨s, hs, hlead, -⟩ := exists_between_of_contains hT
            refine kept_of_searchFrom (hearlier s hs ⟨hlead.passable, ?_, he.leads, he.ahead⟩)
            exact (hlead.reaches.tail ⟨hlead.leads, hin⟩).trans hy

/-! ## One root alone -/

/-- Alone a root is never recorded as reaching itself. -/
theorem contains_searchAll_singleton_eq_false (net : Network ν) (bound : Option Nat) (root u : ν) :
    (net.searchAll bound [root]).contains ⟨u, root⟩ = false := by
  rw [← Bool.not_eq_true]
  intro he
  have hsearch : (net.searchFrom bound ∅ root).contains ⟨u, root⟩ = true := he
  have hW := ways_ways net bound ∅ root
  rcases contains_searchFrom_iff.mp hsearch with hempty | ⟨p, hp, hep⟩
  · simp at hempty
  · obtain ⟨q, -, -, (⟨-, hne⟩ | hempty) | hmem⟩ := hW.of_mem_ofPathBack hp hep
    · exact hne rfl
    · simp at hempty
    · exact (hW.way _ hmem).ne_root rfl

/-- The roots and the goals that the searches touch are those that the search from some root
touches alone. -/
theorem touched_iff_exists_alone {x : ν} (hx : x ∈ roots ∨ net.Goal x) :
    Touched (net.searchAll none roots) x ↔
      ∃ root ∈ roots, Touched (net.searchAll none [root]) x := by
  constructor
  · intro h
    rcases connects_of_touched h with ⟨root, hroot, hconnects⟩ | ⟨z, hconnects, hgoal⟩
    · exact ⟨root, hroot, hconnects.touched_goal (List.mem_singleton_self root)⟩
    · exact ⟨x, hx.elim id hgoal, hconnects.touched_root (List.mem_singleton_self x)⟩
  · rintro ⟨root, hroot, h⟩
    exact touched_of_touched (by simpa using hroot) hx h

/-! ## Networks that are trees -/

/-- The nodes to which the edges of `u` lead. -/
def out (net : Network ν) (u : ν) : List ν := ((net.stations.get? u).map (·.out)).getD []

theorem mem_out_iff : v ∈ net.out u ↔ net.Leads u v := by
  unfold out Leads
  cases net.stations.get? u with
  | none => simp
  | some s => simp

/-- Walks never join among nodes that are entered along one edge each, the root along none. -/
theorem branches_of_forall (nodes : List ν) (hroot : root ∈ nodes)
    (h : ∀ u ∈ nodes, ∀ v ∈ net.out u,
      v ∈ nodes ∧ v ≠ root ∧ ∀ u' ∈ nodes, v ∈ net.out u' → u = u') : net.Branches root := by
  have hmem {u : ν} (hu : net.Reaches root u) : u ∈ nodes := by
    induction hu with
    | refl => exact hroot
    | tail _ hstep ih => exact (h _ ih _ (mem_out_iff.mpr hstep.1)).1
  constructor
  · intro u v he
    exact (h u (hmem he.reaches) v (mem_out_iff.mpr he.leads)).2.1
  · intro u u' v he he' _
    exact (h u (hmem he.reaches) v (mem_out_iff.mpr he.leads)).2.2 u' (hmem he'.reaches)
      (mem_out_iff.mpr he'.leads)

end Network

namespace Route

variable {g : Graph} {t : RouteText}

/-! ## Sources -/

theorem selects_of_contains (hg : g.FiledById) {s d : ProjectId}
    (he : (search g t).contains ⟨s, d⟩ = true) :
    ∃ inner z, g.Selects { t with source := .any } s inner z ∧
      (s :: (inner ++ [z])).IsChain fun u v => (search g t).contains ⟨u, v⟩ = true := by
  obtain ⟨root, -, q, hway, -, -, -, l, hon⟩ := Network.sound_searchAll he
  obtain ⟨inner, z, hl, hinner, hz, hchain⟩ := hon.exists_walk
  have hrecorded : (s :: (inner ++ [z])).IsChain fun u v =>
      (search g t).contains ⟨u, v⟩ = true := by
    rw [← hl]
    exact List.isChain_cons_cons.mpr ⟨he, hchain⟩
  refine ⟨inner, z, ⟨?_, ?_, ?_, ?_⟩, hrecorded⟩
  · obtain ⟨p, hp, hi, hexternal⟩ := Graph.passable_iff.mp hway.passable
    exact ⟨p, hp, hi, hexternal, rfl⟩
  · exact fun x hx => Graph.inner_iff.mp (hinner x hx)
  · exact Graph.goal_iff.mp hz
  · exact hrecorded.imp fun u v huv => (dependsOn_of_contains hg huv).1

/-- In a graph whose projects are filed under their own ids, a project from which an unbounded route
asks for a walk to another project is the source of a recorded edge, and every source of a recorded
edge may be passed and has a walk over inner projects, all of it recorded, to a project that passes
the test of the destination. -/
theorem sources_of_unbounded (hg : g.FiledById) (hbound : t.bound = none) :
    (∀ r inner z, g.Selects t r inner z → z ≠ r → ∃ d, (search g t).contains ⟨r, d⟩ = true) ∧
    ∀ s d, (search g t).contains ⟨s, d⟩ = true →
      ∃ inner z, g.Selects { t with source := .any } s inner z ∧
        (s :: (inner ++ [z])).IsChain fun u v => (search g t).contains ⟨u, v⟩ = true :=
  ⟨fun _ _ _ h hz => source_of_selects_of_unbounded hg h hz hbound,
    fun _ _ he => selects_of_contains hg he⟩

/-- Where `web` and `core` depend on each other and `core` on `api`, `web` is a source on the route
to `api`, and the edge from `core` back to `web` makes no walk. -/
theorem sources_of_unbounded_of_cycle :
    let t : RouteText := ⟨.id ⟨1⟩, none, false, .id ⟨3⟩⟩
    ∃ g, Graph.ofRecords
        [.code "web" ["core"], .code "core" ["web", "api"], .code "api" []] = .ok g ∧
      g.Selects t ⟨1⟩ [⟨2⟩] ⟨3⟩ ∧ (∃ d, (search g t).contains ⟨⟨1⟩, d⟩ = true) ∧
      (search g t).contains ⟨⟨2⟩, ⟨3⟩⟩ = true ∧
      ∃ inner z, g.Selects { t with source := .any } ⟨2⟩ inner z := by
  intro t
  have hsources {g : Graph}
      (hg : Graph.ofRecords
        [.code "web" ["core"], .code "core" ["web", "api"], .code "api" []] = .ok g)
      (h : g.Selects t ⟨1⟩ [⟨2⟩] ⟨3⟩) (he : (search g t).contains ⟨⟨2⟩, ⟨3⟩⟩ = true) :
      (∃ d, (search g t).contains ⟨⟨1⟩, d⟩ = true) ∧
        (search g t).contains ⟨⟨2⟩, ⟨3⟩⟩ = true ∧
        ∃ inner z, g.Selects { t with source := .any } ⟨2⟩ inner z := by
    obtain ⟨hfound, hwalk⟩ := sources_of_unbounded (t := t) (Graph.filedById_of_ofRecords hg) rfl
    obtain ⟨inner, z, hselects, -⟩ := hwalk _ _ he
    exact ⟨hfound _ _ _ h (by decide), he, inner, z, hselects⟩
  refine ⟨_, by cbv, by decide +kernel, hsources ?_ (by decide +kernel) ?_⟩
  · cbv
  · cbv

/-! ## Edges recorded before -/

/-- The searches of an unbounded route from all its roots, in whatever order, touch the same
roots and destinations as those searches do that begin with an empty table each, and these never
record a root as reaching itself. They record the same edges if the walks from each root never
join. -/
theorem recordedFrom_iff_exists_alone (hbound : t.bound = none) :
    search g t = recordedFrom g t (roots g t) ∧
    (∀ r u, (recordedFrom g t [r]).contains ⟨u, r⟩ = false) ∧
    ∀ order, (∀ r, r ∈ order ↔ r ∈ roots g t) →
      (∀ x, (x ∈ roots g t ∨ g.Has x fun p => p.ignored = false ∧ t.dest.holds p = true) →
        ((ends (recordedFrom g t order)).contains x = true ↔
          ∃ r ∈ roots g t, (ends (recordedFrom g t [r])).contains x = true)) ∧
      ((∀ r ∈ roots g t, (g.network t.dest).Branches r) →
        ∀ e, (recordedFrom g t order).contains e = true ↔
          ∃ r ∈ roots g t, (recordedFrom g t [r]).contains e = true) := by
  refine ⟨rfl, fun r u => Network.contains_searchAll_singleton_eq_false _ _ r u, ?_⟩
  intro order horder
  simp only [recordedFrom, hbound, ← horder]
  constructor
  · intro x hx
    simp only [contains_ends_iff]
    exact Network.touched_iff_exists_alone (hx.imp_right Graph.goal_iff.mpr)
  · intro hb e
    rw [Network.contains_searchAll_iff_between hb]
    refine exists_congr fun r => and_congr_right fun hr => ?_
    rw [Network.contains_searchAll_iff_between (by simpa using hb r hr)]
    simp

/-- Where `web` leads over `core` to `api`, the walks from `web` and from `core` never join, and
the searches from `web` and then `core` record what both record alone. -/
theorem recordedFrom_iff_exists_alone_of_chain :
    let t : RouteText := ⟨.not (.id ⟨3⟩), none, false, .id ⟨3⟩⟩
    ∃ g, Graph.ofRecords [.code "web" ["core"], .code "core" ["api"], .code "api" []] = .ok g ∧
      roots g t = [⟨2⟩, ⟨1⟩] ∧ (∀ r ∈ roots g t, (g.network t.dest).Branches r) ∧
      ∀ e, (recordedFrom g t [⟨1⟩, ⟨2⟩]).contains e = true ↔
        ∃ r ∈ roots g t, (recordedFrom g t [r]).contains e = true := by
  intro t
  have halone {g : Graph} (hroots : roots g t = [⟨2⟩, ⟨1⟩])
      (hcore : (g.network t.dest).Branches ⟨2⟩) (hweb : (g.network t.dest).Branches ⟨1⟩) :
      (∀ r ∈ roots g t, (g.network t.dest).Branches r) ∧
      ∀ e, (recordedFrom g t [⟨1⟩, ⟨2⟩]).contains e = true ↔
        ∃ r ∈ roots g t, (recordedFrom g t [r]).contains e = true := by
    have hb : ∀ r ∈ roots g t, (g.network t.dest).Branches r := by
      rw [hroots]
      exact List.forall_mem_cons.mpr ⟨hcore, List.forall_mem_singleton.mpr hweb⟩
    obtain ⟨-, -, horders⟩ := recordedFrom_iff_exists_alone (g := g) (t := t) rfl
    refine ⟨hb, (horders [⟨1⟩, ⟨2⟩] fun r => ?_).2 hb⟩
    rw [hroots]
    exact (List.Perm.swap _ _ _).mem_iff
  refine ⟨_, by cbv, by cbv, halone ?_ ?_ ?_⟩
  · cbv
  · exact Network.branches_of_forall [⟨2⟩, ⟨3⟩] (by decide) (by decide +kernel)
  · exact Network.branches_of_forall [⟨1⟩, ⟨2⟩, ⟨3⟩] (by decide) (by decide +kernel)

/-- Where `b` and `z` depend on each other, the search from `z` for the route to `z` finds the edge
from `b` recorded and takes it for a lead, though it leads to `z` itself. Neither search alone
records the edge from `z`, nor do the searches in the other order. -/
theorem exists_root_reaching_itself :
    ∃ g t, Graph.ofRecords [.code "b" ["z"], .code "z" ["b"]] = .ok g ∧
      t = (⟨.any, none, false, .id ⟨2⟩⟩ : RouteText) ∧ roots g t = [⟨1⟩, ⟨2⟩] ∧
      (search g t).contains ⟨⟨2⟩, ⟨1⟩⟩ = true ∧
      (∀ r ∈ roots g t, (recordedFrom g t [r]).contains ⟨⟨2⟩, ⟨1⟩⟩ = false) ∧
      (recordedFrom g t [⟨2⟩, ⟨1⟩]).contains ⟨⟨2⟩, ⟨1⟩⟩ = false := by
  have halone {g : Graph} {t : RouteText} (hroots : roots g t = [⟨1⟩, ⟨2⟩])
      (h₁ : (recordedFrom g t [⟨1⟩]).contains ⟨⟨2⟩, ⟨1⟩⟩ = false)
      (h₂ : (recordedFrom g t [⟨2⟩]).contains ⟨⟨2⟩, ⟨1⟩⟩ = false) :
      ∀ r ∈ roots g t, (recordedFrom g t [r]).contains ⟨⟨2⟩, ⟨1⟩⟩ = false := by
    rw [hroots]
    exact List.forall_mem_cons.mpr ⟨h₁, List.forall_mem_singleton.mpr h₂⟩
  refine ⟨_, _, by cbv, rfl, by cbv, by cbv, halone ?_ ?_ ?_, by cbv⟩
  · cbv
  · cbv
  · cbv

end Route

end Landscape
