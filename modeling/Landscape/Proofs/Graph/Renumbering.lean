import Landscape.Proofs.Route.Renaming
import Landscape.Proofs.Route.Selection
import Landscape.Proofs.Rule.Unsearched
import Landscape.Proofs.Selection

namespace Landscape

/-!
# Graphs with other ids

Two graphs that differ in the ids of their projects alone are listed alike. A rule none of whose
terms asks for an id selects the same projects and dependencies from both.
-/

/-! ## Other ids -/

def Dependency.renumber (σ : ProjectId → ProjectId) (d : Dependency) : Dependency :=
  { d with source := σ d.source, target := σ d.target }

def Project.renumber (σ : ProjectId → ProjectId) (p : Project) : Project :=
  { p with id := σ p.id, dependencies := p.dependencies.mapValues (Dependency.renumber σ) }

def Link.renumber (σ : ProjectId → ProjectId) (k : Link) : Link :=
  ⟨k.source.renumber σ, k.target.renumber σ, k.dependency.renumber σ⟩

def ProjectTest.AsksId : ProjectTest → Prop
  | not t => AsksId t
  | id _ => True
  | _ => False

namespace ProjectTest

variable {σ : ProjectId → ProjectId}

theorem holds_renumber {t : ProjectTest} (ht : ¬ t.AsksId) (p : Project) :
    t.holds (p.renumber σ) = t.holds p := by
  induction t with
  | not t ih => exact congrArg Bool.not (ih ht)
  | id i => exact absurd trivial ht
  | any => rfl
  | name m => rfl
  | group ms => rfl
  | ignored => rfl
  | external => rfl

end ProjectTest

namespace Graph

/-- The one graph has the projects of the other under the ids that `σ` gives to them. -/
def Renumbers (σ : ProjectId → ProjectId) (g g' : Graph) : Prop :=
  ∀ i, g'.get? (σ i) = (g.get? i).map (Project.renumber σ)

theorem admits_renumber {σ : ProjectId → ProjectId} (mode : ListMode) (p : Project) :
    mode.admits (p.renumber σ) = mode.admits p := by
  cases mode <;> rfl

variable {σ : Equiv.Perm ProjectId} {g g' : Graph}

/-! ## Listings -/

theorem Renumbers.list (h : g.Renumbers σ g') (hnames : g.UniqueNames) (hnames' : g'.UniqueNames)
    (mode : ListMode) : g'.list mode = (g.list mode).map (Project.renumber σ) := by
  have hsorted := pairwise_before_list hnames' mode
  have hsorted' : ((g.list mode).map (Project.renumber σ)).Pairwise
      fun p q => Key.before p.name q.name = true :=
    List.pairwise_map.mpr (pairwise_before_list hnames mode)
  refine Key.eq_of_mem_iff hsorted hsorted' fun q => ?_
  rw [mem_list_iff, List.mem_map]
  simp only [mem_list_iff]
  constructor
  · rintro ⟨⟨j, hj⟩, hmode⟩
    obtain ⟨i, rfl⟩ := σ.surjective j
    rw [h i] at hj
    obtain ⟨p, hp, rfl⟩ := Option.map_eq_some_iff.mp hj
    exact ⟨p, ⟨⟨i, hp⟩, (admits_renumber mode p).symm.trans hmode⟩, rfl⟩
  · rintro ⟨p, ⟨⟨i, hp⟩, hmode⟩, rfl⟩
    refine ⟨⟨σ i, ?_⟩, (admits_renumber mode p).trans hmode⟩
    rw [h i, hp]
    rfl

theorem Renumbers.dependencies (h : g.Renumbers σ g') (p : Project) (mode : ListMode) :
    g'.dependencies (p.renumber σ) mode = (g.dependencies p mode).map (Link.renumber σ) := by
  unfold Graph.dependencies
  dsimp only
  rw [List.map_mergeSort (r := fun k l => !Link.before l k) (s := fun k l => !Link.before l k)
    (f := Link.renumber σ) fun k _ l _ => rfl]
  congr 1
  rw [List.map_filterMap, Project.renumber, Map.values_mapValues, List.filterMap_map]
  refine List.filterMap_congr fun d _ => ?_
  have htarget : g'.get? (d.renumber σ).target = (g.get? d.target).map (Project.renumber σ) :=
    h d.target
  simp only [Function.comp_apply, htarget]
  cases g.get? d.target with
  | none => rfl
  | some t =>
      simp only [Option.map_some, admits_renumber]
      cases mode.admits t <;> rfl

theorem Renumbers.allDependencies (h : g.Renumbers σ g') (hnames : g.UniqueNames)
    (hnames' : g'.UniqueNames) (mode : ListMode) :
    g'.allDependencies mode = (g.allDependencies mode).map (Link.renumber σ) := by
  unfold Graph.allDependencies
  rw [h.list hnames hnames', List.flatMap_map, List.map_flatMap]
  exact List.flatMap_congr fun p _ => h.dependencies p mode

/-! ## Routes -/

theorem Renumbers.network (h : g.Renumbers σ g') {dest : ProjectTest} (hdest : ¬ dest.AsksId) :
    (g.network dest).Renames σ (g'.network dest) := by
  intro i
  rw [get?_stations, get?_stations, h i, Option.map_map, Option.map_map]
  refine congrArg (fun f => (g.get? i).map f) (funext fun p => ?_)
  unfold Function.comp Graph.station Station.map
  rw [h.dependencies]
  simp only [List.map_map, ProjectTest.holds_renumber hdest]
  rfl

theorem Renumbers.search (h : g.Renumbers σ g') (hnames : g.UniqueNames)
    (hnames' : g'.UniqueNames) {t : RouteText} (hsource : ¬ t.source.AsksId)
    (hdest : ¬ t.dest.AsksId) (e : Edge ProjectId) :
    (Route.search g' t).contains (e.map σ) = (Route.search g t).contains e := by
  have hroots : Route.roots g' t = (Route.roots g t).map σ := by
    unfold Route.roots
    rw [h.list hnames hnames', List.filter_map, List.map_map, List.map_map]
    simp only [Function.comp_def, ProjectTest.holds_renumber hsource]
    rfl
  rw [Route.search_eq, Route.search_eq, hroots]
  exact (h.network hdest).searchAll σ.injective t.bound _ e

theorem Renumbers.takes (h : g.Renumbers σ g') (hnames : g.UniqueNames)
    (hnames' : g'.UniqueNames) {t : RouteText} (hsource : ¬ t.source.AsksId)
    (hdest : ¬ t.dest.AsksId) (policy : Policy) (rule : String) (s d : ProjectId) :
    (Route.resolve g' policy rule t).takes (σ s) (σ d) =
      (Route.resolve g policy rule t).takes s d := by
  have hsearch := h.search hnames hnames' hsource hdest
  have htouched (x : ProjectId) : (Route.ends (Route.search g' t)).contains (σ x) =
      (Route.ends (Route.search g t)).contains x := by
    rw [Bool.eq_iff_iff, Route.contains_ends_iff, Route.contains_ends_iff, σ.surjective.exists]
    refine exists_congr fun y => or_congr ?_ ?_
    · exact Bool.eq_iff_iff.mp (hsearch ⟨x, y⟩)
    · exact Bool.eq_iff_iff.mp (hsearch ⟨y, x⟩)
  have hrecords : (Route.search g' t).contains ⟨σ s, σ d⟩ = (Route.search g t).contains ⟨s, d⟩ :=
    hsearch ⟨s, d⟩
  unfold Route.takes Route.records Route.resolve
  simp only [htouched, hrecords]

end Graph

/-! ## Rules -/

def ProjectTerm.AsksId : ProjectTerm → Prop
  | test l => l.test.AsksId
  | route _ _ t => t.source.AsksId ∨ t.dest.AsksId

namespace Graph

variable {σ : Equiv.Perm ProjectId} {g g' : Graph}

section

variable (h : g.Renumbers σ g') (hnames : g.UniqueNames) (hnames' : g'.UniqueNames)

theorem onProject_renumber {t : ProjectTerm} (ht : ¬ t.AsksId) (p : Project) :
    ProjectLeaf.onProject (p.renumber σ) (t.search g') = ProjectLeaf.onProject p (t.search g) := by
  cases t with
  | test l => exact congrArg (Verdict.ofMatch l.policy) (ProjectTest.holds_renumber ht p)
  | route policy rule t =>
      -- a route says nothing of projects, so it need not be searched here
      simp only [ProjectTerm.search, ProjectLeaf.onProject]

include h hnames hnames' in
theorem Renumbers.onLink {t : ProjectTerm} (ht : ¬ t.AsksId) (k : Link) :
    ProjectLeaf.onLink (k.renumber σ) (t.search g') = ProjectLeaf.onLink k (t.search g) := by
  cases t with
  | test l =>
      have hholds := ProjectTest.holds_renumber (σ := σ) ht
      unfold ProjectTerm.search ProjectLeaf.onLink Leaf.verdict Link.renumber
      simp only [hholds]
  | route policy rule t =>
      obtain ⟨hsource, hdest⟩ := not_or.mp ht
      exact congrArg (Verdict.ofMatch policy)
        (h.takes hnames hnames' hsource hdest policy rule k.source.id k.target.id)

variable {f : Formula ProjectTerm} (hf : ∀ t ∈ f.leaves, ¬ t.AsksId)

include hf in
theorem keepsProject_renumber (p : Project) :
    ProjectRule.keepsProject (g'.ruleOf f) (p.renumber σ) =
      ProjectRule.keepsProject (g.ruleOf f) p := by
  have hsame := Formula.keeps_map_congr (ProjectTerm.search g)
    (v := ProjectLeaf.onProject p) (f := f) (ProjectTerm.policy_search g) fun _ _ => rfl
  refine Eq.trans ?_ hsame.symm
  exact Formula.keeps_map_congr (ProjectTerm.search g') (ProjectTerm.policy_search g')
    fun t ht => onProject_renumber (hf t ht) p

include h hnames hnames' hf

theorem Renumbers.keepsLink (k : Link) :
    ProjectRule.keepsLink (g'.ruleOf f) (k.renumber σ) =
      ProjectRule.keepsLink (g.ruleOf f) k := by
  have hsame := Formula.keeps_map_congr (ProjectTerm.search g)
    (v := ProjectLeaf.onLink k) (f := f) (ProjectTerm.policy_search g) fun _ _ => rfl
  refine Eq.trans ?_ hsame.symm
  exact Formula.keeps_map_congr (ProjectTerm.search g') (ProjectTerm.policy_search g')
    fun t ht => h.onLink hnames hnames' (hf t ht) k

theorem Renumbers.selectLinks (mode : ListMode) :
    g'.selectLinks (g'.ruleOf f) mode =
      (g.selectLinks (g.ruleOf f) mode).map (Link.renumber σ) := by
  unfold Graph.selectLinks
  rw [h.allDependencies hnames hnames', List.filter_map]
  congr 1
  exact List.filter_congr fun k _ => h.keepsLink hnames hnames' hf k

theorem Renumbers.selectProjects (mode : ListMode) :
    g'.selectProjects (g'.ruleOf f) mode =
      (g.selectProjects (g.ruleOf f) mode).map (Project.renumber σ) := by
  have hkept (p : Project) :
      ((if ProjectRule.keepsProject (g'.ruleOf f) (p.renumber σ) then [(p.renumber σ).id]
        else []) ++ ((g'.dependencies (p.renumber σ) .all).filter
          (ProjectRule.keepsLink (g'.ruleOf f))).flatMap fun k => [k.source.id, k.target.id]) =
      ((if ProjectRule.keepsProject (g.ruleOf f) p then [p.id] else []) ++
        ((g.dependencies p .all).filter (ProjectRule.keepsLink (g.ruleOf f))).flatMap
          fun k => [k.source.id, k.target.id]).map σ := by
    have hlinks : (g'.ruleOf f).keepsLink ∘ Link.renumber σ = (g.ruleOf f).keepsLink :=
      funext (h.keepsLink hnames hnames' hf)
    rw [keepsProject_renumber (g := g) hf, h.dependencies, List.filter_map, List.flatMap_map,
      List.map_append, List.map_flatMap, hlinks]
    congr 1
    split <;> rfl
  unfold Graph.selectProjects
  dsimp only
  rw [h.list hnames hnames', List.flatMap_map, List.flatMap_congr fun p _ => hkept p,
    ← List.map_flatMap, List.filter_map]
  congr 1
  refine List.filter_congr fun p _ => ?_
  rw [Bool.eq_iff_iff, Function.comp_apply, OrderedSet.contains_ofList, OrderedSet.contains_ofList]
  exact List.mem_map_of_injective σ.injective

end

end Graph

namespace Slice

/-- No term that the texts of the slice read as asks for an id. -/
def AsksNoId (s : Slice) : Prop := ∀ f, s.terms = .ok f → ∀ t ∈ f.leaves, ¬ t.AsksId

/-- The names of the projects and of the ends of the dependencies that the slice selects. -/
def shown (s : Slice) (g : Graph) (mode : ListMode) :
    Except RuleError (List String × List (String × String)) :=
  (fun r => ((g.selectProjects r mode).map (·.name),
    (g.selectLinks r mode).map fun k => (k.source.name, k.target.name))) <$> s.rule g

/-- What a slice shows does not depend on ids that it does not ask for. -/
theorem shown_eq {σ : Equiv.Perm ProjectId} {g g' : Graph} (h : g.Renumbers σ g')
    (hnames : g.UniqueNames) (hnames' : g'.UniqueNames) {s : Slice} (hs : s.AsksNoId)
    (mode : ListMode) : s.shown g' mode = s.shown g mode := by
  cases hf : s.terms with
  | error e =>
      have herror (g : Graph) : s.shown g mode = .error e := by
        rw [shown, rule_eq, hf]
        rfl
      rw [herror, herror]
  | ok f =>
      have hok (g : Graph) : s.shown g mode =
          .ok ((g.selectProjects (g.ruleOf f) mode).map (·.name),
            (g.selectLinks (g.ruleOf f) mode).map fun k => (k.source.name, k.target.name)) := by
        rw [shown, rule_eq, hf]
        rfl
      rw [hok, hok, h.selectProjects hnames hnames' (hs f hf),
        h.selectLinks hnames hnames' (hs f hf), List.map_map, List.map_map]
      rfl

end Slice

end Landscape
