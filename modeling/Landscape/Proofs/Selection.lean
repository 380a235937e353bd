import Mathlib
import Landscape.CommandLine.Basic
import Landscape.Proofs.Graph.Change
import Landscape.Proofs.Graph.Loading

namespace Landscape

/-!
# Selections from a graph

The projects that a rule selects are those it keeps and the ends of the dependencies it keeps.
So the two selections by one rule fit together.
-/

namespace Graph

variable {g : Graph} {r : ProjectRule} {mode : ListMode}

/-! ## Members -/

theorem mem_selectProjects_iff {p : Project} :
    p ∈ g.selectProjects r mode ↔ p ∈ g.list mode ∧
      ∃ q ∈ g.list mode, r.keepsProject q = true ∧ p.id = q.id ∨
        ∃ k ∈ g.dependencies q .all, r.keepsLink k = true ∧
          (p.id = k.source.id ∨ p.id = k.target.id) := by
  unfold selectProjects
  rw [List.mem_filter, OrderedSet.contains_ofList]
  simp only [List.mem_flatMap, List.mem_append, List.mem_filter]
  refine and_congr_right' (exists_congr fun q => and_congr_right' (or_congr ?_ ?_))
  · cases r.keepsProject q <;> simp
  · simp only [List.mem_cons, List.not_mem_nil, or_false, and_assoc]

theorem selectProjects_eq_filter {P : Project → Prop} [DecidablePred P]
    (h : ∀ p ∈ g.list mode, p ∈ g.selectProjects r mode ↔ P p) :
    g.selectProjects r mode = (g.list mode).filter fun p => decide (P p) := by
  unfold selectProjects
  refine List.filter_congr fun p hp => ?_
  rw [Bool.eq_iff_iff, decide_eq_true_iff, ← h p hp]
  unfold selectProjects
  rw [List.mem_filter]
  exact (and_iff_right hp).symm

theorem mem_allDependencies_iff {k : Link} :
    k ∈ g.allDependencies mode ↔ k.source ∈ g.list mode ∧ k.target ∈ g.list mode ∧
      k.dependency ∈ k.source.dependencies.values ∧
        g.get? k.dependency.target = some k.target := by
  simp only [allDependencies, List.mem_flatMap, link_mem_dependencies_iff]
  constructor
  · rintro ⟨p, hp, rfl, hd, ht, hadmits⟩
    exact ⟨hp, mem_list_iff.mpr ⟨⟨_, ht⟩, hadmits⟩, hd, ht⟩
  · rintro ⟨hs, ht, hd, htarget⟩
    exact ⟨k.source, hs, rfl, hd, htarget, (mem_list_iff.mp ht).2⟩

/-- A kept dependency between listed projects has both of its ends selected. -/
theorem ends_mem_selectProjects {k : Link} (hk : k ∈ g.selectLinks r mode) :
    k.source ∈ g.selectProjects r mode ∧ k.target ∈ g.selectProjects r mode := by
  obtain ⟨hall, hkeeps⟩ := List.mem_filter.mp hk
  obtain ⟨hs, ht, hd, htarget⟩ := mem_allDependencies_iff.mp hall
  have hlisted : k ∈ g.dependencies k.source .all :=
    link_mem_dependencies_iff.mpr ⟨rfl, hd, htarget, rfl⟩
  constructor
  · exact mem_selectProjects_iff.mpr ⟨hs, k.source, hs, Or.inr ⟨k, hlisted, hkeeps, Or.inl rfl⟩⟩
  · exact mem_selectProjects_iff.mpr ⟨ht, k.source, hs, Or.inr ⟨k, hlisted, hkeeps, Or.inr rfl⟩⟩

/-! ## The order of projects -/

theorem selectProjects_sublist (g : Graph) (r : ProjectRule) (mode : ListMode) :
    (g.selectProjects r mode).Sublist (g.list mode) := by
  unfold selectProjects
  exact List.filter_sublist

theorem listed_trans (p q s : Project) (hpq : (!Key.before q.name p.name) = true)
    (hqs : (!Key.before s.name q.name) = true) : (!Key.before s.name p.name) = true := by
  rw [Bool.not_eq_true'] at hpq hqs ⊢
  exact Key.not_before_trans hpq hqs

theorem listed_total (p q : Project) :
    (!Key.before q.name p.name || !Key.before p.name q.name) = true := by
  cases hqp : Key.before q.name p.name with
  | false => rfl
  | true => simp [Key.before_asymm hqp]

theorem pairwise_list (g : Graph) (mode : ListMode) :
    (g.list mode).Pairwise fun p q => Key.before q.name p.name = false :=
  (List.pairwise_mergeSort listed_trans listed_total _).imp fun h => by simpa using h

theorem nodup_names_list (hnames : g.UniqueNames) (mode : ListMode) :
    ((g.list mode).map (·.name)).Nodup := by
  have hvalues : (g.projects.values.map (·.name)).Nodup :=
    Map.nodup_map_values fun i p j q hp hq hname => hnames i j p q hp hq hname
  have hperm : (g.list mode).Perm (g.projects.values.filter mode.admits) :=
    List.mergeSort_perm _ _
  exact (hperm.map _).nodup_iff.mpr (hvalues.sublist (List.filter_sublist.map _))

/-- With unique names the listing of projects is strictly ordered by name. -/
theorem pairwise_before_list (hnames : g.UniqueNames) (mode : ListMode) :
    (g.list mode).Pairwise fun p q => Key.before p.name q.name = true := by
  have hne : (g.list mode).Pairwise fun p q => p.name ≠ q.name :=
    List.pairwise_map.mp (nodup_names_list hnames mode)
  refine ((pairwise_list g mode).and hne).imp fun {p q} h => ?_
  cases hpq : Key.before p.name q.name with
  | true => rfl
  | false => exact absurd (Key.eq_of_not_before hpq h.1) h.2

/-! ## The places of dependencies -/

def resolve (g : Graph) (p : Project) (d : Dependency) : Option Link :=
  (g.get? d.target).map fun t => ⟨p, t, d⟩

/-- The link of the dependency that is stored in the project of an id under a name. -/
def linkAt? (g : Graph) (place : ProjectId × String) : Option Link :=
  (g.get? place.1).bind fun p => (p.dependencies.get? place.2).bind fun d => g.resolve p d

theorem linkAt?_eq_some_iff {place : ProjectId × String} {k : Link} :
    g.linkAt? place = some k ↔ g.get? place.1 = some k.source ∧
      k.source.dependencies.get? place.2 = some k.dependency ∧
        g.get? k.dependency.target = some k.target := by
  obtain ⟨source, target, dependency⟩ := k
  simp only [linkAt?, resolve, Option.bind_eq_some_iff, Option.map_eq_some_iff]
  constructor
  · rintro ⟨p, hp, d, hd, t, ht, hk⟩
    cases hk
    exact ⟨hp, hd, ht⟩
  · rintro ⟨hp, hd, ht⟩
    exact ⟨source, hp, dependency, hd, target, ht, rfl⟩

/-- Where the graph stores its dependencies. -/
def places (g : Graph) : List (ProjectId × String) :=
  g.projects.entries.flatMap fun e => e.2.dependencies.keys.map fun name => (e.1, name)

theorem nodup_places (g : Graph) : g.places.Nodup := by
  refine List.nodup_flatMap.mpr ⟨fun e _ => ?_, ?_⟩
  · have hkeys : e.2.dependencies.keys.Nodup :=
      List.pairwise_map.mpr (e.2.dependencies.ascending.imp Key.ne_of_before)
    exact hkeys.map fun m n h => (Prod.mk.inj h).2
  · refine g.projects.ascending.imp fun {a b} hab x ha hb => ?_
    obtain ⟨m, -, rfl⟩ := List.mem_map.mp ha
    obtain ⟨n, -, heq⟩ := List.mem_map.mp hb
    exact Key.ne_of_before hab (Prod.mk.inj heq).1.symm

theorem filterMap_linkAt?_places (g : Graph) :
    g.places.filterMap g.linkAt? =
      g.projects.values.flatMap fun p => p.dependencies.values.filterMap (g.resolve p) := by
  simp only [places, Map.values, Map.keys, List.filterMap_flatMap, List.flatMap_map,
    List.filterMap_map]
  refine List.flatMap_congr fun e he => List.filterMap_congr fun x hx => ?_
  have hproject : g.get? e.1 = some e.2 := Map.get?_eq_some_iff.mpr he
  have hdependency : e.2.dependencies.get? x.1 = some x.2 := Map.get?_eq_some_iff.mpr hx
  simp [linkAt?, hproject, hdependency]

/-- The listing of a project's dependencies sorts those that stay when they have been resolved. -/
theorem dependencies_eq_mergeSort (g : Graph) (p : Project) (mode : ListMode) :
    g.dependencies p mode =
      ((p.dependencies.values.filterMap (g.resolve p)).filter fun k =>
        mode.admits k.target).mergeSort fun k l => !Link.before l k := by
  unfold dependencies
  rw [List.filter_filterMap]
  refine congrArg (List.mergeSort · _) (List.filterMap_congr fun d _ => ?_)
  unfold resolve
  cases g.get? d.target with
  | none => rfl
  | some t => rfl

theorem dependencies_perm (g : Graph) (p : Project) (mode : ListMode) :
    (g.dependencies p mode).Perm
      ((p.dependencies.values.filterMap (g.resolve p)).filter fun k => mode.admits k.target) := by
  rw [dependencies_eq_mergeSort]
  exact List.mergeSort_perm _ _

/-- Every place is listed at most once. -/
theorem selectLinks_subperm (g : Graph) (r : ProjectRule) (mode : ListMode) :
    (g.selectLinks r mode).Subperm (g.places.filterMap g.linkAt?) := by
  rw [filterMap_linkAt?_places]
  have hperm : (g.allDependencies mode).Perm
      ((g.projects.values.filter mode.admits).flatMap fun p =>
        (p.dependencies.values.filterMap (g.resolve p)).filter fun k => mode.admits k.target) :=
    (List.mergeSort_perm _ _).flatMap fun p _ => dependencies_perm g p mode
  have hsub : ((g.projects.values.filter mode.admits).flatMap fun p =>
      (p.dependencies.values.filterMap (g.resolve p)).filter fun k => mode.admits k.target).Sublist
        (g.projects.values.flatMap fun p => p.dependencies.values.filterMap (g.resolve p)) :=
    (List.filter_sublist.flatMap _).trans (List.Sublist.flatMap_right _ fun p _ =>
      List.filter_sublist)
  exact (List.filter_sublist.subperm.trans hperm.subperm).trans hsub.subperm

theorem exists_places_selectLinks (g : Graph) (r : ProjectRule) (mode : ListMode) :
    ∃ places, places.Nodup ∧
      List.Forall₂ (fun place k => g.linkAt? place = some k) places (g.selectLinks r mode) := by
  obtain ⟨ks, hperm, hsub⟩ := g.selectLinks_subperm r mode
  obtain ⟨stored, hstored, rfl⟩ := List.sublist_filterMap_iff.mp hsub
  have hlinks : List.Forall₂ (fun k place => g.linkAt? place = some k)
      (stored.filterMap g.linkAt?) (stored.filter fun place => (g.linkAt? place).isSome) := by
    clear hperm hsub hstored
    induction stored with
    | nil => exact .nil
    | cons place stored ih =>
        cases hk : g.linkAt? place with
        | none => simpa [hk] using ih
        | some k => simpa [hk] using ih
  obtain ⟨places, hforall, hplaces⟩ := List.perm_comp_forall₂ hperm.symm hlinks
  refine ⟨places, hplaces.nodup_iff.mpr ?_, hforall.flip⟩
  exact (g.nodup_places.sublist hstored).filter _

theorem place_eq_of_ends_eq (hnames : g.UniqueNames) (hsimple : g.Simple)
    {place place' : ProjectId × String} {k k' : Link} (hk : g.linkAt? place = some k)
    (hk' : g.linkAt? place' = some k') (hsource : k.source.name = k'.source.name)
    (htarget : k.target.name = k'.target.name) : place = place' := by
  obtain ⟨i, m⟩ := place
  obtain ⟨j, n⟩ := place'
  obtain ⟨hs, hd, ht⟩ := linkAt?_eq_some_iff.mp hk
  obtain ⟨hs', hd', ht'⟩ := linkAt?_eq_some_iff.mp hk'
  obtain rfl : i = j := hnames i j _ _ hs hs' hsource
  have htargets := hnames _ _ _ _ ht ht' htarget
  rw [Option.mem_unique hs' hs] at hd'
  rw [hsimple i _ hs m n _ _ hd hd' htargets]

theorem nodup_ends_selectLinks (hnames : g.UniqueNames) (hsimple : g.Simple) (r : ProjectRule)
    (mode : ListMode) :
    ((g.selectLinks r mode).map fun k => (k.source.name, k.target.name)).Nodup := by
  have hstored : ((g.places.filterMap g.linkAt?).map fun k =>
      (k.source.name, k.target.name)).Nodup := by
    refine List.pairwise_map.mpr (List.Pairwise.filterMap g.linkAt? ?_ g.nodup_places)
    intro place place' hne k hk k' hk' hends
    obtain ⟨hsource, htarget⟩ := Prod.mk.inj hends
    exact hne (place_eq_of_ends_eq hnames hsimple hk hk' hsource htarget)
  obtain ⟨ks, hperm, hsub⟩ := g.selectLinks_subperm r mode
  exact (hperm.map _).nodup_iff.mp (hstored.sublist (hsub.map _))

end Graph

/-! ## Both listings -/

/-- What the listing of dependencies shows, the listing of projects shows the ends of. -/
theorem CommandLine.exists_projects_of_deps {s : Settings} {c : Catalog} {own : Given}
    {v : Json.Value} (h : list .deps s c own = .ok v) :
    ∃ ks ps, v = Listing.dependencies ks ∧ list .projects s c own = .ok (Listing.projects ps) ∧
      ∀ k ∈ ks, k.source ∈ ps ∧ k.target ∈ ps := by
  simp only [list, listSlice] at h ⊢
  cases hr : (slice s own).rule c.graph with
  | error e =>
      rw [hr] at h
      cases h
  | ok r =>
      rw [hr] at h
      cases h
      exact ⟨_, _, rfl, rfl, fun k hk => Graph.ends_mem_selectProjects hk⟩

namespace Graph

variable {g : Graph}

/-- The two selections by a rule fit together. Both ends of a selected link are selected, so the
listing of projects shows the ends of all that the listing of dependencies shows. The selected
projects ascend by name. No stored dependency is selected twice, and where no project holds two
dependencies on one target no two selected links have the same ends. That is so in each graph that
was read, and in each that was built without a renaming. -/
theorem selections_fit (hnames : g.UniqueNames) (r : ProjectRule) (mode : ListMode) :
    (∀ k ∈ g.selectLinks r mode,
      k.source ∈ g.selectProjects r mode ∧ k.target ∈ g.selectProjects r mode) ∧
    (∀ s c own v, CommandLine.list .deps s c own = .ok v → ∃ ks ps,
      v = Listing.dependencies ks ∧
        CommandLine.list .projects s c own = .ok (Listing.projects ps) ∧
          ∀ k ∈ ks, k.source ∈ ps ∧ k.target ∈ ps) ∧
    (g.selectProjects r mode).Pairwise (fun p q => Key.before p.name q.name = true) ∧
    (g.selectProjects r mode).Nodup ∧
    (∃ places, places.Nodup ∧
      List.Forall₂ (fun place k => g.linkAt? place = some k) places (g.selectLinks r mode)) ∧
    (g.Simple →
      ((g.selectLinks r mode).map fun k => (k.source.name, k.target.name)).Nodup) ∧
    (∀ text c, Catalog.ofText text = .ok c → c.graph.UniqueNames ∧ c.graph.Simple) ∧
    ∀ cs : List Change, (∀ c ∈ cs, c.Keeping) →
      (empty.run cs).UniqueNames ∧ (empty.run cs).Simple := by
  have hsorted : (g.selectProjects r mode).Pairwise fun p q => Key.before p.name q.name = true :=
    (pairwise_before_list hnames mode).sublist (selectProjects_sublist g r mode)
  refine ⟨fun k hk => ends_mem_selectProjects hk, fun s c own v h => ?_, hsorted, ?_, ?_, ?_, ?_,
    ?_⟩
  · exact CommandLine.exists_projects_of_deps h
  · exact hsorted.imp fun h heq => Key.ne_of_before h (congrArg Project.name heq)
  · exact exists_places_selectLinks g r mode
  · exact fun hsimple => nodup_ends_selectLinks hnames hsimple r mode
  · exact fun text c h => ⟨(consistent_of_ofText h).uniqueNames, (consistent_of_ofText h).simple⟩
  · exact fun cs hcs =>
      ⟨(consistent_empty.run hcs).uniqueNames, (consistent_empty.run hcs).simple⟩

/-- Where `web` depends on `core` and on the library `lib`, the rule that drops libraries selects
the link to `core` and both ends of it. -/
theorem selections_fit_of_two_links :
    ∃ g k, Graph.ofRecords [.code "web" ["lib", "core"], .code "core" []] = .ok g ∧
      g.selectLinks ProjectRule.dropExternal .all = [k] ∧
      (k.source ∈ g.selectProjects ProjectRule.dropExternal .all ∧
        k.target ∈ g.selectProjects ProjectRule.dropExternal .all) ∧
      ((g.selectLinks ProjectRule.dropExternal .all).map fun k =>
        (k.source.name, k.target.name)).Nodup := by
  have hfit {g : Graph} {k : Link}
      (hg : Graph.ofRecords [.code "web" ["lib", "core"], .code "core" []] = .ok g)
      (hk : g.selectLinks ProjectRule.dropExternal .all = [k]) :
      (k.source ∈ g.selectProjects ProjectRule.dropExternal .all ∧
        k.target ∈ g.selectProjects ProjectRule.dropExternal .all) ∧
      ((g.selectLinks ProjectRule.dropExternal .all).map fun k =>
        (k.source.name, k.target.name)).Nodup := by
    have hconsistent := consistent_of_ofRecords hg
    obtain ⟨hends, -, -, -, -, hnodup, -⟩ :=
      selections_fit hconsistent.uniqueNames ProjectRule.dropExternal .all
    exact ⟨hends k (hk ▸ List.mem_singleton_self k), hnodup hconsistent.simple⟩
  refine ⟨_, _, by cbv, by cbv, hfit ?_ ?_⟩
  · cbv
  · cbv

/-- A dependency that was filed before its target was renamed can be added again under the new name.
Then both are selected, and they have the same ends. -/
theorem exists_ends_selected_twice :
    ¬ ∀ cs : List Change, (empty.run cs).UniqueNames → ∀ r mode,
      (((empty.run cs).selectLinks r mode).map fun k => (k.source.name, k.target.name)).Nodup := by
  intro h
  let cs : List Change := [.getOrCreate "app", .getOrCreate "core", .addDependency ⟨1⟩ ⟨2⟩ id,
    .modify ⟨2⟩ fun p => { p with name := "lib" }, .addDependency ⟨1⟩ ⟨2⟩ id]
  have hnames : ∀ e ∈ (empty.run cs).projects.entries, ∀ e' ∈ (empty.run cs).projects.entries,
      e.2.name = e'.2.name → e.1 = e'.1 := by decide +kernel
  have hunique : (empty.run cs).UniqueNames := fun i j p q hp hq hname =>
    hnames _ (Map.get?_eq_some_iff.mp hp) _ (Map.get?_eq_some_iff.mp hq) hname
  have hends : ((empty.run cs).selectLinks ProjectRule.dropIgnored .all).map
      (fun k => (k.source.name, k.target.name)) = [("app", "lib"), ("app", "lib")] := by cbv
  have hnodup := h cs hunique ProjectRule.dropIgnored .all
  rw [hends] at hnodup
  exact absurd hnodup (by decide)

end Graph

end Landscape
