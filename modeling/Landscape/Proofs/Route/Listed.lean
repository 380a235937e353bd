import Landscape.CommandLine.Basic
import Landscape.Proofs.Query.Compiled
import Landscape.Proofs.Route.Written
import Landscape.Proofs.Selection
import Landscape.Proofs.Slice

namespace Landscape

/-!
# The projects that a route lists

A route keeps dependencies only, so a listing shows the ends of those it keeps. External
libraries are dropped with all their dependencies: a touched project is listed if one of the
dependencies that the route takes joins it to another project that is not external.
-/

namespace Graph

variable {g : Graph} {r : ProjectRule} {mode : ListMode}

theorem mem_list_owned_iff {p : Project} :
    p ∈ g.list .owned ↔ p ∈ g.list .all ∧ p.isExternal = false := by
  simp [mem_list_iff, ListMode.admits]

theorem get?_id_of_mem_list (hg : g.FiledById) {p : Project} (hp : p ∈ g.list mode) :
    g.get? p.id = some p := by
  obtain ⟨⟨i, hi⟩, -⟩ := mem_list_iff.mp hp
  rw [hg i p hi]
  exact hi

/-- A listed project is the one that is filed under its id. -/
theorem eq_of_filed_of_id_eq (hg : g.FiledById) {p q : Project} {i : ProjectId}
    (hp : p ∈ g.list mode) (hq : g.get? i = some q) (hid : p.id = q.id) : p = q := by
  have hfiled := get?_id_of_mem_list hg hp
  rw [hid, hg i q hq, hq] at hfiled
  exact (Option.some.inj hfiled).symm

theorem eq_of_id_eq (hg : g.FiledById) {p q : Project} (hp : p ∈ g.list mode)
    (hq : q ∈ g.list mode) (hid : p.id = q.id) : p = q := by
  obtain ⟨⟨i, hi⟩, -⟩ := mem_list_iff.mp hq
  exact eq_of_filed_of_id_eq hg hp hi hid

theorem exists_link_of_dependsOn (hg : g.FiledById) {s t : ProjectId} (h : g.DependsOn s t) :
    ∃ k ∈ g.allDependencies .all, k.source.id = s ∧ k.target.id = t := by
  obtain ⟨p, hp, hsome, d, hd, rfl⟩ := h
  obtain ⟨q, hq⟩ := Option.isSome_iff_exists.mp hsome
  refine ⟨⟨p, q, d⟩, mem_allDependencies_iff.mpr ⟨?_, ?_, hd, hq⟩, hg s p hp, hg _ q hq⟩
  · exact mem_list_iff.mpr ⟨⟨s, hp⟩, rfl⟩
  · exact mem_list_iff.mpr ⟨⟨_, hq⟩, rfl⟩

end Graph

/-! ## Routes that were searched -/

namespace Route

/-- The route records what the search for it records in the graph. -/
def Searched (route : Route) (g : Graph) : Prop :=
  ∃ policy name t, route = resolve g policy name t

namespace Searched

variable {g : Graph} {route : Route} {s d : ProjectId}

theorem touched_iff (h : route.Searched g) {i : ProjectId} :
    route.touched.contains i = true ↔
      ∃ j, route.records i j = true ∨ route.records j i = true := by
  obtain ⟨policy, name, t, rfl⟩ := h
  exact contains_ends_iff

theorem touched_of_records (h : route.Searched g) (he : route.records s d = true) :
    route.touched.contains s = true ∧ route.touched.contains d = true :=
  ⟨h.touched_iff.mpr ⟨d, Or.inl he⟩, h.touched_iff.mpr ⟨s, Or.inr he⟩⟩

theorem touched_of_takes (h : route.Searched g) (htakes : route.takes s d = true) :
    route.touched.contains s = true ∧ route.touched.contains d = true := by
  unfold takes at htakes
  split at htakes
  · exact Bool.and_eq_true_iff.mp htakes
  · exact h.touched_of_records htakes

theorem takes_of_records (h : route.Searched g) (he : route.records s d = true) :
    route.takes s d = true := by
  unfold takes
  split
  · exact Bool.and_eq_true_iff.mpr (h.touched_of_records he)
  · exact he

theorem dependsOn (h : route.Searched g) (hg : g.FiledById) (he : route.records s d = true) :
    g.DependsOn s d ∧ (g.Has s fun p => p.ignored = false) ∧ g.Has d fun p => p.ignored = false := by
  obtain ⟨policy, name, t, rfl⟩ := h
  obtain ⟨hdep, ⟨p, hp, hi, -⟩, hd⟩ := dependsOn_of_contains hg he
  exact ⟨hdep, ⟨p, hp, hi⟩, hd⟩

theorem ignored_eq_false (h : route.Searched g) (hg : g.FiledById) {mode : ListMode} {p : Project}
    (hp : p ∈ g.list mode) (htouched : route.touched.contains p.id = true) :
    p.ignored = false := by
  have hhas : g.Has p.id fun q => q.ignored = false := by
    obtain ⟨j, he | he⟩ := h.touched_iff.mp htouched
    · exact (h.dependsOn hg he).2.1
    · exact (h.dependsOn hg he).2.2
  obtain ⟨q, hq, hignored⟩ := hhas
  rw [Option.mem_unique (Graph.get?_id_of_mem_list hg hp) hq]
  exact hignored

end Searched

end Route

/-! ## Slices of one route -/

theorem ProjectRule.trim_ne_nil_of_ofText_eq_route {g : Graph} {policy : Policy}
    {usual : Option Nat} {rule : List Char} {route : Route}
    (h : ofText g policy usual rule = .ok (.leaf (.route route))) : Text.trim rule ≠ [] := by
  intro hblank
  rw [ofText, Formula.ofRule_of_trim_eq_nil _ hblank, ProjectLeaf.ofText_nil] at h
  cases h

theorem ProjectLeaf.searched_of_ofText {g : Graph} {policy : Policy} {usual : Option Nat}
    {t : List Char} {route : Route} (h : ofText g policy usual t = .ok (.route route)) :
    route.Searched g := by
  unfold ofText at h
  split at h
  · obtain ⟨r, hr, heq⟩ := map_eq_ok_iff.mp h
    cases heq
    obtain ⟨rt, -, rfl⟩ := Route.exists_of_ofText_eq_ok hr
    exact ⟨_, _, rt, rfl⟩
  · obtain ⟨a, -, heq⟩ := map_eq_ok_iff.mp h
    cases heq

theorem ProjectRule.searched_of_ofText {g : Graph} {policy : Policy} {usual : Option Nat}
    {rule : List Char} {route : Route}
    (h : ofText g policy usual rule = .ok (.leaf (.route route))) : route.Searched g := by
  have hterm (t : List Char) (l : ProjectLeaf)
      (hl : ProjectLeaf.ofText g policy usual t = .ok l) :
      ∃ t, ProjectLeaf.ofText g policy usual t = .ok l := ⟨t, hl⟩
  obtain ⟨t, ht⟩ := Formula.forall_mem_leaves hterm h _ (List.mem_singleton_self _)
  exact ProjectLeaf.searched_of_ofText ht

namespace Slice

def adding (rule : String) (maxDepth : Option Nat) : Slice :=
  { added := [rule], maxDepth := maxDepth }

variable {g : Graph} {rule : String} {usual : Option Nat} {f r : ProjectRule} {route : Route}

theorem exists_rule_adding (h : ProjectRule.ofText g .including usual rule.toList = .ok f) :
    ∃ r, (adding rule usual).rule g = .ok r := by
  unfold Slice.rule adding
  rw [List.mapM_cons, h]
  exact ⟨_, rfl⟩

/-- Blanks at the ends of a rule do not count. -/
theorem rule_adding_trim (g : Graph) (rule : String) (usual : Option Nat) :
    (adding (String.ofList (Text.trim rule.toList)) usual).rule g = (adding rule usual).rule g := by
  simp [Slice.rule, adding, ProjectRule.ofText, Formula.ofRule]

/-- A slice of one rule keeps what the rule includes, unless it is ignored or external. -/
theorem keeps_adding_iff {v : ProjectLeaf → Verdict} {hit : ProjectLeaf → Bool}
    (hv : ∀ l, v l = .ofMatch l.policy (hit l))
    (h : ProjectRule.ofText g .including usual rule.toList = .ok f)
    (hr : (adding rule usual).rule g = .ok r) :
    r.keeps ProjectLeaf.policy v = true ↔
      hit (.test ⟨.ignored, .excluding⟩) = false ∧ hit (.test ⟨.external, .excluding⟩) = false ∧
        f.verdict v = .included := by
  obtain ⟨ms, -, hkeeps⟩ := keeps_iff_of_judged hr hv
  have happlies : (adding rule usual).Applies g .including hit rule ↔ f.verdict v = .included :=
    (ProjectRule.verdict_eq_iff hv h).symm
  rw [hkeeps, forall_mem_dropped_iff]
  simp [adding, ← happlies, and_assoc]

theorem keepsProject_adding_route
    (h : ProjectRule.ofText g .including usual rule.toList = .ok (.leaf (.route route)))
    (hr : (adding rule usual).rule g = .ok r) (p : Project) : r.keepsProject p = false := by
  rw [← Bool.not_eq_true]
  intro hkept
  have hin := ((keeps_adding_iff (ProjectLeaf.onProject_eq_ofMatch p) h hr).mp hkept).2.2
  cases hin

theorem keepsLink_adding_route
    (h : ProjectRule.ofText g .including usual rule.toList = .ok (.leaf (.route route)))
    (hr : (adding rule usual).rule g = .ok r) (k : Link) :
    r.keepsLink k = true ↔ (k.source.ignored = false ∧ k.target.ignored = false) ∧
      (k.source.isExternal = false ∧ k.target.isExternal = false) ∧
        route.takes k.source.id k.target.id = true := by
  have hpolicy : route.policy = .including :=
    ProjectRule.policy_of_mem_leaves h _ (List.mem_singleton_self _)
  have hverdict : (Formula.leaf (.route route)).verdict (ProjectLeaf.onLink k) = .included ↔
      route.takes k.source.id k.target.id = true := by
    show route.verdict k = .included ↔ _
    rw [Route.verdict, hpolicy]
    cases route.takes k.source.id k.target.id <;> simp [Policy.verdict]
  have hends (t : ProjectTest) : ProjectLeaf.holdsOfLink k (.test ⟨t, .excluding⟩) = false ↔
      t.holds k.source = false ∧ t.holds k.target = false := Bool.or_eq_false_iff
  refine (keeps_adding_iff (ProjectLeaf.onLink_eq_ofMatch k) h hr).trans ?_
  rw [hends, hends, hverdict]
  rfl

end Slice

/-! ## Queries for one route -/

namespace Query

variable {c : Catalog} {params : Params} {usual : Option Nat} {q : Query}

/-- The rule on projects of a query is that of the slice that its parameter writes. -/
theorem projectRule_of_compile_eq_ok (h : compile c params usual = .ok q) :
    q.catalog = c ∧ (slice params usual).rule c.graph = .ok q.projectRule :=
  ⟨(compiled_of_eq_ok h).catalog, (compiled_of_eq_ok h).projectRule⟩

theorem exists_compile_eq_ok {rule : String} {r : ProjectRule}
    (h : (slice { project := rule } usual).rule c.graph = .ok r) :
    ∃ q, compile c { project := rule } usual = .ok q :=
  exists_compile_eq_ok_iff.mpr ⟨⟨r, h⟩, ⟨_, rfl⟩, ⟨_, rfl⟩, ⟨_, rfl⟩, ⟨_, rfl⟩⟩

theorem slice_eq_adding (h : Text.trim params.project.toList ≠ []) :
    slice params usual = .adding (String.ofList (Text.trim params.project.toList)) usual := by
  simp [slice, given?, h, Slice.adding]

end Query

/-! ## What is listed -/

namespace Route

variable {g : Graph} {rule : String} {usual : Option Nat} {route : Route} {r : ProjectRule}

/-- The project is an end of a dependency between projects that are not external, and the route
takes that dependency. -/
def Meets (route : Route) (g : Graph) (p : Project) : Prop :=
  ∃ k ∈ g.allDependencies .owned,
    route.takes k.source.id k.target.id = true ∧ (p = k.source ∨ p = k.target)

instance (route : Route) (g : Graph) : DecidablePred (route.Meets g) := fun _ =>
  inferInstanceAs (Decidable (∃ k ∈ g.allDependencies .owned, _))

theorem touched_of_meets (hroute : route.Searched g) {p : Project} (h : route.Meets g p) :
    route.touched.contains p.id = true := by
  obtain ⟨k, -, htakes, rfl | rfl⟩ := h
  · exact (hroute.touched_of_takes htakes).1
  · exact (hroute.touched_of_takes htakes).2

theorem mem_selectLinks_adding (hg : g.FiledById)
    (h : ProjectRule.ofText g .including usual rule.toList = .ok (.leaf (.route route)))
    (hr : (Slice.adding rule usual).rule g = .ok r) {k : Link} (hk : k ∈ g.allDependencies .owned)
    (htakes : route.takes k.source.id k.target.id = true) : k ∈ g.selectLinks r .owned := by
  have hroute := ProjectRule.searched_of_ofText h
  obtain ⟨hs, ht, -⟩ := Graph.mem_allDependencies_iff.mp hk
  obtain ⟨hsource, htarget⟩ := hroute.touched_of_takes htakes
  refine List.mem_filter.mpr ⟨hk, (Slice.keepsLink_adding_route h hr k).mpr ⟨⟨?_, ?_⟩, ?_, htakes⟩⟩
  · exact hroute.ignored_eq_false hg hs hsource
  · exact hroute.ignored_eq_false hg ht htarget
  · exact ⟨(Graph.mem_list_owned_iff.mp hs).2, (Graph.mem_list_owned_iff.mp ht).2⟩

theorem mem_selectProjects_adding_iff (hg : g.FiledById)
    (h : ProjectRule.ofText g .including usual rule.toList = .ok (.leaf (.route route)))
    (hr : (Slice.adding rule usual).rule g = .ok r) {p : Project} (hp : p ∈ g.list .owned) :
    p ∈ g.selectProjects r .owned ↔ route.Meets g p := by
  constructor
  · intro hselected
    obtain ⟨-, q, hq, hkept | ⟨k, hk, hkept, hid⟩⟩ := Graph.mem_selectProjects_iff.mp hselected
    · rw [Slice.keepsProject_adding_route h hr] at hkept
      cases hkept.1
    · obtain ⟨rfl, hd, htarget, -⟩ := Graph.link_mem_dependencies_iff.mp hk
      obtain ⟨-, ⟨-, hexternal⟩, htakes⟩ := (Slice.keepsLink_adding_route h hr k).mp hkept
      have ht : k.target ∈ g.list .owned :=
        Graph.mem_list_owned_iff.mpr ⟨Graph.mem_list_iff.mpr ⟨⟨_, htarget⟩, rfl⟩, hexternal⟩
      refine ⟨k, Graph.mem_allDependencies_iff.mpr ⟨hq, ht, hd, htarget⟩, htakes, ?_⟩
      exact hid.imp (Graph.eq_of_id_eq hg hp hq) (Graph.eq_of_id_eq hg hp ht)
  · rintro ⟨k, hk, htakes, hend⟩
    obtain ⟨hsource, htarget⟩ :=
      Graph.ends_mem_selectProjects (mem_selectLinks_adding hg h hr hk htakes)
    rcases hend with rfl | rfl
    · exact hsource
    · exact htarget

/-- If a route touches no external project, every touched project meets it. -/
theorem meets_of_touched (hroute : route.Searched g) (hg : g.FiledById)
    (hall : ∀ q ∈ g.list .all, route.touched.contains q.id = true → q.isExternal = false)
    {p : Project} (hp : p ∈ g.list .owned) (htouched : route.touched.contains p.id = true) :
    route.Meets g p := by
  -- an edge that is recorded is a dependency, and both of its ends are touched
  have hedge {s d : ProjectId} (he : route.records s d = true) :
      ∃ k ∈ g.allDependencies .owned,
        route.takes k.source.id k.target.id = true ∧ k.source.id = s ∧ k.target.id = d := by
    obtain ⟨k, hk, rfl, rfl⟩ := Graph.exists_link_of_dependsOn hg (hroute.dependsOn hg he).1
    obtain ⟨hs, ht, hstored⟩ := Graph.mem_allDependencies_iff.mp hk
    obtain ⟨hsource, htarget⟩ := hroute.touched_of_records he
    refine ⟨k, Graph.mem_allDependencies_iff.mpr ⟨?_, ?_, hstored⟩, hroute.takes_of_records he,
      rfl, rfl⟩
    · exact Graph.mem_list_owned_iff.mpr ⟨hs, hall _ hs hsource⟩
    · exact Graph.mem_list_owned_iff.mpr ⟨ht, hall _ ht htarget⟩
  obtain ⟨i, he | he⟩ := hroute.touched_iff.mp htouched
  · obtain ⟨k, hk, htakes, hs, -⟩ := hedge he
    have hsource := (Graph.mem_allDependencies_iff.mp hk).1
    exact ⟨k, hk, htakes, Or.inl (Graph.eq_of_id_eq hg hp hsource hs.symm)⟩
  · obtain ⟨k, hk, htakes, -, ht⟩ := hedge he
    have htarget := (Graph.mem_allDependencies_iff.mp hk).2.1
    exact ⟨k, hk, htakes, Or.inr (Graph.eq_of_id_eq hg hp htarget ht.symm)⟩

theorem list_projects_adding {s : Settings} {c : Catalog} {own : CommandLine.Given}
    (hslice : CommandLine.slice s own = .adding rule usual)
    (hr : (Slice.adding rule usual).rule c.graph = .ok r) :
    CommandLine.list .projects s c own =
      .ok (Listing.projects (c.graph.selectProjects r .owned)) := by
  have hmode : CommandLine.listMode s = .owned := by
    have hexternal := congrArg Slice.keepExternal hslice
    simp only [CommandLine.slice, Slice.adding] at hexternal
    simp [CommandLine.listMode, hexternal]
  simp only [CommandLine.list, CommandLine.listSlice, hslice, hr, hmode]

/-- A listing for one route shows, in the order of names, the projects that are not external and
are an end of a dependency that the route takes and whose other end is not external either. All
of them are touched, and where no external project is touched they are all that are. A command
and a query for the route list the same projects. -/
theorem selectProjects_adding_eq_filter (hg : g.FiledById)
    (h : ProjectRule.ofText g .including usual rule.toList = .ok (.leaf (.route route))) :
    ∃ r, (Slice.adding rule usual).rule g = .ok r ∧
      g.selectProjects r .owned = (g.list .owned).filter (fun p => decide (route.Meets g p)) ∧
      (∀ p ∈ g.selectProjects r .owned, route.touched.contains p.id = true) ∧
      ((∀ p ∈ g.list .all, route.touched.contains p.id = true → p.isExternal = false) →
        g.selectProjects r .owned =
          (g.list .owned).filter fun p => route.touched.contains p.id) ∧
      (∀ c s own, c.graph = g → CommandLine.slice s own = Slice.adding rule usual →
        CommandLine.list .projects s c own =
          .ok (Listing.projects (g.selectProjects r .owned))) ∧
      ∀ c : Catalog, c.graph = g → (∃ q, Query.compile c { project := rule } usual = .ok q) ∧
        ∀ params q, params.project = rule → Query.compile c params usual = .ok q →
          q.projects = g.selectProjects r .owned := by
  obtain ⟨r, hr⟩ := Slice.exists_rule_adding h
  have hroute := ProjectRule.searched_of_ofText h
  have hmem {p : Project} (hp : p ∈ g.list .owned) := mem_selectProjects_adding_iff hg h hr hp
  have htouched : ∀ p ∈ g.selectProjects r .owned, route.touched.contains p.id = true := by
    intro p hp
    have hlisted := (g.selectProjects_sublist r .owned).subset hp
    exact touched_of_meets hroute ((hmem hlisted).mp hp)
  refine ⟨r, hr, Graph.selectProjects_eq_filter fun p hp => hmem hp, htouched, ?_, ?_, ?_⟩
  · intro hall
    have hiff (p : Project) (hp : p ∈ g.list .owned) :
        p ∈ g.selectProjects r .owned ↔ route.touched.contains p.id = true :=
      ⟨htouched p, fun ht => (hmem hp).mpr (meets_of_touched hroute hg hall hp ht)⟩
    simpa using Graph.selectProjects_eq_filter hiff
  · rintro c s own rfl hslice
    exact list_projects_adding hslice hr
  · rintro c rfl
    have hslice {params : Query.Params} (hrule : params.project = rule) :
        (Query.slice params usual).rule c.graph = .ok r := by
      subst hrule
      rw [Query.slice_eq_adding (ProjectRule.trim_ne_nil_of_ofText_eq_route h),
        Slice.rule_adding_trim, hr]
    refine ⟨Query.exists_compile_eq_ok (hslice rfl), fun params q hrule hq => ?_⟩
    obtain ⟨hcatalog, hprojects⟩ := Query.projectRule_of_compile_eq_ok hq
    rw [hslice hrule] at hprojects
    rw [Query.projects, hcatalog, ← Except.ok.inj hprojects]

/-- The route from anywhere to the project with the id 2. -/
theorem ofText_to_two (g : Graph) : ProjectRule.ofText g .including none "-> id:2".toList =
    .ok (.leaf (.route (resolve g .including "-> id:2" ⟨.any, none, false, .id ⟨2⟩⟩))) :=
  ProjectRule.ofText_goal .including none rfl (by cbv) (by decide) (by cbv) g

theorem rule_to_two (g : Graph) : (Slice.adding "-> id:2" none).rule g =
    .ok (.any [.leaf (.route (resolve g .including "-> id:2" ⟨.any, none, false, .id ⟨2⟩⟩)),
      ProjectRule.dropIgnored, ProjectRule.dropExternal]) := by
  simp only [Slice.rule, Slice.adding, List.mapM_cons, List.mapM_nil, ofText_to_two]
  rfl

/-- Where `web` depends on `core`, the route from anywhere to `core` lists both. -/
theorem selectProjects_adding_eq_filter_of_one_edge :
    ∃ g route r, Graph.ofRecords [.code "web" ["core"], .code "core" []] = .ok g ∧
      ProjectRule.ofText g .including none "-> id:2".toList = .ok (.leaf (.route route)) ∧
      (Slice.adding "-> id:2" none).rule g = .ok r ∧
      (g.selectProjects r .owned).map (·.name) = ["core", "web"] ∧
      g.selectProjects r .owned = (g.list .owned).filter fun p => decide (route.Meets g p) := by
  obtain ⟨g, r, hg, hr, hnames⟩ : ∃ g r,
      Graph.ofRecords [.code "web" ["core"], .code "core" []] = .ok g ∧
      (Slice.adding "-> id:2" none).rule g = .ok r ∧
      (g.selectProjects r .owned).map (·.name) = ["core", "web"] :=
    ⟨_, _, by cbv, rule_to_two _, by cbv⟩
  obtain ⟨r', hr', hlist, -⟩ :=
    selectProjects_adding_eq_filter (Graph.filedById_of_ofRecords hg) (ofText_to_two g)
  obtain rfl := Except.ok.inj (hr.symm.trans hr')
  exact ⟨g, _, r, hg, ofText_to_two g, hr, hnames, hlist⟩

/-- Where `web` depends on nothing but the library `lib`, the route from anywhere to `lib` touches
`web` and lists nothing. -/
theorem exists_touched_not_listed :
    ∃ g route r web, Graph.ofRecords [.code "web" ["lib"]] = .ok g ∧
      ProjectRule.ofText g .including none "-> id:2".toList = .ok (.leaf (.route route)) ∧
      (Slice.adding "-> id:2" none).rule g = .ok r ∧ g.list .owned = [web] ∧
      route.touched.contains web.id = true ∧ g.selectProjects r .owned = [] := by
  refine ⟨_, _, _, _, by cbv, ofText_to_two _, rule_to_two _, by cbv, ?_, ?_⟩
  · cbv
  · cbv

end Route

end Landscape
