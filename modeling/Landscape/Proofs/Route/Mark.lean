import Landscape.Proofs.Route.Listed
import Landscape.Proofs.Route.Written

namespace Landscape

/-!
# What the mark `R` changes

With the mark a route keeps the edges that it records, without it all edges between the projects
that it touches. Every touched project is an end of a recorded edge from a project that is
owned, so either way the same projects are selected.
-/

open Text

namespace ProjectRule

variable {g : Graph} {policy : Policy} {usual : Option Nat} {left right : List Char}

/-- A rule that is one route: it has an arrow and neither a bar nor an ampersand. -/
theorem ofText_eq_ok_route_iff {route : Route} :
    ofText g policy usual (left ++ '-' :: '>' :: right) = .ok (.leaf (.route route)) ↔
      '|' ∉ trim (left ++ '-' :: '>' :: right) ∧ '&' ∉ trim (left ++ '-' :: '>' :: right) ∧
        ∃ t, RouteText.ofText usual (left ++ '-' :: '>' :: right) = .ok t ∧
          route =
            Route.resolve g policy (String.ofList (trim (left ++ '-' :: '>' :: right))) t := by
  have hleaf : ProjectLeaf.ofText g policy usual (trim (left ++ '-' :: '>' :: right)) =
      ProjectLeaf.route <$> Route.ofText g policy usual (left ++ '-' :: '>' :: right) := by
    have harrow : ProjectLeaf.hasArrow (trim (left ++ '-' :: '>' :: right)) = true := by
      rw [RouteText.trim_arrow]
      exact ProjectLeaf.hasArrow_append _ _
    simp only [ProjectLeaf.ofText, harrow, if_true, Route.ofText, RouteText.ofText, trim_trim]
  rw [ofText, Formula.ofRule_eq_ok_leaf_iff, hleaf]
  refine and_congr_right' (and_congr_right' ?_)
  simp only [map_eq_ok_iff, ProjectLeaf.route.injEq, exists_eq_right, Route.ofText]
  simp only [eq_comm]

end ProjectRule

namespace Route

variable {g : Graph} {route : Route}

/-! ## What a rule of one route keeps -/

theorem keepsProject_route (hpolicy : route.policy = .including) (p : Project) :
    ProjectRule.keepsProject (.leaf (.route route)) p = false := by
  simp [ProjectRule.keepsProject, ProjectRule.settle, ProjectRule.onProject, ProjectLeaf.onProject,
    Formula.settle, Formula.keepsByDefault, ProjectLeaf.policy, hpolicy, Policy.keepsByDefault]

theorem takes_of_required (h : route.required = true) (s d : ProjectId) :
    route.takes s d = route.records s d := by
  simp [takes, h]

theorem keepsLink_route (hpolicy : route.policy = .including) (k : Link) :
    ProjectRule.keepsLink (.leaf (.route route)) k = route.takes k.source.id k.target.id := by
  cases htakes : route.takes k.source.id k.target.id <;>
    simp [ProjectRule.keepsLink, ProjectRule.settle, ProjectRule.onLink, ProjectLeaf.onLink,
      Route.verdict, htakes, Verdict.ofMatch, Policy.verdict, Formula.settle,
      Formula.keepsByDefault, ProjectLeaf.policy, hpolicy, Policy.keepsByDefault]

/-- A recorded edge is a dependency of an owned project. -/
theorem Searched.exists_link (h : route.Searched g) (hg : g.FiledById) {s d : ProjectId}
    (he : route.records s d = true) (mode : ListMode) :
    ∃ p ∈ g.list mode, ∃ k ∈ g.dependencies p .all, k.source.id = s ∧ k.target.id = d := by
  obtain ⟨policy, name, t, rfl⟩ := h
  obtain ⟨hdep, ⟨p, hp, -, howned⟩, -⟩ := dependsOn_of_contains hg he
  obtain ⟨k, hk, hs, hd⟩ := Graph.exists_link_of_dependsOn hg hdep
  obtain ⟨hsource, -, hstored, htarget⟩ := Graph.mem_allDependencies_iff.mp hk
  have hsame : k.source = p := by
    have hget := Graph.get?_id_of_mem_list hg hsource
    rw [hs] at hget
    exact Option.mem_unique hget hp
  refine ⟨k.source, Graph.mem_list_iff.mpr ⟨⟨s, hsame ▸ hp⟩, ?_⟩, k, ?_, hs, hd⟩
  · cases mode with
    | all => rfl
    | owned => simp [ListMode.admits, hsame, howned]
  · exact Graph.link_mem_dependencies_iff.mpr ⟨rfl, hstored, htarget, rfl⟩

/-- With the mark and without it, an including route selects the projects that it touches. -/
theorem selectProjects_route (h : route.Searched g) (hg : g.FiledById)
    (hpolicy : route.policy = .including) (mode : ListMode) :
    g.selectProjects (.leaf (.route route)) mode =
      (g.list mode).filter fun p => route.touched.contains p.id := by
  have hmem (p : Project) (hp : p ∈ g.list mode) :
      p ∈ g.selectProjects (.leaf (.route route)) mode ↔ route.touched.contains p.id = true := by
    rw [Graph.mem_selectProjects_iff]
    constructor
    · rintro ⟨-, q, -, hkept | ⟨k, -, hkept, hid⟩⟩
      · rw [keepsProject_route hpolicy] at hkept
        cases hkept.1
      · rw [keepsLink_route hpolicy] at hkept
        obtain ⟨hsource, htarget⟩ := h.touched_of_takes hkept
        rcases hid with hid | hid
        · rwa [hid]
        · rwa [hid]
    · intro htouched
      obtain ⟨i, he⟩ := h.touched_iff.mp htouched
      refine ⟨hp, ?_⟩
      rcases he with he | he
      · obtain ⟨q, hq, k, hk, hs, hd⟩ := h.exists_link hg he mode
        refine ⟨q, hq, Or.inr ⟨k, hk, ?_, Or.inl hs.symm⟩⟩
        rw [keepsLink_route hpolicy, hs, hd]
        exact h.takes_of_records he
      · obtain ⟨q, hq, k, hk, hs, hd⟩ := h.exists_link hg he mode
        refine ⟨q, hq, Or.inr ⟨k, hk, ?_, Or.inr hd.symm⟩⟩
        rw [keepsLink_route hpolicy, hs, hd]
        exact h.takes_of_records he
  simpa using Graph.selectProjects_eq_filter hmem

/-- An including route whose text lacks the mark can be read with it. Then the search is the same,
and so are the projects selected, where they are filed under their own ids: those it touches, in the
order of names. Every dependency that is kept with the mark is kept without it. -/
theorem selectProjects_mark (hg : g.FiledById) {usual : Option Nat} {left right : List Char}
    (h : ProjectRule.ofText g .including usual (left ++ '-' :: '>' :: right) =
      .ok (.leaf (.route route)))
    (hplain : route.required = false) :
    ∃ marked : Route,
      ProjectRule.ofText g .including usual (RouteText.mark left ++ '-' :: '>' :: right) =
        .ok (.leaf (.route marked)) ∧
      (∃ t : RouteText, route = resolve g .including route.rule { t with required := false } ∧
        marked = resolve g .including marked.rule { t with required := true }) ∧
      (∀ mode, g.selectProjects (.leaf (.route route)) mode =
          (g.list mode).filter (fun p => route.touched.contains p.id) ∧
        g.selectProjects (.leaf (.route marked)) mode =
          g.selectProjects (.leaf (.route route)) mode ∧
        (g.selectProjects (.leaf (.route route)) mode).Pairwise fun p q =>
          Key.before q.name p.name = false) ∧
      ∀ k, ProjectRule.keepsLink (.leaf (.route marked)) k = true →
        ProjectRule.keepsLink (.leaf (.route route)) k = true := by
  obtain ⟨hbar, hand, t, ht, hroute⟩ := ProjectRule.ofText_eq_ok_route_iff.mp h
  have hsearched : route.Searched g := ⟨_, _, t, hroute⟩
  have hpolicy : route.policy = .including := by rw [hroute]; rfl
  have hrequired : t.required = false := by rw [hroute] at hplain; exact hplain
  have hmem {c : Char} (hc : c ≠ '-' ∧ c ≠ 'R') :
      c ∈ trim (RouteText.mark left ++ '-' :: '>' :: right) ↔
        c ∈ trim (left ++ '-' :: '>' :: right) := by
    simp only [RouteText.trim_arrow, RouteText.trimStart_mark, List.mem_append,
      RouteText.mem_mark_iff hc]
  have hmarked : ProjectRule.ofText g .including usual
      (RouteText.mark left ++ '-' :: '>' :: right) =
        .ok (.leaf (.route (resolve g .including _ { t with required := true }))) :=
    ProjectRule.ofText_eq_ok_route_iff.mpr
      ⟨mt (hmem (by decide)).mp hbar, mt (hmem (by decide)).mp hand, _,
        RouteText.ofText_mark ht hrequired, rfl⟩
  refine ⟨_, hmarked, ⟨t, ?_, rfl⟩, fun mode => ?_, fun k hk => ?_⟩
  · rw [← hrequired, hroute]
    rfl
  · have hlist := selectProjects_route hsearched hg hpolicy mode
    refine ⟨hlist, ?_, ?_⟩
    · -- the search does not look at the mark, so the same projects are touched
      rw [hlist, hroute]
      exact selectProjects_route ⟨_, _, _, rfl⟩ hg rfl mode
    · rw [hlist]
      exact (Graph.pairwise_list g mode).sublist List.filter_sublist
  · rw [keepsLink_route rfl, takes_of_required rfl] at hk
    rw [keepsLink_route hpolicy]
    refine hsearched.takes_of_records ?_
    rw [hroute]
    exact hk

/-- Where `web` leads to `api` over `core` and `core` leads back to `web`, the way back is kept
without the mark and not with it. Both rules list all three. -/
theorem selectProjects_mark_of_way_back :
    let rs : List ProjectRecord :=
      [.code "web" ["core"], .code "core" ["web", "api"], .code "api" []]
    ∃ g route, Graph.ofRecords rs = .ok g ∧
      ProjectRule.ofText g .including none ([] ++ '-' :: '>' :: " id:3".toList) =
        .ok (.leaf (.route route)) ∧
      route.required = false ∧ route.takes ⟨2⟩ ⟨1⟩ = true ∧
      (g.selectProjects (.leaf (.route route)) .owned).map (·.name) = ["api", "core", "web"] ∧
      ∃ marked : Route,
        ProjectRule.ofText g .including none (RouteText.mark [] ++ '-' :: '>' :: " id:3".toList) =
          .ok (.leaf (.route marked)) ∧
        marked.takes ⟨2⟩ ⟨1⟩ = false ∧
        (g.selectProjects (.leaf (.route marked)) .owned).map (·.name) =
          ["api", "core", "web"] := by
  intro rs
  have hread (g : Graph) :
      ProjectRule.ofText g .including none ([] ++ '-' :: '>' :: " id:3".toList) =
        .ok (.leaf (.route (resolve g .including "-> id:3" ⟨.any, none, false, .id ⟨3⟩⟩))) := by
    have htext : [] ++ '-' :: '>' :: " id:3".toList = "-> id:3".toList := rfl
    rw [htext]
    exact ProjectRule.ofText_goal .including none rfl (by cbv) (by decide) (by cbv) g
  obtain ⟨g, route, hg, h, hplain, htakes, hback, hlist⟩ : ∃ g route,
      Graph.ofRecords rs = .ok g ∧
      ProjectRule.ofText g .including none ([] ++ '-' :: '>' :: " id:3".toList) =
        .ok (.leaf (.route route)) ∧
      route.required = false ∧ route.takes ⟨2⟩ ⟨1⟩ = true ∧ route.records ⟨2⟩ ⟨1⟩ = false ∧
      (g.selectProjects (.leaf (.route route)) .owned).map (·.name) = ["api", "core", "web"] :=
    ⟨_, _, by cbv, hread _, by cbv, by cbv, by cbv, by cbv⟩
  obtain ⟨marked, hread, ⟨t, hroute, hmark⟩, hsame, -⟩ :=
    selectProjects_mark (Graph.filedById_of_ofRecords hg) h hplain
  refine ⟨g, route, hg, h, hplain, htakes, hlist, marked, hread, ?_, ?_⟩
  · -- the marked route takes what is recorded, and it records the same
    rw [takes_of_required (by rw [hmark]; rfl), ← hback, hmark, hroute]
    rfl
  · rw [(hsame .owned).2.1, hlist]

end Route

end Landscape
