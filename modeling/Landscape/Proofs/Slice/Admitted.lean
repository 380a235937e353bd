import Landscape.Proofs.Route.Listed

namespace Landscape

/-!
# What a slice never shows

The rules of a slice choose among the projects that its built-in tests admit. A project that is
shown as an end of a dependency only is no exception, for the built-in tests are asked of both
ends.
-/

namespace Slice

variable {s : Slice} {g built : Graph} {r : ProjectRule} {mode : ListMode}

/-- The project passes what the slice tests by itself. -/
def Admits (s : Slice) (p : Project) : Prop :=
  p.ignored = false ∧ (s.keepExternal = true ∨ p.isExternal = false) ∧
    (s.roots = [] ∨ s.Encloses p)

theorem forall_dropped_iff_admits {ms : List Matcher}
    (hms : List.Forall₂ (fun (t : String) m => Matcher.ofTerm t.toList = .ok m) s.roots ms)
    (p : Project) : (∀ t ∈ s.dropped ms, t.holds p = false) ↔ s.Admits p := by
  rw [forall_mem_dropped_iff, not_group_holds_eq_false_iff hms]
  rfl

theorem admits_of_keepsProject (h : s.rule built = .ok r) {p : Project}
    (hp : r.keepsProject p = true) : s.Admits p := by
  obtain ⟨ms, hms, hkeeps⟩ := keeps_iff_of_judged h (ProjectLeaf.onProject_eq_ofMatch p)
  exact (forall_dropped_iff_admits hms p).mp (hkeeps.mp hp).1

theorem admits_ends_of_keepsLink (h : s.rule built = .ok r) {k : Link}
    (hk : r.keepsLink k = true) : s.Admits k.source ∧ s.Admits k.target := by
  obtain ⟨ms, hms, hkeeps⟩ := keeps_iff_of_judged h (ProjectLeaf.onLink_eq_ofMatch k)
  have hends (t : ProjectTest) (ht : t ∈ s.dropped ms) :
      t.holds k.source = false ∧ t.holds k.target = false :=
    Bool.or_eq_false_iff.mp ((hkeeps.mp hk).1 t ht)
  constructor
  · exact (forall_dropped_iff_admits hms k.source).mp fun t ht => (hends t ht).1
  · exact (forall_dropped_iff_admits hms k.target).mp fun t ht => (hends t ht).2

theorem admits_of_mem_selectProjects (hg : g.FiledById) (h : s.rule built = .ok r) {p : Project}
    (hp : p ∈ g.selectProjects r mode) : s.Admits p := by
  obtain ⟨hlisted, q, hq, hkept | ⟨k, hk, hkept, hid⟩⟩ := Graph.mem_selectProjects_iff.mp hp
  · rw [Graph.eq_of_id_eq hg hlisted hq hkept.2]
    exact admits_of_keepsProject h hkept.1
  · obtain ⟨rfl, -, htarget, -⟩ := Graph.link_mem_dependencies_iff.mp hk
    obtain ⟨hs, ht⟩ := admits_ends_of_keepsLink h hkept
    rcases hid with hid | hid
    · rw [Graph.eq_of_id_eq hg hlisted hq hid]
      exact hs
    · -- the target need not be listed in this mode, but it is the project filed under the id
      rw [Graph.eq_of_filed_of_id_eq hg hlisted htarget hid]
      exact ht

/-- Whatever rules a slice has, and whatever graph they were read on, it shows no project, alone
or as an end of a dependency, that is ignored, that is external unless external ones are wanted,
or that lies in no group of the root terms if there are any. No query shows an ignored or an
external project. The graph shown has its projects filed under their own ids. -/
theorem selections_admitted (hg : g.FiledById) (h : s.rule built = .ok r) (mode : ListMode) :
    (∀ p ∈ g.selectProjects r mode, s.Admits p) ∧
    (∀ k ∈ g.selectLinks r mode, s.Admits k.source ∧ s.Admits k.target) ∧
    ∀ c params usual q, c.graph = g → Query.compile c params usual = .ok q →
      ∀ p ∈ q.projects, p.ignored = false ∧ p.isExternal = false := by
  refine ⟨fun p hp => admits_of_mem_selectProjects hg h hp, fun k hk => ?_, ?_⟩
  · exact admits_ends_of_keepsLink h (List.mem_filter.mp hk).2
  · rintro c params usual q rfl hq p hp
    obtain ⟨hcatalog, hrule⟩ := Query.projectRule_of_compile_eq_ok hq
    rw [Query.projects, hcatalog] at hp
    obtain ⟨hignored, hexternal, -⟩ := admits_of_mem_selectProjects hg hrule hp
    exact ⟨hignored, hexternal.resolve_left Bool.false_ne_true⟩

/-- Where `web` depends on the ignored `old` and on the library `lib`, a slice that adds `web` and
`old` by their ids and `lib` by a route to it shows `web` alone. -/
theorem selections_admitted_of_three_projects :
    let s : Slice := { added := ["id:1 | id:2", "-> id:3"] }
    ∃ g r, Graph.ofRecords [.code "web" ["old", "lib"],
        { ProjectRecord.code "old" [] with ignored := true }] = .ok g ∧
      s.rule g = .ok r ∧ (g.selectProjects r .all).map (·.name) = ["web"] ∧
      (∀ p ∈ g.selectProjects r .all, s.Admits p) ∧
      ∀ k ∈ g.selectLinks r .all, s.Admits k.source ∧ s.Admits k.target := by
  intro s
  have hadmitted {g : Graph} {r : ProjectRule}
      (hg : Graph.ofRecords [.code "web" ["old", "lib"],
        { ProjectRecord.code "old" [] with ignored := true }] = .ok g)
      (hr : s.rule g = .ok r) :
      (∀ p ∈ g.selectProjects r .all, s.Admits p) ∧
        ∀ k ∈ g.selectLinks r .all, s.Admits k.source ∧ s.Admits k.target := by
    obtain ⟨hprojects, hlinks, -⟩ := selections_admitted (Graph.filedById_of_ofRecords hg) hr .all
    exact ⟨hprojects, hlinks⟩
  have hrule (g : Graph) : s.rule g = .ok (.any
      [.any [.leaf (.test ⟨.id ⟨1⟩, .including⟩), .leaf (.test ⟨.id ⟨2⟩, .including⟩)],
        .leaf (.route (.resolve g .including "-> id:3" ⟨.any, none, false, .id ⟨3⟩⟩)),
        ProjectRule.dropIgnored, ProjectRule.dropExternal]) := by
    have hids : ProjectRule.ofText g .including none "id:1 | id:2".toList =
        .ok (.any [.leaf (.test ⟨.id ⟨1⟩, .including⟩), .leaf (.test ⟨.id ⟨2⟩, .including⟩)]) := by
      cbv
    have hroute : ProjectRule.ofText g .including none "-> id:3".toList =
        .ok (.leaf (.route (.resolve g .including "-> id:3" ⟨.any, none, false, .id ⟨3⟩⟩))) :=
      ProjectRule.ofText_goal .including none rfl (by cbv) (by decide) (by cbv) g
    simp only [s, Slice.rule, List.mapM_cons, List.mapM_nil, hids, hroute]
    rfl
  obtain ⟨g, hg, hnames⟩ : ∃ g, Graph.ofRecords [.code "web" ["old", "lib"],
      { ProjectRecord.code "old" [] with ignored := true }] = .ok g ∧
        ∀ r, s.rule g = .ok r → (g.selectProjects r .all).map (·.name) = ["web"] := by
    refine ⟨_, by cbv, fun r hr => ?_⟩
    rw [hrule] at hr
    cases hr
    cbv
  exact ⟨g, _, hg, hrule g, hnames _ (hrule g), hadmitted hg (hrule g)⟩

end Slice

end Landscape
