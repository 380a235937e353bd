import Landscape.Proofs.Slice.Admitted

namespace Landscape

/-!
# Selections in either mode

A mode admits some projects to a listing. The selection of projects looks only at the dependencies
of the projects that it admits: what it shows of the owned projects is what it shows of all of
them, less those that are kept for nothing but a dependency of a library on them.
-/

section

variable {α : Type} {le : α → α → Bool}
  (htrans : ∀ a b c, le a b = true → le b c = true → le a c = true)
  (htotal : ∀ a b, (le a b || le b a) = true)

/-- In a sorted list the members before `a` end where those begin that may stand behind it. -/
theorem takeWhile_of_pairwise {a : α} {before after : List α}
    (hsorted : (before ++ a :: after).Pairwise fun b c => le b c = true)
    (hbefore : ∀ b ∈ before, (!le a b) = true) :
    (before ++ after).takeWhile (fun b => !le a b) = before := by
  rw [List.takeWhile_append_of_pos hbefore]
  have hafter : ∀ b ∈ after, le a b = true :=
    (List.pairwise_cons.mp (List.pairwise_append.mp hsorted).2.1).1
  cases after with
  | nil => simp
  | cons b after =>
      rw [List.takeWhile_cons_of_neg (by simp [hafter b List.mem_cons_self]), List.append_nil]

include htrans htotal

/-- Members may be left out before a list is sorted or afterwards. -/
theorem mergeSort_filter (p : α → Bool) (l : List α) :
    (l.filter p).mergeSort le = (l.mergeSort le).filter p := by
  induction l with
  | nil => simp
  | cons a l ih =>
      obtain ⟨before, after, hsort, hrest, hbefore⟩ := List.mergeSort_cons htrans htotal a l
      rw [hrest, List.filter_append] at ih
      rw [hsort, List.filter_append]
      by_cases ha : p a = true
      · rw [List.filter_cons_of_pos ha, List.filter_cons_of_pos ha]
        obtain ⟨before', after', hsort', hrest', hbefore'⟩ :=
          List.mergeSort_cons htrans htotal a (l.filter p)
        have hsorted := List.pairwise_mergeSort htrans htotal (a :: l)
        have hsorted' := List.pairwise_mergeSort htrans htotal (a :: l.filter p)
        rw [hsort] at hsorted
        rw [hsort'] at hsorted'
        have hfiltered : (before.filter p ++ a :: after.filter p).Sublist (before ++ a :: after) :=
          List.filter_sublist.append (List.filter_sublist.cons_cons a)
        -- `a` goes to the same place among the members that stay
        have hsame : before' ++ after' = before.filter p ++ after.filter p := hrest'.symm.trans ih
        have heq : before' = before.filter p := by
          rw [← takeWhile_of_pairwise hsorted' hbefore', hsame,
            takeWhile_of_pairwise (hsorted.sublist hfiltered)]
          exact fun b hb => hbefore b (List.mem_of_mem_filter hb)
        rw [heq, List.append_cancel_left_eq] at hsame
        rw [hsort', heq, hsame]
      · rw [List.filter_cons_of_neg ha, List.filter_cons_of_neg ha, ih]

end

namespace Graph

variable {g : Graph} {r : ProjectRule} {mode : ListMode}

/-! ## Listings of projects -/

theorem list_owned (g : Graph) : g.list .owned = (g.list .all).filter fun p => !p.isExternal := by
  have hall : g.projects.values.filter ListMode.all.admits = g.projects.values :=
    List.filter_eq_self.mpr fun _ _ => rfl
  unfold list
  rw [hall]
  exact mergeSort_filter listed_trans listed_total _ _

theorem mem_list_of_filed {p : Project} {i : ProjectId} (hp : g.get? i = some p)
    (hadmits : mode.admits p = true) : p ∈ g.list mode :=
  mem_list_iff.mpr ⟨⟨i, hp⟩, hadmits⟩

/-! ## Ends of kept dependencies -/

/-- The project is an end of a dependency that the rule keeps and whose source the mode admits. -/
def EndsKept (g : Graph) (r : ProjectRule) (mode : ListMode) (p : Project) : Prop :=
  ∃ k ∈ g.allDependencies .all, r.keepsLink k = true ∧ mode.admits k.source = true ∧
    (p = k.source ∨ p = k.target)

theorem mem_selectProjects_iff_endsKept (hg : g.FiledById) {p : Project} :
    p ∈ g.selectProjects r mode ↔
      p ∈ g.list mode ∧ (r.keepsProject p = true ∨ g.EndsKept r mode p) := by
  rw [mem_selectProjects_iff]
  refine and_congr_right fun hp => ⟨?_, ?_⟩
  · rintro ⟨q, hq, ⟨hkeeps, hid⟩ | ⟨k, hk, hkeeps, hid⟩⟩
    · left
      rwa [eq_of_id_eq hg hp hq hid]
    · right
      obtain ⟨rfl, hd, htarget, -⟩ := link_mem_dependencies_iff.mp hk
      obtain ⟨⟨i, hi⟩, hadmits⟩ := mem_list_iff.mp hq
      refine ⟨k, mem_allDependencies_iff.mpr ?_, hkeeps, hadmits, ?_⟩
      · exact ⟨mem_list_of_filed hi rfl, mem_list_of_filed htarget rfl, hd, htarget⟩
      · exact hid.imp (eq_of_id_eq hg hp hq) (eq_of_filed_of_id_eq hg hp htarget)
  · rintro (hkeeps | ⟨k, hk, hkeeps, hadmits, hends⟩)
    · exact ⟨p, hp, .inl ⟨hkeeps, rfl⟩⟩
    · obtain ⟨hsource, -, hd, htarget⟩ := mem_allDependencies_iff.mp hk
      obtain ⟨⟨i, hi⟩, -⟩ := mem_list_iff.mp hsource
      refine ⟨k.source, mem_list_of_filed hi hadmits, .inr ⟨k, ?_, hkeeps, ?_⟩⟩
      · exact link_mem_dependencies_iff.mpr ⟨rfl, hd, htarget, rfl⟩
      · exact hends.imp (congrArg Project.id) (congrArg Project.id)

theorem EndsKept.of_owned {p : Project} (h : g.EndsKept r .owned p) : g.EndsKept r .all p := by
  obtain ⟨k, hk, hkeeps, -, hends⟩ := h
  exact ⟨k, hk, hkeeps, rfl, hends⟩

/-- An owned project that ends a kept dependency ends one from an owned project, or one from a
library leads to it. -/
theorem EndsKept.owned_or {p : Project} (h : g.EndsKept r .all p) (hp : p.isExternal = false) :
    g.EndsKept r .owned p ∨ ∃ k ∈ g.allDependencies .all, r.keepsLink k = true ∧
      k.source.isExternal = true ∧ k.target = p := by
  obtain ⟨k, hk, hkeeps, -, hends⟩ := h
  cases hexternal : k.source.isExternal with
  | false => exact .inl ⟨k, hk, hkeeps, by simp [ListMode.admits, hexternal], hends⟩
  | true =>
      refine .inr ⟨k, hk, hkeeps, hexternal, ?_⟩
      rcases hends with rfl | rfl
      · rw [hexternal] at hp
        cases hp
      · rfl

/-- A library's dependency on an owned project that is kept shows its end. -/
def ShowsEndsOfLibraries (g : Graph) (r : ProjectRule) : Prop :=
  ∀ k ∈ g.allDependencies .all, r.keepsLink k = true → k.source.isExternal = true →
    k.target.isExternal = false → k.target ∈ g.selectProjects r .owned

theorem mem_selectProjects_owned_iff (hg : g.FiledById) (h : g.ShowsEndsOfLibraries r)
    {p : Project} : p ∈ g.selectProjects r .owned ↔
      p ∈ g.selectProjects r .all ∧ p.isExternal = false := by
  rw [mem_selectProjects_iff_endsKept hg, mem_selectProjects_iff_endsKept hg, mem_list_owned_iff]
  constructor
  · rintro ⟨⟨hp, howned⟩, hkept⟩
    exact ⟨⟨hp, hkept.imp_right EndsKept.of_owned⟩, howned⟩
  · rintro ⟨⟨hp, hkeeps | hends⟩, howned⟩
    · exact ⟨⟨hp, howned⟩, .inl hkeeps⟩
    · refine ⟨⟨hp, howned⟩, ?_⟩
      rcases hends.owned_or howned with hends | ⟨k, hk, hkeeps, hexternal, rfl⟩
      · exact .inr hends
      · exact ((mem_selectProjects_iff_endsKept hg).mp (h k hk hkeeps hexternal howned)).2

theorem filter_selectProjects_all (g : Graph) (r : ProjectRule) :
    (g.selectProjects r .all).filter (fun p => !p.isExternal) =
      (g.list .owned).filter fun p => p ∈ g.selectProjects r .all := by
  have hall : g.selectProjects r .all = (g.list .all).filter fun p => p ∈ g.selectProjects r .all :=
    selectProjects_eq_filter fun _ _ => Iff.rfl
  rw [list_owned, List.filter_comm, ← hall]

theorem selectProjects_owned_sublist (hg : g.FiledById) : (g.selectProjects r .owned).Sublist
    ((g.selectProjects r .all).filter fun p => !p.isExternal) := by
  have howned : g.selectProjects r .owned =
      (g.list .owned).filter fun p => p ∈ g.selectProjects r .owned :=
    selectProjects_eq_filter fun _ _ => Iff.rfl
  rw [filter_selectProjects_all, howned]
  refine List.monotone_filter_right _ fun p hp => ?_
  rw [decide_eq_true_iff, mem_selectProjects_iff_endsKept hg] at hp ⊢
  exact ⟨(mem_list_owned_iff.mp hp.1).1, hp.2.imp_right EndsKept.of_owned⟩

theorem selectProjects_owned_eq_filter_iff (hg : g.FiledById) :
    g.selectProjects r .owned = (g.selectProjects r .all).filter (fun p => !p.isExternal) ↔
      g.ShowsEndsOfLibraries r := by
  constructor
  · intro heq k hk hkeeps _ howned
    have htarget : k.target ∈ g.list .all := (mem_allDependencies_iff.mp hk).2.1
    rw [heq, List.mem_filter, mem_selectProjects_iff_endsKept hg]
    exact ⟨⟨htarget, .inr ⟨k, hk, hkeeps, rfl, .inr rfl⟩⟩, by simp [howned]⟩
  · intro h
    rw [filter_selectProjects_all]
    refine selectProjects_eq_filter fun p hp => ?_
    rw [mem_selectProjects_owned_iff hg h]
    exact and_iff_left (mem_list_owned_iff.mp hp).2

/-- A slice without external projects keeps no dependency of a library. -/
theorem showsEndsOfLibraries_of_rule {s : Slice} {built : Graph} (h : s.rule built = .ok r)
    (hs : s.keepExternal = false) : g.ShowsEndsOfLibraries r := by
  intro k _ hkeeps hexternal _
  obtain ⟨-, hadmitted, -⟩ := (Slice.admits_ends_of_keepsLink h hkeeps).1
  rw [hs, hexternal] at hadmitted
  simp at hadmitted

/-- A project is shown if and only if the mode admits it and the rule keeps it, or keeps a
dependency that it ends, where only the dependencies of admitted projects count. Of all projects
that is every kept dependency. Of the owned projects no others are shown than among all, in the
same order, and the same ones if and only if each owned project that a library's kept dependency
leads to is shown among them. In a slice without external projects that is always so. -/
theorem selectProjects_exact (hg : g.FiledById) (r : ProjectRule) :
    (∀ mode p, p ∈ g.selectProjects r mode ↔ p ∈ g.list mode ∧ (r.keepsProject p = true ∨
      ∃ k ∈ g.allDependencies .all, r.keepsLink k = true ∧ mode.admits k.source = true ∧
        (p = k.source ∨ p = k.target))) ∧
    (∀ p, p ∈ g.selectProjects r .all ↔ p ∈ g.list .all ∧ (r.keepsProject p = true ∨
      ∃ k ∈ g.allDependencies .all, r.keepsLink k = true ∧ (p = k.source ∨ p = k.target))) ∧
    (g.selectProjects r .owned).Sublist
      ((g.selectProjects r .all).filter fun p => !p.isExternal) ∧
    (g.selectProjects r .owned = (g.selectProjects r .all).filter (fun p => !p.isExternal) ↔
      ∀ k ∈ g.allDependencies .all, r.keepsLink k = true → k.source.isExternal = true →
        k.target.isExternal = false → k.target ∈ g.selectProjects r .owned) ∧
    ∀ (s : Slice) built, s.rule built = .ok r → s.keepExternal = false →
      g.selectProjects r .owned = (g.selectProjects r .all).filter fun p => !p.isExternal := by
  refine ⟨fun mode p => mem_selectProjects_iff_endsKept hg, fun p => ?_,
    selectProjects_owned_sublist hg, selectProjects_owned_eq_filter_iff hg, fun s built h hs => ?_⟩
  · rw [mem_selectProjects_iff_endsKept hg]
    simp only [EndsKept, ListMode.admits, true_and]
  · exact (selectProjects_owned_eq_filter_iff hg).mpr (showsEndsOfLibraries_of_rule h hs)

/-- Where `web` depends on `core` and on the library `lib`, which depends on `core` as well, the
routes to any project but `web` show `core` and `web` among the owned projects. -/
theorem selectProjects_exact_of_library :
    ∃ g r, Graph.ofRecords [.code "web" ["core", "lib"], .code "core" [],
        { ProjectRecord.code "lib" ["core"] with type := .library }] = .ok g ∧
      ProjectRule.ofText g .including none "-> !id:1".toList = .ok r ∧
      (g.selectProjects r .owned).map (·.name) = ["core", "web"] ∧
      (g.selectProjects r .owned).Sublist
        ((g.selectProjects r .all).filter fun p => !p.isExternal) := by
  have hsub {g : Graph} {r : ProjectRule}
      (hg : Graph.ofRecords [.code "web" ["core", "lib"], .code "core" [],
        { ProjectRecord.code "lib" ["core"] with type := .library }] = .ok g) :
      (g.selectProjects r .owned).Sublist
        ((g.selectProjects r .all).filter fun p => !p.isExternal) :=
    (selectProjects_exact (filedById_of_ofRecords hg) r).2.2.1
  have hread (g : Graph) : ProjectRule.ofText g .including none "-> !id:1".toList =
      .ok (.leaf (.route (.resolve g .including "-> !id:1" ⟨.any, none, false, .not (.id ⟨1⟩)⟩))) :=
    ProjectRule.ofText_goal .including none rfl (by cbv) (by decide) (by cbv) g
  refine ⟨_, _, by cbv, hread _, by cbv, hsub ?_⟩
  cbv

/-- In the same graph, a slice with external projects that adds these routes and removes those to
`core` keeps the dependency of `lib` on `core`, but not that of `web`. It shows `core` among all
projects and not among the owned ones. -/
theorem exists_end_not_shown :
    ∃ g r k k', Graph.ofRecords [.code "web" ["core", "lib"], .code "core" [],
        { ProjectRecord.code "lib" ["core"] with type := .library }] = .ok g ∧
      Slice.rule { added := ["-> !id:1"], removed := ["-> id:2"], keepExternal := true } g = .ok r ∧
      (g.allDependencies .all).filter r.keepsLink = [k, k'] ∧
      k.target.name = "core" ∧ ListMode.owned.admits k.target = true ∧
      (g.selectProjects r .all).map (·.name) = ["core", "lib", "web"] ∧
      (g.selectProjects r .owned).map (·.name) = ["web"] := by
  have hrule (g : Graph) :
      Slice.rule { added := ["-> !id:1"], removed := ["-> id:2"], keepExternal := true } g =
        .ok (.any
          [.leaf (.route (.resolve g .including "-> !id:1" ⟨.any, none, false, .not (.id ⟨1⟩)⟩)),
            .leaf (.route (.resolve g .excluding "-> id:2" ⟨.any, none, false, .id ⟨2⟩⟩)),
            ProjectRule.dropIgnored]) := by
    have hadded : ProjectRule.ofText g .including none "-> !id:1".toList = .ok (.leaf
        (.route (.resolve g .including "-> !id:1" ⟨.any, none, false, .not (.id ⟨1⟩)⟩))) :=
      ProjectRule.ofText_goal .including none rfl (by cbv) (by decide) (by cbv) g
    have hremoved : ProjectRule.ofText g .excluding none "-> id:2".toList =
        .ok (.leaf (.route (.resolve g .excluding "-> id:2" ⟨.any, none, false, .id ⟨2⟩⟩))) :=
      ProjectRule.ofText_goal .excluding none rfl (by cbv) (by decide) (by cbv) g
    simp only [Slice.rule, List.mapM_cons, List.mapM_nil, hadded, hremoved]
    rfl
  refine ⟨_, _, _, _, by cbv, hrule _, by cbv, ?_, ?_, ?_, ?_⟩
  · cbv
  · cbv
  · cbv
  · cbv

end Graph

end Landscape
