import Landscape.Proofs.Graph.Loading
import Landscape.Proofs.Graph.Renumbering
import Landscape.Proofs.Route.Written

namespace Landscape

/-!
# Records in another order

Records may be listed in any order. The numbers that are given away depend on it, and nothing else
does.
-/

instance {k : Kind} : Finite (Id k) :=
  Finite.of_injective (fun i => (⟨i.toNat, i.toNat_lt⟩ : Fin Id.count)) fun _ _ h =>
    Id.toNat_inj.mp (Fin.mk.inj h)

/-- What is written together differs in its ends alone. -/
theorem DependencyRecord.Write.eq_map {σ : ProjectId → ProjectId} {ds : List DependencyRecord}
    {o o' : Option Dependency} (h : Write ds o) (h' : Write ds o')
    (hends : ∀ e e', o = some e → o' = some e' →
      e'.source = σ e.source ∧ e'.target = σ e.target) :
    o' = o.map (Dependency.renumber σ) := by
  cases o with
  | none =>
      obtain rfl : ds = [] := h
      cases o' with
      | none => rfl
      | some e' => exact absurd rfl h'.1
  | some e =>
      cases o' with
      | none => exact absurd h' h.1
      | some e' =>
          obtain ⟨hsource, htarget⟩ := hends e e' rfl rfl
          refine congrArg some ?_
          rw [h'.2, hsource, htarget, h.2]
          rfl

namespace Graph

variable {rs rs' : List ProjectRecord} {g g' : Graph}

/-! ## Loading -/

theorem undeclared_perm (hperm : rs.Perm rs') : (undeclared rs).Perm (undeclared rs') := by
  refine (List.perm_ext_iff_of_nodup (nodup_undeclared rs) (nodup_undeclared rs')).mpr fun n => ?_
  rw [mem_undeclared_iff, mem_undeclared_iff, (hperm.map _).mem_iff]
  simp only [hperm.mem_iff]

theorem numbered_perm (hperm : rs.Perm rs') : (numbered rs).Perm (numbered rs') :=
  ((hperm.filter _).map _).append (undeclared_perm hperm)

theorem firstId_perm {ids ids' : List ProjectId} (hperm : ids.Perm ids') :
    Roster.firstId ids = Roster.firstId ids' := by
  have hcomm : RightCommutative fun (n : Nat) (i : ProjectId) => max n (i.toNat + 1) :=
    ⟨fun n i j => by omega⟩
  exact hperm.foldl_eq 1

theorem valid_rosterOf_perm (hperm : rs.Perm rs') (h : (rosterOf rs).Valid) :
    (rosterOf rs').Valid := by
  rw [valid_rosterOf_iff] at h ⊢
  obtain ⟨hnames, hids, hle⟩ := h
  refine ⟨(hperm.map _).nodup_iff.mp hnames, (hperm.filterMap _).nodup_iff.mp hids, ?_⟩
  rwa [← firstId_perm (hperm.filterMap _), ← (numbered_perm hperm).length_eq]

theorem saidOf_mentions_perm (hperm : rs.Perm rs') (hnodup : (rs.map (·.name)).Nodup)
    (n t : String) : saidOf (mentions rs') n t = saidOf (mentions rs) n t := by
  have hnodup' : (rs'.map (·.name)).Nodup := (hperm.map _).nodup_iff.mp hnodup
  by_cases hn : n ∈ rs.map (·.name)
  · obtain ⟨r, hr, rfl⟩ := List.mem_map.mp hn
    rw [saidOf_mentions hnodup hr, saidOf_mentions hnodup' (hperm.mem_iff.mp hr)]
  · have hn' : n ∉ rs'.map (·.name) := fun h => hn ((hperm.map _).mem_iff.mpr h)
    rw [saidOf_mentions_eq_nil hn, saidOf_mentions_eq_nil hn']

/-! ## The ids of the same names -/

/-- Where two graphs have projects of the same names, their ids go over into each other. -/
theorem Consistent.exists_perm (hg : g.Consistent) (hg' : g'.Consistent)
    (hnames : ∀ n, g'.idOf? n = none ↔ g.idOf? n = none) :
    ∃ σ : Equiv.Perm ProjectId, ∀ n, g'.idOf? n = (g.idOf? n).map σ := by
  have := Fintype.ofFinite ProjectId
  let move (i : ProjectId) : ProjectId := (((g.get? i).map (·.name)).bind g'.idOf?).getD i
  have hmove (n : String) (i : ProjectId) (hi : g.idOf? n = some i) :
      g'.idOf? n = some (move i) := by
    obtain ⟨p, hp, rfl⟩ := (hg.idOf?_eq_some_iff n i).mp hi
    have hp : g.get? i = some p := hp
    cases hj : g'.idOf? p.name with
    | none =>
        rw [(hnames p.name).mp hj] at hi
        cases hi
    | some j => simp [move, hp, hj]
  have hinj : Set.InjOn move {i | (g.get? i).isSome} := by
    intro i hi j hj heq
    obtain ⟨p, hp⟩ := Option.isSome_iff_exists.mp hi
    obtain ⟨q, hq⟩ := Option.isSome_iff_exists.mp hj
    have hpi := hmove p.name i ((hg.idOf?_eq_some_iff p.name i).mpr (named_of_get? hp))
    have hqj := hmove q.name j ((hg.idOf?_eq_some_iff q.name j).mpr (named_of_get? hq))
    rw [← heq] at hqj
    have hp' : g'.Named (move i) p.name := (hg'.idOf?_eq_some_iff _ _).mp hpi
    have hq' : g'.Named (move i) q.name := (hg'.idOf?_eq_some_iff _ _).mp hqj
    exact hg.uniqueNames i j p q hp hq (hp'.unique hq')
  obtain ⟨σ, hσ⟩ := Set.MapsTo.exists_equiv_extend_of_card_eq (t := Finset.univ)
    Finset.card_univ.symm (fun i _ => Finset.mem_coe.mpr (Finset.mem_univ (move i))) hinj
  refine ⟨σ.trans (Equiv.subtypeUnivEquiv Finset.mem_univ), fun n => ?_⟩
  cases hi : g.idOf? n with
  | none => exact (hnames n).mpr hi
  | some i =>
      obtain ⟨p, hp, -⟩ := (hg.idOf?_eq_some_iff n i).mp hi
      have hstored : (g.get? i).isSome := Option.isSome_iff_exists.mpr ⟨p, hp⟩
      rw [hmove n i hi, ← hσ i hstored]
      rfl

theorem renumbers_of_named? {σ : Equiv.Perm ProjectId} (hg : g.Consistent) (hg' : g'.Consistent)
    (h : ∀ n, g'.named? n = (g.named? n).map (Project.renumber σ)) : g.Renumbers σ g' := by
  intro i
  cases hp : g.get? i with
  | some p =>
      have hid : p.id = i := hg.filedById i p hp
      have hn := h p.name
      rw [hg.named?_eq_some_iff.mpr ⟨hid.symm ▸ hp, rfl⟩, Option.map_some] at hn
      have hget := (hg'.named?_eq_some_iff.mp hn).1
      rw [← hid]
      exact hget
  | none =>
      cases hq : g'.get? (σ i) with
      | none => rfl
      | some q =>
          have hid : q.id = σ i := hg'.filedById (σ i) q hq
          have hn : g'.named? q.name = some q := hg'.named?_eq_some_iff.mpr ⟨hid ▸ hq, rfl⟩
          rw [h q.name] at hn
          obtain ⟨p, hp', rfl⟩ := Option.map_eq_some_iff.mp hn
          have hpid : p.id = i := σ.injective hid
          rw [← hpid, (hg.named?_eq_some_iff.mp hp').1] at hp
          cases hp

/-! ## The same graph by name -/

section

variable (h : g.Holds (rosterOf rs) (mentions rs)) (h' : g'.Holds (rosterOf rs') (mentions rs'))
  (hperm : rs.Perm rs') (hnodup : (rs.map (·.name)).Nodup)

include h h' hperm

theorem named?_eq_none_iff_of_perm (n : String) : g'.named? n = none ↔ g.named? n = none := by
  rw [h.named?_eq_none_iff, h'.named?_eq_none_iff, (names_rosterOf_perm rs).mem_iff,
    (names_rosterOf_perm rs').mem_iff, List.mem_append, List.mem_append, (hperm.map _).mem_iff,
    (undeclared_perm hperm).mem_iff]

/-- Apart from its id and its dependencies a project comes from one record, or from none. -/
theorem bare_eq_of_perm {n : String} {p p' : Project} (hp : g.named? n = some p)
    (hp' : g'.named? n = some p') : p'.bare = { p.bare with id := p'.id } := by
  have hmem : n ∈ (rosterOf rs).names := by
    by_contra hn
    rw [h.named?_eq_none_iff.mpr hn] at hp
    cases hp
  rw [(names_rosterOf_perm rs).mem_iff, List.mem_append] at hmem
  rcases hmem with hn | hn
  · obtain ⟨r, hr, rfl⟩ := List.mem_map.mp hn
    obtain ⟨q, hq, hbare, -⟩ := h.exists_of_mem hr
    obtain ⟨q', hq', hbare', -⟩ := h'.exists_of_mem (hperm.mem_iff.mp hr)
    obtain rfl : q = p := Option.mem_unique hq hp
    obtain rfl : q' = p' := Option.mem_unique hq' hp'
    rw [hbare, hbare']
    rfl
  · obtain ⟨q, hq, hlibrary⟩ := h.exists_library hn
    obtain ⟨q', hq', hlibrary'⟩ := h'.exists_library ((undeclared_perm hperm).mem_iff.mp hn)
    obtain rfl : q = p := Option.mem_unique hq hp
    obtain rfl : q' = p' := Option.mem_unique hq' hp'
    rw [hlibrary, hlibrary']
    rfl

include hnodup

theorem named?_eq_of_perm {σ : Equiv.Perm ProjectId}
    (hσ : ∀ n, g'.idOf? n = (g.idOf? n).map σ) (n : String) :
    g'.named? n = (g.named? n).map (Project.renumber σ) := by
  cases hp : g.named? n with
  | none => exact (named?_eq_none_iff_of_perm h h' hperm n).mpr hp
  | some p =>
      cases hp' : g'.named? n with
      | none =>
          rw [(named?_eq_none_iff_of_perm h h' hperm n).mp hp'] at hp
          cases hp
      | some p' =>
          have hid : p'.id = σ p.id := by
            have hmoved := hσ n
            rw [h.consistent.idOf?_of_named? hp, h'.consistent.idOf?_of_named? hp'] at hmoved
            exact Option.some.inj hmoved
          have hbare := bare_eq_of_perm h h' hperm hp hp'
          obtain ⟨hget, rfl⟩ := h.consistent.named?_eq_some_iff.mp hp
          obtain ⟨hget', hname⟩ := h'.consistent.named?_eq_some_iff.mp hp'
          have hdeps : p'.dependencies = p.dependencies.mapValues (Dependency.renumber σ) := by
            refine Map.ext_get? fun t => ?_
            rw [Map.get?_mapValues]
            have hwrite' := h'.write p'.id p' hget' t
            rw [hname, saidOf_mentions_perm hperm hnodup] at hwrite'
            refine (h.write p.id p hget t).eq_map hwrite' fun e e' he he' => ?_
            obtain ⟨hsource, htarget⟩ := h.consistent.links p.id p hget t e he
            obtain ⟨hsource', htarget'⟩ := h'.consistent.links p'.id p' hget' t e' he'
            have hmoved := hσ t
            rw [(h.consistent.idOf?_eq_some_iff t e.target).mpr htarget,
              (h'.consistent.idOf?_eq_some_iff t e'.target).mpr htarget'] at hmoved
            exact ⟨by rw [hsource, hsource', hid], Option.some.inj hmoved⟩
          have hwhole : p' = { p'.bare with dependencies := p'.dependencies } := rfl
          rw [hwhole, hbare, hid, hdeps]
          rfl

end

/-- Records that load in one order load in every order, and the graphs are the same by name: they
differ in the numbers that were given away alone. A slice that asks for no id shows the same names
in the same order. -/
theorem ofRecords_perm (hperm : rs.Perm rs') (hg : ofRecords rs = .ok g) :
    ∃ g', ofRecords rs' = .ok g' ∧
      (∃ σ : Equiv.Perm ProjectId, (∀ r ∈ rs, ∀ i, r.id = some i → σ i = i) ∧
        g.Renumbers σ g' ∧ ∀ n, g'.named? n = (g.named? n).map (Project.renumber σ)) ∧
      ∀ s : Slice, s.AsksNoId → ∀ mode, s.shown g' mode = s.shown g mode := by
  have hrun := succeedsIff_ofRecords rs
  have hvalid : (rosterOf rs).Valid := hrun.exists_ok_iff.mp ⟨g, hg⟩
  have hnodup : (rs.map (·.name)).Nodup := ((valid_rosterOf_iff rs).mp hvalid).1
  have h : g.Holds (rosterOf rs) (mentions rs) := hrun.of_ok hg
  have hrun' := succeedsIff_ofRecords rs'
  obtain ⟨g', hg'⟩ := hrun'.exists_ok_iff.mpr (valid_rosterOf_perm hperm hvalid)
  have h' : g'.Holds (rosterOf rs') (mentions rs') := hrun'.of_ok hg'
  have hnone (n : String) : g'.idOf? n = none ↔ g.idOf? n = none := by
    rw [h'.idOf?_eq_none_iff, h.idOf?_eq_none_iff, ← h'.named?_eq_none_iff,
      ← h.named?_eq_none_iff]
    exact named?_eq_none_iff_of_perm h h' hperm n
  obtain ⟨σ, hσ⟩ := h.consistent.exists_perm h'.consistent hnone
  have hnamed := named?_eq_of_perm h h' hperm hnodup hσ
  have hrenumbers := renumbers_of_named? h.consistent h'.consistent hnamed
  refine ⟨g', hg', ⟨σ, fun r hr i hi => ?_, hrenumbers, hnamed⟩, fun s hs mode => ?_⟩
  · obtain ⟨p, hp, -, hid⟩ := h.exists_of_mem hr
    obtain ⟨p', hp', -, hid'⟩ := h'.exists_of_mem (hperm.mem_iff.mp hr)
    rw [hnamed, hp, Option.map_some, Option.some.injEq] at hp'
    have hmoved : σ p.id = p'.id := congrArg Project.id hp'
    rwa [hid i hi, hid' i hi] at hmoved
  · exact Slice.shown_eq hrenumbers h.consistent.uniqueNames h'.consistent.uniqueNames hs mode

/-- In the one order `web` gets the number 1 and in the other 2, and the route from anywhere to
anywhere shows the same. -/
theorem ofRecords_perm_of_two_records :
    let rs : List ProjectRecord := [.code "web" ["core", "pad"], .code "core" []]
    let s : Slice := { added := ["->"] }
    ∃ g g', ofRecords rs = .ok g ∧ ofRecords rs.reverse = .ok g' ∧
      (g.named? "web").map (·.id) = some ⟨1⟩ ∧ (g'.named? "web").map (·.id) = some ⟨2⟩ ∧
      s.shown g .all = .ok (["core", "web"], [("web", "core")]) ∧
      s.shown g' .all = s.shown g .all := by
  intro rs s
  have hterms : s.terms = .ok (.any [.leaf (.route .including "->" ⟨.any, none, false, .any⟩),
      Slice.drop .ignored, Slice.drop .external]) := by
    have hterm : Formula.ofRule (ProjectTerm.ofText .including none) "->".toList =
        .ok (.leaf (.route .including "->" ⟨.any, none, false, .any⟩)) :=
      ProjectTerm.ofRule_goal .including none rfl (by cbv) (by decide) (by cbv)
    simp only [s, Slice.terms, Slice.readAll, List.mapM_cons, List.mapM_nil, hterm]
    rfl
  have hs : s.AsksNoId := by
    intro f hf
    rw [hterms] at hf
    cases hf
    simp [Slice.drop, Formula.leaves, Formula.leavesAll, ProjectTerm.AsksId, ProjectTest.AsksId]
  have hshown {g g' : Graph} (hg : ofRecords rs = .ok g) (hg' : ofRecords rs.reverse = .ok g') :
      s.shown g' .all = s.shown g .all := by
    obtain ⟨g'', hg'', -, hall⟩ := ofRecords_perm rs.reverse_perm.symm hg
    rw [hg'] at hg''
    cases hg''
    exact hall s hs .all
  have hrule (g : Graph) : s.rule g = .ok (.any
      [.leaf (.route (Route.resolve g .including "->" ⟨.any, none, false, .any⟩)),
        ProjectRule.dropIgnored, ProjectRule.dropExternal]) := by
    rw [Slice.rule_eq, hterms]
    rfl
  have hshow (g : Graph) : s.shown g .all = _ := congrArg (Functor.map _) (hrule g)
  obtain ⟨g, hg, hweb, hshow⟩ : ∃ g, ofRecords rs = .ok g ∧
      (g.named? "web").map (·.id) = some ⟨1⟩ ∧
      s.shown g .all = .ok (["core", "web"], [("web", "core")]) := by
    refine ⟨_, by cbv, by cbv, ?_⟩
    rw [hshow]
    cbv
  obtain ⟨g', hg', hweb'⟩ : ∃ g', ofRecords rs.reverse = .ok g' ∧
      (g'.named? "web").map (·.id) = some ⟨2⟩ :=
    ⟨_, by cbv, by cbv⟩
  exact ⟨g, g', hg, hg', hweb, hweb', hshow, hshown hg hg'⟩

end Graph

end Landscape
