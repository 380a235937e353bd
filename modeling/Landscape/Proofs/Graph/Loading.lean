import Landscape.Catalog.Basic
import Landscape.Proofs.Graph.Holds

namespace Landscape

/-!
# What is loaded

The graph of a list of records has the projects that the records declare and, for each target that
no record declares, a library. There is such a graph if and only if names and ids are distinct and
the numbers last.
-/

namespace Graph

/-! ## The three passes -/

section

variable (rs : List ProjectRecord)

def givenOf : List Project := rs.filterMap fun r => r.id.map r.project

def draftsOf : List Project := (rs.filter (·.id.isNone)).map (·.project ⟨0⟩)

def declaredOf : Roster := ⟨givenOf rs, draftsOf rs⟩

/-- The dependencies that the records list, each with the name of its source. -/
def mentions : List (String × DependencyRecord) :=
  rs.flatMap fun r => r.dependencies.map (r.name, ·)

abbrev rosterOf : Roster := (declaredOf rs).withTargets (mentions rs)

end

variable {rs : List ProjectRecord} {g : Graph}

theorem map_id_givenOf (rs : List ProjectRecord) :
    (givenOf rs).map (·.id) = rs.filterMap (·.id) := by
  simp [givenOf, List.map_filterMap, Function.comp_def, ProjectRecord.project]

theorem names_declaredOf_perm (rs : List ProjectRecord) :
    (declaredOf rs).names.Perm (rs.map (·.name)) := by
  induction rs with
  | nil => exact .nil
  | cons r rs ih =>
      cases hid : r.id with
      | none =>
          have hnames : (declaredOf (r :: rs)).names =
              (givenOf rs).map (·.name) ++ r.name :: (draftsOf rs).map (·.name) := by
            simp [Roster.names, declaredOf, givenOf, draftsOf, hid, ProjectRecord.project]
          rw [hnames, List.map_cons]
          refine List.perm_middle.trans (.cons _ ?_)
          rwa [← List.map_append]
      | some i =>
          have hnames : (declaredOf (r :: rs)).names = r.name :: (declaredOf rs).names := by
            simp [Roster.names, declaredOf, givenOf, draftsOf, hid, ProjectRecord.project]
          rw [hnames, List.map_cons]
          exact ih.cons _

theorem succeedsIff_insertGiven (rs : List ProjectRecord) :
    SucceedsIff (Roster.mk (givenOf rs) []).Valid (Holds · ⟨givenOf rs, []⟩ [])
      (insertGiven empty rs) := by
  refine SucceedsIff.foldlM (C := fun rs => (Roster.mk (givenOf rs) []).Valid)
    (P := fun rs g => Holds g ⟨givenOf rs, []⟩ []) ?_ ?_ ?_ holds_empty
  · intro done as h
    exact h.of_begins (by simp [givenOf]) (List.prefix_refl _)
  · intro done r _ g hvalid h
    cases hid : r.id with
    | none =>
        have hgiven : givenOf (done ++ [r]) = givenOf done := by simp [givenOf, hid]
        rw [hgiven]
        exact ⟨hvalid, h⟩
    | some i =>
        have hgiven : givenOf (done ++ [r]) = givenOf done ++ [r.project i] := by
          simp [givenOf, hid]
        rw [hgiven]
        exact h.insert hvalid rfl rfl
  · exact ⟨List.nodup_nil, List.nodup_nil, by decide⟩

theorem succeedsIff_insertOpen (h : g.Holds ⟨givenOf rs, []⟩ [])
    (hvalid : (Roster.mk (givenOf rs) []).Valid) :
    SucceedsIff (declaredOf rs).Valid (Holds · (declaredOf rs) []) (g.insertOpen rs) := by
  refine SucceedsIff.foldlM (C := fun done => (Roster.mk (givenOf rs) (draftsOf done)).Valid)
    (P := fun done g => Holds g ⟨givenOf rs, draftsOf done⟩ []) ?_ ?_ hvalid h
  · intro done as h
    exact h.of_begins (List.prefix_refl _) (by simp [draftsOf])
  · intro done r _ g hvalid h
    cases hid : r.id with
    | some i =>
        have hdrafts : draftsOf (done ++ [r]) = draftsOf done := by simp [draftsOf, hid]
        rw [hdrafts]
        exact ⟨hvalid, h⟩
    | none =>
        have hdrafts : draftsOf (done ++ [r]) = draftsOf done ++ [r.project ⟨0⟩] := by
          simp [draftsOf, hid]
        rw [hdrafts]
        cases hn : g.named? r.name with
        | some p =>
            intro hnew
            have hfree : r.name ∉ (Roster.mk (givenOf rs) (draftsOf done)).names :=
              ((Roster.valid_addDraft_iff hvalid).mp hnew).1
            rw [h.named?_eq_none_iff.mpr hfree] at hn
            cases hn
        | none =>
            have hcreate := h.getOrCreate (p := r.project ⟨0⟩) (f := fun i _ => r.project i)
              hvalid (h.named?_eq_none_iff.mp hn) rfl fun i => rfl
            exact hcreate.bind id fun x hvalid hx => ⟨hvalid, hx.1⟩

theorem Holds.addAll {R : Roster} {done : List (String × DependencyRecord)} {i : ProjectId}
    {n : String} (h : g.Holds (R.withTargets done) done) (hvalid : (R.withTargets done).Valid)
    (hi : g.Named i n) (ds : List DependencyRecord) :
    SucceedsIff (R.withTargets (done ++ ds.map (n, ·))).Valid
      (Holds · (R.withTargets (done ++ ds.map (n, ·))) (done ++ ds.map (n, ·)))
      (ds.foldlM (Graph.addRecord i) g) := by
  have hrun := SucceedsIff.foldlM (l := ds) (s := g) (f := Graph.addRecord i)
    (C := fun ds => (R.withTargets (done ++ ds.map (n, ·))).Valid)
    (P := fun ds g => Holds g (R.withTargets (done ++ ds.map (n, ·))) (done ++ ds.map (n, ·)) ∧
      Named g i n) ?_ ?_ (by simpa using hvalid) ⟨by simpa using h, hi⟩
  · exact hrun.imp fun g' hg' => hg'.1
  · intro ds more hmore
    rw [List.map_append, ← List.append_assoc] at hmore
    exact hmore.of_withTargets_append
  · intro ds d _ g hvalid hg
    have hstep := hg.1.addRecord (d := d) hvalid hg.2
    rwa [List.map_append, List.map_singleton, ← List.append_assoc,
      Roster.withTargets_append_singleton]

theorem succeedsIff_addRecords (h : g.Holds (declaredOf rs) [])
    (hvalid : (declaredOf rs).Valid) :
    SucceedsIff (rosterOf rs).Valid (Holds · (rosterOf rs) (mentions rs)) (g.addRecords rs) := by
  refine SucceedsIff.foldlM
    (C := fun done => ((declaredOf rs).withTargets (mentions done)).Valid)
    (P := fun done g => Holds g ((declaredOf rs).withTargets (mentions done)) (mentions done))
    ?_ ?_ ?_ ?_
  · intro done as h
    rw [mentions, List.flatMap_append] at h
    exact h.of_withTargets_append
  · intro done r hr g hvalid h
    cases hn : g.named? r.name with
    | none =>
        have hdeclared : r.name ∈ (declaredOf rs).names :=
          (names_declaredOf_perm rs).mem_iff.mpr (List.mem_map_of_mem hr)
        have hmem := h.named?_eq_none_iff.mp hn
        rw [Roster.names_withTargets] at hmem
        exact absurd (List.mem_append_left _ hdeclared) hmem
    | some p =>
        obtain ⟨hp, hname⟩ := h.consistent.named?_eq_some_iff.mp hn
        have hmentions : mentions (done ++ [r]) =
            mentions done ++ r.dependencies.map (r.name, ·) := by
          simp [mentions]
        rw [hmentions]
        exact h.addAll hvalid ⟨p, hp, hname⟩ r.dependencies
  · rwa [mentions, List.flatMap_nil, Roster.withTargets_nil]
  · rwa [mentions, List.flatMap_nil, Roster.withTargets_nil]

theorem succeedsIff_ofRecords (rs : List ProjectRecord) :
    SucceedsIff (rosterOf rs).Valid (Holds · (rosterOf rs) (mentions rs)) (ofRecords rs) := by
  have hdeclared (h : (rosterOf rs).Valid) : (declaredOf rs).Valid := by
    have h : ((declaredOf rs).withTargets ([] ++ mentions rs)).Valid := h
    simpa using h.of_withTargets_append
  refine (succeedsIff_insertGiven rs).bind ?_ fun g₁ hvalid h₁ => ?_
  · exact fun h => (hdeclared h).of_begins (List.prefix_refl _) List.nil_prefix
  exact (succeedsIff_insertOpen h₁ hvalid).bind hdeclared fun g₂ hvalid h₂ =>
    succeedsIff_addRecords h₂ hvalid

theorem consistent_of_ofRecords (h : ofRecords rs = .ok g) : g.Consistent :=
  ((succeedsIff_ofRecords rs).of_ok h).consistent

theorem filedById_of_ofRecords (h : ofRecords rs = .ok g) : g.FiledById :=
  (consistent_of_ofRecords h).filedById

theorem consistent_of_ofRecord {r : CatalogRecord} {c : Catalog} (h : Catalog.ofRecord r = .ok c) :
    c.graph.Consistent := by
  obtain ⟨g, hg, h⟩ := exists_of_bind_eq_ok h
  obtain ⟨-, -, h⟩ := exists_of_bind_eq_ok h
  obtain ⟨-, -, h⟩ := exists_of_bind_eq_ok h
  obtain ⟨-, -, h⟩ := exists_of_bind_eq_ok h
  obtain ⟨-, -, h⟩ := exists_of_bind_eq_ok h
  cases h
  exact consistent_of_ofRecords hg

theorem consistent_of_ofText {text : String} {c : Catalog} (h : Catalog.ofText text = .ok c) :
    c.graph.Consistent := by
  unfold Catalog.ofText at h
  split at h
  · cases h
  · split at h
    · cases h
    · rename_i hc
      cases h
      exact consistent_of_ofRecord hc

/-! ## The graph of the records -/

/-- The targets that no record declares, in the order in which they are mentioned first. -/
def undeclared (rs : List ProjectRecord) : List String :=
  (((rs.flatMap (·.dependencies)).map (·.target)).filter fun t => t ∉ rs.map (·.name)).eraseDups

/-- The names of the projects that get a number: the records without an id, then the targets. -/
def numbered (rs : List ProjectRecord) : List String :=
  (rs.filter (·.id.isNone)).map (·.name) ++ undeclared rs

/-- The project has a dependency on the one of the name if and only if a record among `ds` lists
it, with the versions of all those records, and under each key what the last of them has there. -/
def Joins (g : Graph) (p : Project) (ds : List DependencyRecord) (t : String) : Prop :=
  ((p.dependencies.get? t).isSome ↔ ∃ d ∈ ds, d.target = t) ∧
  ∀ e, p.dependencies.get? t = some e →
    e.source = p.id ∧ (∃ q, g.named? t = some q ∧ e.target = q.id) ∧
    (∀ v, e.versions.contains v = true ↔ ∃ d ∈ ds, d.target = t ∧ d.versions.contains v = true) ∧
    ∀ k, e.data.get? k = ((ds.filter (·.target = t)).filterMap fun d => d.data.get? k).getLast?

theorem mem_undeclared_iff {n : String} : n ∈ undeclared rs ↔
    (∃ r ∈ rs, ∃ d ∈ r.dependencies, d.target = n) ∧ n ∉ rs.map (·.name) := by
  rw [undeclared, List.mem_eraseDups, List.mem_filter, decide_eq_true_iff, List.mem_map]
  refine and_congr_left' ?_
  simp only [List.mem_flatMap]
  grind

theorem lacked_declaredOf (rs : List ProjectRecord) :
    (declaredOf rs).lacked (mentions rs) = undeclared rs := by
  have htargets : (mentions rs).map (·.2.target) =
      (rs.flatMap (·.dependencies)).map (·.target) := by
    simp [mentions, List.map_flatMap, Function.comp_def]
  rw [Roster.lacked, htargets, undeclared]
  congr 1
  exact List.filter_congr fun t _ =>
    decide_eq_decide.mpr (not_congr (names_declaredOf_perm rs).mem_iff)

theorem names_rosterOf_perm (rs : List ProjectRecord) :
    (rosterOf rs).names.Perm (rs.map (·.name) ++ undeclared rs) := by
  rw [Roster.names_withTargets, lacked_declaredOf]
  exact (names_declaredOf_perm rs).append_right _

theorem map_name_drafts_rosterOf (rs : List ProjectRecord) :
    (rosterOf rs).drafts.map (·.name) = numbered rs := by
  rw [rosterOf, Roster.withTargets, List.map_append, Project.map_name_library, lacked_declaredOf,
    numbered, declaredOf, draftsOf, List.map_map]
  rfl

theorem start_rosterOf (rs : List ProjectRecord) :
    (rosterOf rs).start = Roster.firstId (rs.filterMap (·.id)) := by
  rw [Roster.start, ← map_id_givenOf]
  rfl

theorem nodup_undeclared (rs : List ProjectRecord) : (undeclared rs).Nodup :=
  lacked_declaredOf rs ▸ Roster.nodup_lacked _ _

theorem valid_rosterOf_iff (rs : List ProjectRecord) : (rosterOf rs).Valid ↔
    (rs.map (·.name)).Nodup ∧ (rs.filterMap (·.id)).Nodup ∧
      Roster.firstId (rs.filterMap (·.id)) + (numbered rs).length ≤ Id.count := by
  have hnodup : (rosterOf rs).names.Nodup ↔ (rs.map (·.name)).Nodup := by
    rw [(names_rosterOf_perm rs).nodup_iff, List.nodup_append]
    refine ⟨fun h => h.1, fun h => ⟨h, nodup_undeclared rs, ?_⟩⟩
    rintro n hn _ hn' rfl
    exact (mem_undeclared_iff.mp hn').2 hn
  rw [Roster.valid_iff, hnodup, Roster.nextId, start_rosterOf, ← map_name_drafts_rosterOf,
    List.length_map, ← map_id_givenOf]
  rfl

theorem saidOf_mentions_cons (r : ProjectRecord) (rs : List ProjectRecord) (n t : String) :
    saidOf (mentions (r :: rs)) n t =
      (if r.name = n then r.dependencies.filter (·.target = t) else []) ++
        saidOf (mentions rs) n t := by
  by_cases hn : r.name = n <;> simp [saidOf, mentions, List.filter_map, Function.comp_def, hn]

theorem saidOf_mentions_eq_nil {n : String} (hn : n ∉ rs.map (·.name)) (t : String) :
    saidOf (mentions rs) n t = [] := by
  induction rs with
  | nil => rfl
  | cons r rs ih =>
      rw [List.map_cons, List.mem_cons, not_or] at hn
      rw [saidOf_mentions_cons, if_neg (Ne.symm hn.1), ih hn.2]
      rfl

theorem saidOf_mentions (hnodup : (rs.map (·.name)).Nodup) {r : ProjectRecord} (hr : r ∈ rs)
    (t : String) : saidOf (mentions rs) r.name t = r.dependencies.filter (·.target = t) := by
  induction rs with
  | nil => cases hr
  | cons a rs ih =>
      obtain ⟨ha, hnodup⟩ := List.nodup_cons.mp hnodup
      rw [saidOf_mentions_cons]
      rcases List.mem_cons.mp hr with rfl | hr
      · rw [if_pos rfl, saidOf_mentions_eq_nil ha, List.append_nil]
      · have hne : a.name ≠ r.name := by
          intro heq
          apply ha
          simpa only [heq] using List.mem_map_of_mem (f := ProjectRecord.name) hr
        rw [if_neg hne, List.nil_append, ih hnodup hr]

namespace Holds

theorem exists_named? {R : Roster} {done : List (String × DependencyRecord)} {p : Project}
    (h : g.Holds R done) (hp : p ∈ R.projects) : ∃ q, g.named? p.name = some q ∧ q.bare = p := by
  obtain ⟨q, hq, rfl⟩ := (h.mem_projects_iff p).mp hp
  exact ⟨q, h.consistent.named?_eq_some_iff.mpr ⟨hq, rfl⟩, rfl⟩

/-- A record's project has its fields, its id if it gives one, and what it lists. -/
theorem exists_of_mem (h : g.Holds (rosterOf rs) (mentions rs)) {r : ProjectRecord}
    (hr : r ∈ rs) : ∃ p, g.named? r.name = some p ∧ p.bare = r.project p.id ∧
      ∀ i, r.id = some i → p.id = i := by
  cases hid : r.id with
  | some i =>
      have hgiven : r.project i ∈ givenOf rs := by
        simp only [givenOf, List.mem_filterMap]
        exact ⟨r, hr, by simp [hid]⟩
      obtain ⟨p, hp, hbare⟩ := h.exists_named? (List.mem_append_left _ hgiven)
      have hpid : p.bare.id = i := by rw [hbare]; rfl
      refine ⟨p, hp, ?_, ?_⟩
      · rw [hbare, ← hpid]
        rfl
      · rintro _ ⟨⟩
        exact hpid
  | none =>
      have hdraft : r.project ⟨0⟩ ∈ (rosterOf rs).drafts := by
        refine List.mem_append_left _ (List.mem_map_of_mem ?_)
        simpa [hr] using hid
      obtain ⟨k, hk⟩ := List.mem_iff_getElem?.mp hdraft
      obtain ⟨p, hp, hbare⟩ := h.exists_named? (Roster.mem_projects_of_draft hk)
      refine ⟨p, hp, ?_, by simp⟩
      have hpid : p.bare.id = Id.ofNat ((rosterOf rs).start + k) := by rw [hbare]
      rw [hbare, ← p.bare_id, hpid]
      rfl

theorem exists_library (h : g.Holds (rosterOf rs) (mentions rs)) {n : String}
    (hn : n ∈ undeclared rs) : ∃ p, g.named? n = some p ∧ p = .library p.id n := by
  have hdraft : Project.library ⟨0⟩ n ∈ (rosterOf rs).drafts := by
    refine List.mem_append_right _ (List.mem_map_of_mem ?_)
    rwa [lacked_declaredOf]
  obtain ⟨k, hk⟩ := List.mem_iff_getElem?.mp hdraft
  obtain ⟨p, hp, hbare⟩ := h.exists_named? (Roster.mem_projects_of_draft hk)
  obtain ⟨hget, hname⟩ := h.consistent.named?_eq_some_iff.mp hp
  have hnone (t : String) : saidOf (mentions rs) p.name t = [] :=
    saidOf_mentions_eq_nil (hname ▸ (mem_undeclared_iff.mp hn).2) t
  have hdeps : p.dependencies = ∅ := by
    refine Map.ext_get? fun t => ?_
    have hwrite := h.write p.id p hget t
    rw [hnone] at hwrite
    cases he : p.dependencies.get? t with
    | none => rfl
    | some e =>
        rw [he] at hwrite
        exact absurd rfl hwrite.1
  refine ⟨p, hp, ?_⟩
  have hself : p = p.bare := by rw [Project.bare, ← hdeps]
  have hpid : p.id = Id.ofNat ((rosterOf rs).start + k) := by rw [← p.bare_id, hbare]
  rw [hpid, hself, hbare]
  rfl

end Holds

end Graph

end Landscape
