import Landscape.Proofs.Catalog
import Landscape.Proofs.Query.Compiled
import Landscape.Proofs.Query.Participation

namespace Landscape

/-!
# Queries as joins

A query answers from sets of ids, positions and tables that were made beforehand. Its answers are
those of a plain join: what the parameter of the kind selects and what stands, for each other
parameter that is given, in its relation to something that this one selects.
-/

/-- The file belongs to one of the projects. -/
def SourceFile.OwnedBy (f : SourceFile) (ps : List Project) : Prop :=
  ∃ p ∈ ps, f.project = some p.id

/-- The commits of all repositories, each with its own. -/
def Catalog.commits (c : Catalog) : List (Repository × Commit) :=
  c.repositories.flatMap fun r => r.commits.map (r, ·)

theorem Catalog.mem_commits_iff {c : Catalog} {rc : Repository × Commit} :
    rc ∈ c.commits ↔ rc.1 ∈ c.repositories ∧ rc.2 ∈ rc.1.commits := by
  obtain ⟨r, k⟩ := rc
  constructor
  · intro h
    obtain ⟨s, hs, hmem⟩ := List.mem_flatMap.mp h
    obtain ⟨l, hl, heq⟩ := List.mem_map.mp hmem
    cases heq
    exact ⟨hs, hl⟩
  · rintro ⟨hr, hk⟩
    exact List.mem_flatMap.mpr ⟨r, hr, List.mem_map.mpr ⟨k, hk, rfl⟩⟩

namespace Query

/-! ## The join -/

section

variable (c : Catalog) (p : Params) (ps : List Project)

/-- The file is selected and, for each other parameter that is given, it belongs to one of the
projects `ps`, lies in a selected repository or is touched by a selected person. -/
@[mk_iff]
structure JoinsFile (f : SourceFile) : Prop where
  selected : p.SelectsFile f
  projects : p.asksProjects = true → f.OwnedBy ps
  repositories : p.asksRepositories = true →
    ∃ r ∈ c.repositories, p.SelectsRepository r ∧ f.repository = some r.id
  people : p.asksPeople = true → ∃ x ∈ c.people, p.SelectsPerson x ∧ c.Touches x.id f.id

@[mk_iff]
structure JoinsRepository (r : Repository) : Prop where
  selected : p.SelectsRepository r
  projects : p.asksProjects = true → ∃ f ∈ c.files, f.repository = some r.id ∧ f.OwnedBy ps
  files : p.asksFiles = true → ∃ f ∈ c.files, f.repository = some r.id ∧ p.SelectsFile f
  people : p.asksPeople = true → ∃ f ∈ c.files, f.repository = some r.id ∧
    ∃ x ∈ c.people, p.SelectsPerson x ∧ c.Touches x.id f.id

@[mk_iff]
structure JoinsCommit (r : Repository) (k : Commit) : Prop where
  repository : p.SelectsRepository r
  selected : p.SelectsCommit k
  files : p.asksFiles = true → ∃ f ∈ c.files, p.SelectsFile f ∧ f.id ∈ k.files
  projects : p.asksProjects = true → ∃ f ∈ c.files, f.OwnedBy ps ∧ f.id ∈ k.files
  people : p.asksPeople = true → ∃ x ∈ c.people, p.SelectsPerson x ∧ k.By x.id

@[mk_iff]
structure JoinsPerson (x : Person) : Prop where
  selected : p.SelectsPerson x
  files : p.asksFiles = true → ∃ f ∈ c.files, p.SelectsFile f ∧ c.Touches x.id f.id
  projects : p.asksProjects = true → ∃ f ∈ c.files, f.OwnedBy ps ∧ c.Touches x.id f.id
  repositories : p.asksRepositories = true →
    ∃ r ∈ c.repositories, p.SelectsRepository r ∧ ∃ k ∈ r.commits, k.By x.id

end

theorem filter_eq_filter_decide {α : Type} {t : α → Bool} {P : α → Prop} [DecidablePred P]
    {as : List α} (h : ∀ a ∈ as, t a = true ↔ P a) :
    as.filter t = as.filter fun a => decide (P a) := by
  refine List.filter_congr fun a ha => ?_
  rw [Bool.eq_iff_iff, h a ha, decide_eq_true_iff]

theorem flatMap_commits_filter (t : Repository → Bool) (rs : List Repository) :
    ((rs.filter t).flatMap fun r => r.commits.map (r, ·)) =
      (rs.flatMap fun r => r.commits.map (r, ·)).filter fun rc => t rc.1 := by
  induction rs with
  | nil => rfl
  | cons r rs ih =>
      rw [List.flatMap_cons, List.filter_append, ← ih, List.filter_map]
      by_cases hr : t r = true
      · simp [hr, Function.comp_def]
      · simp [hr, Function.comp_def]

/-! ## Sets of ids -/

section

variable {κ β : Type} [Key κ] {given : Bool} {ids is : List κ} {id : β → κ} {bs : List β}

theorem all_idsIf_iff {t : OrderedSet κ → Bool} :
    (idsIf given ids).all t = true ↔ (given = true → t (.ofList ids) = true) := by
  cases given <;> simp [idsIf]

theorem isNone_idsIf_or_iff {t : Bool} :
    ((idsIf given ids).isNone || t) = true ↔ (given = true → t = true) := by
  cases given <;> simp [idsIf]

variable [DecidableEq κ]

theorem contains_ids_iff {i : κ} :
    (OrderedSet.ofList (bs.map id)).contains i = true ↔ ∃ b ∈ bs, i = id b := by
  rw [OrderedSet.contains_ofList, List.mem_map]
  exact exists_congr fun b => and_congr_right' eq_comm

theorem any_contains_ids_iff :
    is.any (OrderedSet.ofList (bs.map id)).contains = true ↔ ∃ b ∈ bs, id b ∈ is := by
  simp only [List.any_eq_true, contains_ids_iff]
  constructor
  · rintro ⟨_, hi, b, hb, rfl⟩
    exact ⟨b, hb, hi⟩
  · rintro ⟨b, hb, hi⟩
    exact ⟨id b, hi, b, hb, rfl⟩

theorem option_any_contains_ids_iff {o : Option κ} :
    o.any (OrderedSet.ofList (bs.map id)).contains = true ↔ ∃ b ∈ bs, o = some (id b) := by
  cases o <;> simp [contains_ids_iff]

end

namespace Compiled

variable {c : Catalog} {p : Params} {usual : Option Nat} {q : Query}

/-! ## Files -/

theorem fileInProjects_iff (h : Compiled c p usual q) {f : SourceFile} :
    q.fileInProjects f = true ↔ (p.asksProjects = true → f.OwnedBy q.projects) := by
  rw [fileInProjects, h.projectIds, all_idsIf_iff, option_any_contains_ids_iff]
  rfl

theorem fileInRepositories_iff (h : Compiled c p usual q) {f : SourceFile} :
    q.fileInRepositories f = true ↔ (p.asksRepositories = true →
      ∃ r ∈ c.repositories, p.SelectsRepository r ∧ f.repository = some r.id) := by
  rw [fileInRepositories, h.repositoryIds, all_idsIf_iff, option_any_contains_ids_iff]
  simp only [h.mem_matchingRepositories_iff, and_assoc]

theorem fileOfPeople_iff (h : Compiled c p usual q) {f : SourceFile} :
    q.fileOfPeople f = true ↔ (p.asksPeople = true →
      ∃ x ∈ c.people, p.SelectsPerson x ∧ c.Touches x.id f.id) := by
  rw [fileOfPeople, h.personIds, all_idsIf_iff, any_contains_ids_iff, h.participation]
  simp only [h.mem_matchingPeople_iff, c.mem_peopleOf_iff, and_assoc]

open scoped Classical in
theorem files_eq_filter (h : Compiled c p usual q) :
    q.files = c.files.filter fun f => decide (JoinsFile c p q.projects f) := by
  rw [files, matchingFiles, FileRule.select, List.filter_filter, h.catalog]
  refine filter_eq_filter_decide fun f _ => ?_
  rw [joinsFile_iff, Bool.and_eq_true, Bool.and_eq_true, Bool.and_eq_true, h.keepsFile_iff,
    h.fileInProjects_iff, h.fileInRepositories_iff, h.fileOfPeople_iff, and_comm, and_assoc]

/-! ## Repositories -/

section

variable (hc : c.Indexed)

include hc

theorem any_filesOf_iff {r : Repository} {t : SourceFile → Bool} :
    (c.filesOf r.id).any t = true ↔ ∃ f ∈ c.files, f.repository = some r.id ∧ t f = true := by
  rw [hc.filesOf_eq]
  simp

theorem someFileInProjects_iff (h : Compiled c p usual q) {is : List FileId} :
    q.someFileInProjects is = true ↔
      (p.asksProjects = true → ∃ f ∈ c.files, f.OwnedBy q.projects ∧ f.id ∈ is) := by
  rw [someFileInProjects, h.projectIds, isNone_idsIf_or_iff, h.catalog]
  refine imp_congr_right fun hasks => ?_
  simp only [List.any_eq_true, List.mem_filterMap, hc.file?_eq_some_iff, h.fileInProjects_iff,
    hasks, true_implies]
  constructor
  · rintro ⟨f, ⟨_, hi, hf, rfl⟩, howned⟩
    exact ⟨f, hf, howned, hi⟩
  · rintro ⟨f, hf, howned, hi⟩
    exact ⟨f, ⟨f.id, hi, hf, rfl⟩, howned⟩

theorem contains_fileIds_iff (h : Compiled c p usual q) {f : SourceFile} (hf : f ∈ c.files) :
    (OrderedSet.ofList (q.matchingFiles.map (·.id))).contains f.id = true ↔ p.SelectsFile f := by
  rw [contains_ids_iff]
  constructor
  · rintro ⟨g, hg, hid⟩
    obtain ⟨hmem, hselects⟩ := h.mem_matchingFiles_iff.mp hg
    rwa [List.inj_on_of_nodup_map hc.nodup_files hf hmem hid]
  · intro hselects
    exact ⟨f, h.mem_matchingFiles_iff.mpr ⟨hf, hselects⟩, rfl⟩

theorem storesOwned_iff (h : Compiled c p usual q) (r : Repository) :
    (q.projectIds.isNone || (c.filesOf r.id).any q.fileInProjects) = true ↔
      (p.asksProjects = true →
        ∃ f ∈ c.files, f.repository = some r.id ∧ f.OwnedBy q.projects) := by
  rw [h.projectIds, isNone_idsIf_or_iff, any_filesOf_iff hc]
  refine imp_congr_right fun hasks => ?_
  simp only [h.fileInProjects_iff, hasks, true_implies]

theorem storesSelected_iff (h : Compiled c p usual q) (r : Repository) :
    (q.fileIds.all fun ids => (c.filesOf r.id).any fun f => ids.contains f.id) = true ↔
      (p.asksFiles = true → ∃ f ∈ c.files, f.repository = some r.id ∧ p.SelectsFile f) := by
  rw [h.fileIds, all_idsIf_iff, any_filesOf_iff hc]
  refine imp_congr_right fun _ => exists_congr fun f => and_congr_right fun hf => ?_
  rw [contains_fileIds_iff hc h hf]

theorem storesTouched_iff (h : Compiled c p usual q) (r : Repository) :
    (q.personIds.isNone || (c.filesOf r.id).any q.fileOfPeople) = true ↔
      (p.asksPeople = true → ∃ f ∈ c.files, f.repository = some r.id ∧
        ∃ x ∈ c.people, p.SelectsPerson x ∧ c.Touches x.id f.id) := by
  rw [h.personIds, isNone_idsIf_or_iff, any_filesOf_iff hc]
  refine imp_congr_right fun hasks => ?_
  simp only [h.fileOfPeople_iff, hasks, true_implies]

open scoped Classical in
theorem repositories_eq_filter (h : Compiled c p usual q) :
    q.repositories = c.repositories.filter fun r => decide (JoinsRepository c p q.projects r) := by
  rw [repositories, matchingRepositories, List.filter_filter, h.catalog]
  refine filter_eq_filter_decide fun r _ => ?_
  rw [joinsRepository_iff, Bool.and_eq_true, Bool.and_eq_true, Bool.and_eq_true,
    h.takesRepository_iff, storesOwned_iff hc h, storesSelected_iff hc h, storesTouched_iff hc h,
    and_comm, and_assoc]

/-! ## Commits -/

theorem searches_iff (h : Compiled c p usual q) {r : Repository} (hr : r ∈ c.repositories) :
    (!r.ignored && q.repositoryIds.all fun ids => ids.contains r.id) = true ↔
      p.SelectsRepository r := by
  rw [h.repositoryIds, Bool.and_eq_true, Bool.not_eq_true', all_idsIf_iff, contains_ids_iff]
  constructor
  · rintro ⟨hshown, hlisted⟩
    refine ⟨hshown, fun term hterm => ?_⟩
    obtain ⟨s, hs, hid⟩ := hlisted (Option.isSome_of_mem hterm)
    obtain ⟨hmem, hselects⟩ := h.mem_matchingRepositories_iff.mp hs
    rw [List.inj_on_of_nodup_map hc.nodup_repositories hr hmem hid]
    exact hselects.2 term hterm
  · intro hselects
    exact ⟨hselects.1, fun _ => ⟨r, h.mem_matchingRepositories_iff.mpr ⟨hr, hselects⟩, rfl⟩⟩

omit hc in
theorem listsSelected_iff (h : Compiled c p usual q) {is : List FileId} :
    (q.fileIds.all fun ids => is.any ids.contains) = true ↔
      (p.asksFiles = true → ∃ f ∈ c.files, p.SelectsFile f ∧ f.id ∈ is) := by
  rw [h.fileIds, all_idsIf_iff, any_contains_ids_iff]
  simp only [h.mem_matchingFiles_iff, and_assoc]

omit hc in
theorem namesSelected_iff (h : Compiled c p usual q) {k : Commit} :
    (q.personIds.all fun ids => k.people.any ids.contains) = true ↔
      (p.asksPeople = true → ∃ x ∈ c.people, p.SelectsPerson x ∧ k.By x.id) := by
  rw [h.personIds, all_idsIf_iff, any_contains_ids_iff]
  simp only [h.mem_matchingPeople_iff, Commit.mem_people, and_assoc]
  rfl

open scoped Classical in
theorem commits_eq_filter (h : Compiled c p usual q) :
    q.commits =
      c.commits.filter fun rc => decide (JoinsCommit c p q.projects rc.1 rc.2) := by
  rw [commits, CommitRule.select, h.catalog, flatMap_commits_filter, List.filter_filter,
    List.filter_filter]
  refine filter_eq_filter_decide fun rc hrc => ?_
  obtain ⟨hr, -⟩ := Catalog.mem_commits_iff.mp hrc
  rw [joinsCommit_iff, Bool.and_eq_true, Bool.and_eq_true, Bool.and_eq_true, Bool.and_eq_true,
    h.listsSelected_iff, someFileInProjects_iff hc h, h.namesSelected_iff, h.keepsCommit_iff,
    searches_iff hc h hr]
  constructor
  · rintro ⟨⟨⟨⟨hfiles, hprojects⟩, hpeople⟩, hselected⟩, hrepository⟩
    exact ⟨hrepository, hselected, hfiles, hprojects, hpeople⟩
  · rintro ⟨hrepository, hselected, hfiles, hprojects, hpeople⟩
    exact ⟨⟨⟨⟨hfiles, hprojects⟩, hpeople⟩, hselected⟩, hrepository⟩

/-! ## People -/

theorem tookPart_iff (h : Compiled c p usual q) {x : Person} :
    (q.repositoryIds.all fun ids =>
        (Participation.related q.participation.repositoriesOf x.id).any ids.contains) = true ↔
      (p.asksRepositories = true →
        ∃ r ∈ c.repositories, p.SelectsRepository r ∧ ∃ k ∈ r.commits, k.By x.id) := by
  rw [h.repositoryIds, all_idsIf_iff, any_contains_ids_iff, h.participation]
  simp only [h.mem_matchingRepositories_iff, c.mem_repositoriesOf_iff]
  refine imp_congr_right fun _ => ?_
  constructor
  · rintro ⟨r, ⟨hr, hselects⟩, s, hs, hid, hby⟩
    rw [List.inj_on_of_nodup_map hc.nodup_repositories hs hr hid] at hby
    exact ⟨r, hr, hselects, hby⟩
  · rintro ⟨r, hr, hselects, hby⟩
    exact ⟨r, ⟨hr, hselects⟩, r, hr, rfl, hby⟩

open scoped Classical in
theorem people_eq_filter (h : Compiled c p usual q) :
    q.people = c.people.filter fun x => decide (JoinsPerson c p q.projects x) := by
  rw [people, matchingPeople, List.filter_filter, h.catalog]
  refine filter_eq_filter_decide fun x _ => ?_
  rw [joinsPerson_iff, Bool.and_eq_true, Bool.and_eq_true, Bool.and_eq_true, h.takesPerson_iff,
    h.listsSelected_iff, someFileInProjects_iff hc h, tookPart_iff hc h, h.participation]
  simp only [c.mem_filesOf_iff]
  rw [and_comm, and_assoc]

end

end Compiled

/-! ## Answers -/

open scoped Classical in
/-- On a catalog made from records a query answers with the joins of what its parameters select, in
the order of the catalog, whatever tables and sets of ids it answers from. -/
theorem answers_eq_joins {record : CatalogRecord} {c : Catalog} {p : Params} {usual : Option Nat}
    {q : Query} (hc : Catalog.ofRecord record = .ok c) (hq : compile c p usual = .ok q) :
    (q.files = c.files.filter fun f => decide (JoinsFile c p q.projects f)) ∧
    (q.repositories = c.repositories.filter fun r =>
      decide (JoinsRepository c p q.projects r)) ∧
    (q.commits = c.commits.filter fun rc =>
      decide (JoinsCommit c p q.projects rc.1 rc.2)) ∧
    q.people = c.people.filter fun x => decide (JoinsPerson c p q.projects x) := by
  have hindexed : c.Indexed := Catalog.indexed_of_ofRecord hc
  have h : Compiled c p usual q := compiled_of_eq_ok hq
  refine ⟨h.files_eq_filter, ?_, ?_, ?_⟩
  · exact h.repositories_eq_filter hindexed
  · exact h.commits_eq_filter hindexed
  · exact h.people_eq_filter hindexed

open scoped Classical in
/-- The file of `a` and the commit of `ann` join the project and the person that are asked for;
the notes do not. -/
theorem answers_eq_joins_of_one_commit :
    let p : Params := { project := "a", personId := some ⟨1⟩ }
    ∃ c q, Catalog.ofRecord (.ofOneCommit false false) = .ok c ∧ compile c p none = .ok q ∧
      q.files.map (·.path) = ["a.rs"] ∧ q.commits.map (·.2.hash) = ["c1"] ∧
      (q.files = c.files.filter fun f => decide (JoinsFile c p q.projects f)) ∧
      q.commits = c.commits.filter fun rc => decide (JoinsCommit c p q.projects rc.1 rc.2) := by
  intro p
  have hrun : ∃ c q, Catalog.ofRecord (.ofOneCommit false false) = .ok c ∧
      compile c p none = .ok q ∧ q.files.map (·.path) = ["a.rs"] ∧
        q.commits.map (·.2.hash) = ["c1"] :=
    ⟨_, _, by cbv, by cbv, by cbv, by cbv⟩
  obtain ⟨c, q, hc, hq, hpaths, hhashes⟩ := hrun
  obtain ⟨hfiles, -, hcommits, -⟩ := answers_eq_joins hc hq
  exact ⟨c, q, hc, hq, hpaths, hhashes, hfiles, hcommits⟩

end Query

end Landscape
