import Landscape.Proofs.Query.Join

namespace Landscape

/-!
# Holders of files

Repositories store files, commits list them and people touch them by their commits. What is ignored
is not listed, but it still relates: an ignored file counts as a file of its project, and an ignored
commit as a commit of its author.
-/

instance (f : SourceFile) (ps : List Project) : Decidable (f.OwnedBy ps) :=
  inferInstanceAs (Decidable (∃ p ∈ ps, f.project = some p.id))

instance (k : Commit) (x : PersonId) : Decidable (k.By x) :=
  inferInstanceAs (Decidable (x ∈ k.authors ∨ k.committer = some x))

/-- The commit lists one of the files. -/
def Commit.ListsOneOf (k : Commit) (fs : List SourceFile) : Prop := ∃ f ∈ fs, f.id ∈ k.files

instance (k : Commit) (fs : List SourceFile) : Decidable (k.ListsOneOf fs) :=
  inferInstanceAs (Decidable (∃ f ∈ fs, f.id ∈ k.files))

namespace Catalog

variable {c : Catalog}

/-- The files that belong to the projects, whether they are ignored or not. -/
def ownedBy (c : Catalog) (ps : List Project) : List SourceFile :=
  c.files.filter fun f => decide (f.OwnedBy ps)

theorem mem_ownedBy_iff {ps : List Project} {f : SourceFile} :
    f ∈ c.ownedBy ps ↔ f ∈ c.files ∧ f.OwnedBy ps := by
  rw [ownedBy, List.mem_filter, decide_eq_true_iff]

theorem exists_touches_iff {fs : List SourceFile} {x : PersonId} :
    (∃ f ∈ fs, c.Touches x f.id) ↔ ∃ rk ∈ c.commits, rk.2.By x ∧ rk.2.ListsOneOf fs := by
  constructor
  · rintro ⟨f, hf, r, hr, k, hk, hby, hlisted⟩
    exact ⟨(r, k), mem_commits_iff.mpr ⟨hr, hk⟩, hby, f, hf, hlisted⟩
  · rintro ⟨⟨r, k⟩, hrk, hby, f, hf, hlisted⟩
    obtain ⟨hr, hk⟩ := mem_commits_iff.mp hrk
    exact ⟨f, hf, r, hr, k, hk, hby, hlisted⟩

end Catalog

namespace Query

variable {c : Catalog} {p : Params} {usual : Option Nat} {q : Query}

/-! ## A rule on projects alone -/

structure Params.AsksOnlyProjects (p : Params) : Prop where
  project : p.asksProjects = true
  file : given? p.file = none
  repository : given? p.repository = none
  person : given? p.person = none
  personId : p.personId = none
  commit : given? p.commit = none

/-- Of what is not ignored the query lists the repositories that store one of the files, the commits
that list one, and the people who have such a commit anywhere. -/
structure ListsHoldersOf (c : Catalog) (fs : List SourceFile) (q : Query) : Prop where
  repositories : q.repositories = c.repositories.filter fun r =>
    decide (r.ignored = false ∧ ∃ f ∈ fs, f.repository = some r.id)
  commits : q.commits = c.commits.filter fun rk =>
    decide (rk.1.ignored = false ∧ rk.2.ignored = false ∧ rk.2.ListsOneOf fs)
  people : q.people = c.people.filter fun x =>
    decide (x.ignored = false ∧ ∃ rk ∈ c.commits, rk.2.By x.id ∧ rk.2.ListsOneOf fs)

theorem Params.asksOnlyProjects_of_given {s : String} (h : (given? s).isSome = true) :
    AsksOnlyProjects { project := s } :=
  ⟨h, rfl, rfl, rfl, rfl, rfl⟩

namespace Params.AsksOnlyProjects

variable {ps : List Project}

theorem joinsFile_iff (hp : p.AsksOnlyProjects) {f : SourceFile} :
    JoinsFile c p ps f ↔ f.ignored = false ∧ f.OwnedBy ps := by
  simp [Query.joinsFile_iff, SelectsFile, asksRepositories, asksPeople, hp.project, hp.file,
    hp.repository, hp.person, hp.personId]

theorem joinsRepository_iff (hp : p.AsksOnlyProjects) {r : Repository} :
    JoinsRepository c p ps r ↔
      r.ignored = false ∧ ∃ f ∈ c.ownedBy ps, f.repository = some r.id := by
  have howned : (∃ f ∈ c.ownedBy ps, f.repository = some r.id) ↔
      ∃ f ∈ c.files, f.repository = some r.id ∧ f.OwnedBy ps := by
    simp only [Catalog.mem_ownedBy_iff, and_assoc]
    exact exists_congr fun f => and_congr_right' and_comm
  rw [howned]
  simp [Query.joinsRepository_iff, SelectsRepository, asksFiles, asksPeople, hp.project, hp.file,
    hp.repository, hp.person, hp.personId]

theorem joinsCommit_iff (hp : p.AsksOnlyProjects) {r : Repository} {k : Commit} :
    JoinsCommit c p ps r k ↔
      r.ignored = false ∧ k.ignored = false ∧ k.ListsOneOf (c.ownedBy ps) := by
  simp [Query.joinsCommit_iff, SelectsRepository, SelectsCommit, asksFiles, asksPeople, hp.project,
    hp.file, hp.repository, hp.person, hp.personId, hp.commit, Commit.ListsOneOf,
    Catalog.mem_ownedBy_iff, and_assoc]

theorem joinsPerson_iff (hp : p.AsksOnlyProjects) {x : Person} :
    JoinsPerson c p ps x ↔ x.ignored = false ∧
      ∃ rk ∈ c.commits, rk.2.By x.id ∧ rk.2.ListsOneOf (c.ownedBy ps) := by
  rw [← Catalog.exists_touches_iff]
  simp [Query.joinsPerson_iff, SelectsPerson, asksFiles, asksRepositories, hp.project, hp.file,
    hp.repository, hp.person, hp.personId, Catalog.mem_ownedBy_iff, and_assoc]

end Params.AsksOnlyProjects

theorem Compiled.listsHoldersOf_ownedBy (h : Compiled c p usual q) (hc : c.Indexed)
    (hp : p.AsksOnlyProjects) : q.ListsHoldersOf c (c.ownedBy q.projects) where
  repositories := by
    rw [h.repositories_eq_filter hc]
    simp only [hp.joinsRepository_iff]
  commits := by
    rw [h.commits_eq_filter hc]
    simp only [hp.joinsCommit_iff]
  people := by
    rw [h.people_eq_filter hc]
    simp only [hp.joinsPerson_iff]

/-- Where a rule on projects is all that is asked for, the files that the selected projects own are
listed unless they are ignored, and the other listings are of the holders of all of them. They are
the holders of the listed files if none of the owned files is ignored. -/
theorem listsHoldersOf_of_asksOnlyProjects {record : CatalogRecord}
    (hc : Catalog.ofRecord record = .ok c) (hp : p.AsksOnlyProjects)
    (hq : compile c p usual = .ok q) :
    (q.files = (c.ownedBy q.projects).filter fun f => !f.ignored) ∧
      q.ListsHoldersOf c (c.ownedBy q.projects) ∧
        ((∀ f ∈ c.ownedBy q.projects, f.ignored = false) → q.ListsHoldersOf c q.files) := by
  have h : Compiled c p usual q := compiled_of_eq_ok hq
  have hholders : q.ListsHoldersOf c (c.ownedBy q.projects) :=
    h.listsHoldersOf_ownedBy (Catalog.indexed_of_ofRecord hc) hp
  have hfiles : q.files = (c.ownedBy q.projects).filter fun f => !f.ignored := by
    rw [h.files_eq_filter, Catalog.ownedBy, List.filter_filter]
    simp [hp.joinsFile_iff]
  refine ⟨hfiles, hholders, fun hshown => ?_⟩
  have hall : q.files = c.ownedBy q.projects := by
    rw [hfiles, List.filter_eq_self]
    intro f hf
    rw [hshown f hf, Bool.not_false]
  rwa [hall]

/-- The project `a` alone is asked for, and `ann` and her commit hold its one file. -/
theorem listsHoldersOf_of_one_commit :
    ∃ c q, Catalog.ofRecord (.ofOneCommit false false) = .ok c ∧
      compile c { project := "a" } none = .ok q ∧ q.files.map (·.path) = ["a.rs"] ∧
      q.people.map (·.name) = ["ann"] ∧ q.ListsHoldersOf c q.files := by
  have hrun : ∃ c q, Catalog.ofRecord (.ofOneCommit false false) = .ok c ∧
      compile c { project := "a" } none = .ok q ∧ q.files.map (·.path) = ["a.rs"] ∧
        q.people.map (·.name) = ["ann"] ∧
          ∀ f ∈ c.ownedBy q.projects, f.ignored = false :=
    ⟨_, _, by cbv, by cbv, by cbv, by cbv, by decide +kernel⟩
  obtain ⟨c, q, hc, hq, hpaths, hnames, hshown⟩ := hrun
  have hp : Params.AsksOnlyProjects { project := "a" } := Params.asksOnlyProjects_of_given rfl
  obtain ⟨-, -, hholders⟩ := listsHoldersOf_of_asksOnlyProjects hc hp hq
  exact ⟨c, q, hc, hq, hpaths, hnames, hholders hshown⟩

/-- The one file of `a` is ignored and not listed, but what holds it is. -/
theorem exists_not_listsHoldersOf_files :
    ∃ c q, Catalog.ofRecord (.ofOneCommit true false) = .ok c ∧
      Params.AsksOnlyProjects { project := "a" } ∧
      compile c { project := "a" } none = .ok q ∧ q.files = [] ∧
      q.repositories.map (·.name) = ["main"] ∧ q.commits.map (·.2.hash) = ["c1"] ∧
      q.people.map (·.name) = ["ann"] ∧ ¬ q.ListsHoldersOf c q.files := by
  have hrun : ∃ c q, Catalog.ofRecord (.ofOneCommit true false) = .ok c ∧
      compile c { project := "a" } none = .ok q ∧ q.files = [] ∧
        q.repositories.map (·.name) = ["main"] ∧ q.commits.map (·.2.hash) = ["c1"] ∧
          q.people.map (·.name) = ["ann"] :=
    ⟨_, _, by cbv, by cbv, by cbv, by cbv, by cbv, by cbv⟩
  obtain ⟨c, q, hc, hq, hfiles, hrepositories, hcommits, hpeople⟩ := hrun
  have hp : Params.AsksOnlyProjects { project := "a" } := Params.asksOnlyProjects_of_given rfl
  refine ⟨c, q, hc, hp, hq, hfiles, hrepositories, hcommits, hpeople, ?_⟩
  intro hholders
  have hnone := hholders.repositories
  simp only [hfiles, List.not_mem_nil, false_and, exists_false, and_false, decide_false,
    List.filter_false] at hnone
  rw [hnone] at hrepositories
  cases hrepositories

/-! ## A rule on files -/

/-- A query for a rule on files that can be read, and perhaps for the id of a person, can be
compiled. -/
theorem exists_compile_eq_ok_of_fileRule {rule : String} {g : FileRule}
    (hrule : FileRule.ofText .including rule.toList = .ok g) (c : Catalog) (i : Option PersonId)
    (usual : Option Nat) : ∃ q, compile c { file := rule, personId := i } usual = .ok q := by
  have hfile : ∃ f,
      ruleOf .file FileRule.dropIgnored (FileRule.ofText .including) rule = .ok f := by
    unfold ruleOf
    cases hs : given? rule with
    | none => exact ⟨_, rfl⟩
    | some t =>
        have ht : FileRule.ofText .including t = .ok g := by
          rw [← hrule, eq_trim_of_given? hs]
          simp [FileRule.ofText, Leaf.formulaOfRule, Formula.ofRule]
        simp only [ht]
        exact ⟨_, rfl⟩
  exact exists_compile_eq_ok_iff.mpr ⟨⟨_, rfl⟩, hfile, ⟨_, rfl⟩, ⟨_, rfl⟩, ⟨_, rfl⟩⟩

section

variable {rule : String} {x : Person}

theorem mem_files_of_fileRule (h : Compiled c { file := rule } usual q) {f : SourceFile} :
    f ∈ q.files ↔ f ∈ c.files ∧ Params.SelectsFile { file := rule } f := by
  rw [h.files_eq_filter]
  simp [joinsFile_iff, Params.asksProjects, Params.asksRepositories, Params.asksPeople]

theorem mem_people_of_fileRule (hc : c.Indexed) (h : Compiled c { file := rule } usual q) :
    x ∈ q.people ↔ (x ∈ c.people ∧ x.ignored = false) ∧ ((given? rule).isSome = true →
      ∃ rk ∈ c.commits, rk.2.By x.id ∧ rk.2.ListsOneOf q.files) := by
  rw [h.people_eq_filter hc, ← Catalog.exists_touches_iff]
  simp [joinsPerson_iff, Params.SelectsPerson, Params.asksFiles, Params.asksProjects,
    Params.asksRepositories, mem_files_of_fileRule h, and_assoc]

theorem commits_of_fileRule_of_person {q' : Query} (hc : c.Indexed)
    (h : Compiled c { file := rule } usual q)
    (h' : Compiled c { file := rule, personId := some x.id } usual q') (hx : x ∈ c.people)
    (hshown : x.ignored = false) :
    q'.commits = c.commits.filter fun rk =>
      decide (rk.1.ignored = false ∧ rk.2.ignored = false ∧ rk.2.By x.id ∧
        ((given? rule).isSome = true → rk.2.ListsOneOf q.files)) := by
  have hperson (k : Commit) : (∃ y ∈ c.people,
      Params.SelectsPerson { file := rule, personId := some x.id } y ∧ k.By y.id) ↔ k.By x.id := by
    constructor
    · rintro ⟨y, -, ⟨-, hid⟩, hby⟩
      exact hid ▸ hby
    · intro hby
      exact ⟨x, hx, ⟨hshown, rfl⟩, hby⟩
  have hlists (k : Commit) : (∃ f ∈ c.files,
      Params.SelectsFile { file := rule, personId := some x.id } f ∧ f.id ∈ k.files) ↔
        k.ListsOneOf q.files := by
    simp only [Commit.ListsOneOf, mem_files_of_fileRule h, and_assoc]
    rfl
  have hjoins (rk : Repository × Commit) :
      JoinsCommit c { file := rule, personId := some x.id } q'.projects rk.1 rk.2 ↔
        rk.1.ignored = false ∧ rk.2.ignored = false ∧ rk.2.By x.id ∧
          ((given? rule).isSome = true → rk.2.ListsOneOf q.files) := by
    rw [joinsCommit_iff, hperson, hlists]
    constructor
    · rintro ⟨⟨hrepository, -⟩, ⟨hcommit, -⟩, hlisted, -, hby⟩
      exact ⟨hrepository, hcommit, hby rfl, hlisted⟩
    · rintro ⟨hrepository, hcommit, hby, hlisted⟩
      refine ⟨⟨hrepository, ?_⟩, ⟨hcommit, ?_⟩, hlisted, ?_, fun _ => hby⟩
      · simp
      · simp
      · simp [Params.asksProjects]
  rw [h'.commits_eq_filter hc]
  simp only [hjoins]

/-- For a rule on files, unless it is blank, a person is listed if some commit of the person,
ignored or not and in whatever repository, lists a file that the rule selects. Of these commits
those are listed for the rule and the person that are neither ignored nor in an ignored repository.
So whoever has a listed commit is listed, and nobody else is if none of the commits is kept back. -/
theorem mem_people_iff_exists_commit {record : CatalogRecord} {g : FileRule}
    (hc : Catalog.ofRecord record = .ok c)
    (hrule : FileRule.ofText .including rule.toList = .ok g) (hx : x ∈ c.people)
    (hshown : x.ignored = false) (usual : Option Nat) :
    ∃ q q', compile c { file := rule } usual = .ok q ∧
      compile c { file := rule, personId := some x.id } usual = .ok q' ∧
      (x ∈ q.people ↔ ((given? rule).isSome = true →
        ∃ rk ∈ c.commits, rk.2.By x.id ∧ rk.2.ListsOneOf q.files)) ∧
      (q'.commits = c.commits.filter fun rk =>
        decide (rk.1.ignored = false ∧ rk.2.ignored = false ∧ rk.2.By x.id ∧
          ((given? rule).isSome = true → rk.2.ListsOneOf q.files))) ∧
      (q'.commits ≠ [] → x ∈ q.people) ∧
      ((given? rule).isSome = true →
        (∀ rk ∈ c.commits, rk.2.By x.id → rk.2.ListsOneOf q.files →
          rk.1.ignored = false ∧ rk.2.ignored = false) →
        (x ∈ q.people ↔ q'.commits ≠ [])) := by
  have hindexed : c.Indexed := Catalog.indexed_of_ofRecord hc
  obtain ⟨q, hq⟩ := exists_compile_eq_ok_of_fileRule hrule c none usual
  obtain ⟨q', hq'⟩ := exists_compile_eq_ok_of_fileRule hrule c (some x.id) usual
  have h := compiled_of_eq_ok hq
  have hpeople : x ∈ q.people ↔ ((given? rule).isSome = true →
      ∃ rk ∈ c.commits, rk.2.By x.id ∧ rk.2.ListsOneOf q.files) := by
    rw [mem_people_of_fileRule hindexed h]
    exact and_iff_right ⟨hx, hshown⟩
  have hcommits := commits_of_fileRule_of_person hindexed h (compiled_of_eq_ok hq') hx hshown
  have hlisted (hne : q'.commits ≠ []) : x ∈ q.people := by
    obtain ⟨rk, hrk⟩ := List.exists_mem_of_ne_nil _ hne
    rw [hcommits, List.mem_filter, decide_eq_true_iff] at hrk
    obtain ⟨hmem, -, -, hby, hlists⟩ := hrk
    exact hpeople.mpr fun hgiven => ⟨rk, hmem, hby, hlists hgiven⟩
  refine ⟨q, q', hq, hq', hpeople, hcommits, hlisted, fun hgiven hall => ⟨fun hmem => ?_, hlisted⟩⟩
  obtain ⟨rk, hrk, hby, hlists⟩ := hpeople.mp hmem hgiven
  obtain ⟨hrepository, hcommit⟩ := hall rk hrk hby hlists
  refine List.ne_nil_of_mem (a := rk) ?_
  rw [hcommits, List.mem_filter, decide_eq_true_iff]
  exact ⟨hrk, hrepository, hcommit, hby, fun _ => hlists⟩

end

/-- The one commit is shown for `ann`, and so is `ann` for its file. -/
theorem mem_people_iff_exists_commit_of_one_commit :
    ∃ c g x q q', Catalog.ofRecord (.ofOneCommit false false) = .ok c ∧
      FileRule.ofText .including "*".toList = .ok g ∧ c.people = [x] ∧ x.ignored = false ∧
      compile c { file := "*" } none = .ok q ∧
      compile c { file := "*", personId := some x.id } none = .ok q' ∧
      (q'.commits ≠ [] → x ∈ q.people) ∧ (x ∈ q.people ↔ q'.commits ≠ []) := by
  have hrun : ∃ c g x, Catalog.ofRecord (.ofOneCommit false false) = .ok c ∧
      FileRule.ofText .including "*".toList = .ok g ∧ c.people = [x] ∧ x.ignored = false ∧
        ∀ rk ∈ c.commits, rk.1.ignored = false ∧ rk.2.ignored = false :=
    ⟨_, _, _, by cbv, by cbv, rfl, rfl, by decide⟩
  obtain ⟨c, g, x, hc, hrule, hpeople, hshown, hnone⟩ := hrun
  have hx : x ∈ c.people := hpeople ▸ List.mem_singleton_self x
  obtain ⟨q, q', hq, hq', -, -, hlisted, hiff⟩ :=
    mem_people_iff_exists_commit hc hrule hx hshown none
  refine ⟨c, g, x, q, q', hc, hrule, hpeople, hshown, hq, hq', hlisted, ?_⟩
  exact hiff rfl fun rk hrk _ _ => hnone rk hrk

/-- The one commit is ignored, so it is not shown for `ann`; but `ann` is shown for its file. -/
theorem exists_mem_people_without_commit :
    ∃ c g x q q', Catalog.ofRecord (.ofOneCommit false true) = .ok c ∧
      FileRule.ofText .including "*".toList = .ok g ∧ c.people = [x] ∧ x.ignored = false ∧
      compile c { file := "*" } none = .ok q ∧
      compile c { file := "*", personId := some x.id } none = .ok q' ∧
      q.people = [x] ∧ q'.commits = [] ∧ ¬ (x ∈ q.people ↔ q'.commits ≠ []) := by
  have hrun : ∃ c g x q q', Catalog.ofRecord (.ofOneCommit false true) = .ok c ∧
      FileRule.ofText .including "*".toList = .ok g ∧ c.people = [x] ∧ x.ignored = false ∧
        compile c { file := "*" } none = .ok q ∧
          compile c { file := "*", personId := some x.id } none = .ok q' ∧
            q.people = [x] ∧ q'.commits = [] :=
    ⟨_, _, _, _, _, by cbv, by cbv, rfl, rfl, by cbv, by cbv, by cbv, by cbv⟩
  obtain ⟨c, g, x, q, q', hc, hrule, hpeople, hshown, hq, hq', hlisted, hnone⟩ := hrun
  refine ⟨c, g, x, q, q', hc, hrule, hpeople, hshown, hq, hq', hlisted, hnone, ?_⟩
  simp [hlisted, hnone]

end Query

end Landscape
