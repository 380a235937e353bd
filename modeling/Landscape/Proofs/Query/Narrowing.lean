import Landscape.Proofs.Query.Join
import Landscape.Proofs.Selection
import Landscape.Proofs.Slice

namespace Landscape

/-!
# More parameters, fewer answers

A parameter that is given beside the others restricts its own kind, and by its ids every other. No
rule that a parameter adds undoes what the built-in rules drop, so no listing gains anything.
-/

/-! ## Rules that keep less -/

theorem Graph.selectProjects_sublist_of_imp {r' r : ProjectRule} {mode : ListMode} (g : Graph)
    (hproject : ∀ p, r'.keepsProject p = true → r.keepsProject p = true)
    (hlink : ∀ k, r'.keepsLink k = true → r.keepsLink k = true) :
    (g.selectProjects r' mode).Sublist (g.selectProjects r mode) := by
  rw [selectProjects_eq_filter (r := r') fun _ _ => Iff.rfl,
    selectProjects_eq_filter (r := r) fun _ _ => Iff.rfl]
  apply List.monotone_filter_right
  intro p hp
  simp only [decide_eq_true_eq] at hp ⊢
  obtain ⟨hlisted, q, hq, hkeeps⟩ := mem_selectProjects_iff.mp hp
  refine mem_selectProjects_iff.mpr ⟨hlisted, q, hq, hkeeps.imp ?_ ?_⟩
  · exact And.imp_left (hproject q)
  · rintro ⟨k, hk, hkept, hend⟩
    exact ⟨k, hk, hlink k hkept, hend⟩

namespace Query

/-! ## One more parameter -/

namespace Params

/-- A value is given to one parameter that asks for nothing. A person's id goes before a term on
people, so it only counts as one more where there is no such term. -/
inductive Adds (p : Params) : Params → Prop
  | file {s : String} (blank : given? p.file = none) : Adds p { p with file := s }
  | project {s : String} (blank : given? p.project = none) : Adds p { p with project := s }
  | repository {s : String} (blank : given? p.repository = none) : Adds p { p with repository := s }
  | person {s : String} (blank : given? p.person = none) : Adds p { p with person := s }
  | personId {i : PersonId} (absent : p.personId = none) (blank : given? p.person = none) :
      Adds p { p with personId := some i }
  | commit {s : String} (blank : given? p.commit = none) : Adds p { p with commit := s }

/-- What `p` asks for, `p'` asks for in the same words. -/
structure Extends (p' p : Params) : Prop where
  file : given? p.file = none ∨ p'.file = p.file
  project : given? p.project = none ∨ p'.project = p.project
  repository : given? p.repository = none ∨ p'.repository = p.repository
  commit : given? p.commit = none ∨ p'.commit = p.commit
  people : p.asksPeople = false ∨
    p'.personId = p.personId ∧ (p.personId.isSome = true ∨ p'.person = p.person)

variable {p p' : Params}

theorem extends_of_adds (h : p.Adds p') : p'.Extends p := by
  cases h with
  | file blank => exact ⟨.inl blank, .inr rfl, .inr rfl, .inr rfl, .inr ⟨rfl, .inr rfl⟩⟩
  | project blank => exact ⟨.inr rfl, .inl blank, .inr rfl, .inr rfl, .inr ⟨rfl, .inr rfl⟩⟩
  | repository blank => exact ⟨.inr rfl, .inr rfl, .inl blank, .inr rfl, .inr ⟨rfl, .inr rfl⟩⟩
  | person blank =>
      refine ⟨.inr rfl, .inr rfl, .inr rfl, .inr rfl, ?_⟩
      by_cases hid : p.personId.isSome = true
      · exact .inr ⟨rfl, .inl hid⟩
      · exact .inl (by simp [asksPeople, hid, blank])
  | personId absent blank =>
      exact ⟨.inr rfl, .inr rfl, .inr rfl, .inr rfl, .inl (by simp [asksPeople, absent, blank])⟩
  | commit blank => exact ⟨.inr rfl, .inr rfl, .inr rfl, .inl blank, .inr ⟨rfl, .inr rfl⟩⟩

end Params

theorem forall_given_of_or {s s' : String} {P : List Char → Prop}
    (h : given? s = none ∨ s' = s) (hall : ∀ t ∈ given? s', P t) : ∀ t ∈ given? s, P t := by
  rcases h with hblank | rfl
  · simp [hblank]
  · exact hall

namespace Params.Extends

variable {p p' : Params}

theorem selectsFile (h : p'.Extends p) {f : SourceFile} (hf : p'.SelectsFile f) :
    p.SelectsFile f :=
  ⟨hf.1, forall_given_of_or h.file hf.2⟩

theorem selectsCommit (h : p'.Extends p) {k : Commit} (hk : p'.SelectsCommit k) :
    p.SelectsCommit k :=
  ⟨hk.1, forall_given_of_or h.commit hk.2⟩

theorem selectsRepository (h : p'.Extends p) {r : Repository} (hr : p'.SelectsRepository r) :
    p.SelectsRepository r :=
  ⟨hr.1, forall_given_of_or h.repository hr.2⟩

theorem selectsPerson (h : p'.Extends p) {x : Person} (hx : p'.SelectsPerson x) :
    p.SelectsPerson x := by
  obtain ⟨hshown, hselects⟩ := hx
  refine ⟨hshown, ?_⟩
  rcases h.people with hnone | ⟨hid, hsame⟩
  · simp only [asksPeople, Bool.or_eq_false_iff, Option.isSome_eq_false_iff,
      Option.isNone_iff_eq_none] at hnone
    simp [hnone.1, hnone.2]
  · rw [hid] at hselects
    cases hi : p.personId with
    | some i => simpa [hi] using hselects
    | none =>
        have hperson : p'.person = p.person := hsame.resolve_left (by simp [hi])
        simpa [hi, hperson] using hselects

end Params.Extends

/-! ## Queries that ask for more -/

/-- The rules of `q'` keep nothing that those of `q` drop, and each set of ids that `q` looks into
is that of `q'`. -/
structure Narrows (q' q : Query) : Prop where
  catalog : q'.catalog = q.catalog
  participation : q'.participation = q.participation
  keepsProject : ∀ x, q'.projectRule.keepsProject x = true → q.projectRule.keepsProject x = true
  keepsLink : ∀ k, q'.projectRule.keepsLink k = true → q.projectRule.keepsLink k = true
  keepsFile : ∀ f, q'.fileRule.keeps f = true → q.fileRule.keeps f = true
  keepsCommit : ∀ k, q'.commitRule.keeps k = true → q.commitRule.keeps k = true
  takesRepository : ∀ r : Repository,
    (!r.ignored && q'.repositoryName.all fun m => m.accepts r.name) = true →
      (!r.ignored && q.repositoryName.all fun m => m.accepts r.name) = true
  takesPerson : ∀ x : Person,
    (!x.ignored && q'.selectsPerson x) = true → (!x.ignored && q.selectsPerson x) = true
  projectIds : q.projectIds = none ∨ q'.projectIds = q.projectIds
  fileIds : q.fileIds = none ∨ q'.fileIds = q.fileIds
  repositoryIds : q.repositoryIds = none ∨ q'.repositoryIds = q.repositoryIds
  personIds : q.personIds = none ∨ q'.personIds = q.personIds

theorem all_of_or {α : Type} {o o' : Option α} {t : α → Bool} (h : o = none ∨ o' = o)
    (hall : o'.all t = true) : o.all t = true := by
  rcases h with rfl | rfl
  · rfl
  · exact hall

theorem isNone_or_of_or {α : Type} {o o' : Option α} {t t' : Bool} (h : o = none ∨ o' = o)
    (ht : t' = true → t = true) (hor : (o'.isNone || t') = true) : (o.isNone || t) = true := by
  rcases h with rfl | rfl
  · rfl
  · rw [Bool.or_eq_true] at hor ⊢
    exact hor.imp_right ht

theorem any_of_imp {α : Type} {t t' : α → Bool} (h : ∀ a, t' a = true → t a = true) {as : List α}
    (hany : as.any t' = true) : as.any t = true := by
  rw [List.any_eq_true] at hany ⊢
  obtain ⟨a, ha, ht⟩ := hany
  exact ⟨a, ha, h a ht⟩

namespace Narrows

variable {q q' : Query}

theorem fileInProjects (h : q'.Narrows q) {f : SourceFile} (hf : q'.fileInProjects f = true) :
    q.fileInProjects f = true :=
  all_of_or h.projectIds hf

theorem fileInRepositories (h : q'.Narrows q) {f : SourceFile}
    (hf : q'.fileInRepositories f = true) : q.fileInRepositories f = true :=
  all_of_or h.repositoryIds hf

theorem fileOfPeople (h : q'.Narrows q) {f : SourceFile} (hf : q'.fileOfPeople f = true) :
    q.fileOfPeople f = true := by
  unfold Query.fileOfPeople at hf ⊢
  rw [h.participation] at hf
  exact all_of_or h.personIds hf

theorem someFileInProjects (h : q'.Narrows q) {is : List FileId}
    (his : q'.someFileInProjects is = true) : q.someFileInProjects is = true := by
  unfold Query.someFileInProjects at his ⊢
  rw [h.catalog] at his
  exact isNone_or_of_or h.projectIds (any_of_imp fun f => h.fileInProjects) his

theorem projects_sublist (h : q'.Narrows q) : q'.projects.Sublist q.projects := by
  unfold projects
  rw [h.catalog]
  exact q.catalog.graph.selectProjects_sublist_of_imp h.keepsProject h.keepsLink

theorem files_sublist (h : q'.Narrows q) : q'.files.Sublist q.files := by
  simp only [files, matchingFiles, FileRule.select, List.filter_filter, h.catalog]
  apply List.monotone_filter_right
  intro f hf
  simp only [Bool.and_eq_true] at hf ⊢
  obtain ⟨⟨⟨hprojects, hrepositories⟩, hpeople⟩, hkept⟩ := hf
  refine ⟨⟨⟨h.fileInProjects hprojects, ?_⟩, ?_⟩, h.keepsFile f hkept⟩
  · exact h.fileInRepositories hrepositories
  · exact h.fileOfPeople hpeople

theorem repositories_sublist (h : q'.Narrows q) : q'.repositories.Sublist q.repositories := by
  simp only [repositories, matchingRepositories, List.filter_filter, h.catalog]
  apply List.monotone_filter_right
  intro r hr
  rw [Bool.and_eq_true, Bool.and_eq_true, Bool.and_eq_true] at hr ⊢
  obtain ⟨⟨⟨hprojects, hfiles⟩, hpeople⟩, htaken⟩ := hr
  refine ⟨⟨⟨?_, all_of_or h.fileIds hfiles⟩, ?_⟩, h.takesRepository r htaken⟩
  · exact isNone_or_of_or h.projectIds (any_of_imp fun f => h.fileInProjects) hprojects
  · exact isNone_or_of_or h.personIds (any_of_imp fun f => h.fileOfPeople) hpeople

theorem commits_sublist (h : q'.Narrows q) : q'.commits.Sublist q.commits := by
  simp only [commits, CommitRule.select, flatMap_commits_filter, List.filter_filter, h.catalog]
  apply List.monotone_filter_right
  intro rc hrc
  simp only [Bool.and_eq_true] at hrc ⊢
  obtain ⟨⟨⟨hfiles, hprojects⟩, hpeople⟩, hkept, hshown, hsearched⟩ := hrc
  refine ⟨⟨⟨all_of_or h.fileIds hfiles, ?_⟩, ?_⟩, h.keepsCommit rc.2 hkept, hshown, ?_⟩
  · exact h.someFileInProjects hprojects
  · exact all_of_or h.personIds hpeople
  · exact all_of_or h.repositoryIds hsearched

theorem people_sublist (h : q'.Narrows q) : q'.people.Sublist q.people := by
  simp only [people, matchingPeople, List.filter_filter, h.catalog, h.participation]
  apply List.monotone_filter_right
  intro x hx
  rw [Bool.and_eq_true, Bool.and_eq_true, Bool.and_eq_true] at hx ⊢
  obtain ⟨⟨⟨hfiles, hprojects⟩, hrepositories⟩, htaken⟩ := hx
  refine ⟨⟨⟨all_of_or h.fileIds hfiles, ?_⟩, ?_⟩, h.takesPerson x htaken⟩
  · exact h.someFileInProjects hprojects
  · exact all_of_or h.repositoryIds hrepositories

end Narrows

theorem keeps_of_slice {p p' : Params} {usual : Option Nat} {g : Graph} {r r' : ProjectRule}
    {v : ProjectLeaf → Verdict} {hit : ProjectLeaf → Bool}
    (h : given? p.project = none ∨ p'.project = p.project)
    (hr' : (slice p' usual).rule g = .ok r') (hr : (slice p usual).rule g = .ok r)
    (hv : ∀ l, v l = .ofMatch l.policy (hit l)) (hkept : r'.keeps ProjectLeaf.policy v = true) :
    r.keeps ProjectLeaf.policy v = true := by
  rcases h with hblank | heq
  · obtain ⟨ms', -, hkeeps'⟩ := Slice.keeps_iff_of_judged hr' hv
    obtain ⟨ms, -, hkeeps⟩ := Slice.keeps_iff_of_judged hr hv
    rw [hkeeps', Slice.forall_mem_dropped_iff] at hkept
    rw [hkeeps, Slice.forall_mem_dropped_iff]
    obtain ⟨⟨hignored, hexternal, -⟩, -⟩ := hkept
    refine ⟨⟨hignored, hexternal, .inl rfl⟩, by simp [slice], .inl ?_⟩
    simp [slice, hblank]
  · have hslice : slice p' usual = slice p usual := by simp [slice, heq]
    rw [hslice, hr] at hr'
    rwa [Except.ok.inj hr']

theorem idsIf_or {κ : Type} [Key κ] {given given' : Bool} {ids ids' : List κ}
    (h : given = false ∨ given' = given ∧ ids' = ids) :
    idsIf given ids = none ∨ idsIf given' ids' = idsIf given ids := by
  rcases h with rfl | ⟨rfl, rfl⟩
  · exact .inl rfl
  · exact .inr rfl

theorem idsIf_given_or {κ : Type} [Key κ] {s s' : String} {ids ids' : List κ}
    (h : given? s = none ∨ s' = s) (hids : s' = s → ids' = ids) :
    idsIf (given? s).isSome ids = none ∨
      idsIf (given? s').isSome ids' = idsIf (given? s).isSome ids := by
  refine idsIf_or (h.imp (fun hblank => ?_) fun heq => ⟨?_, hids heq⟩)
  · rw [hblank, Option.isSome_none]
  · rw [heq]

/-! ## Compiled queries -/

section

variable {c : Catalog} {p p' : Params} {usual : Option Nat} {q q' : Query}

theorem projects_eq_of_eq (h' : Compiled c p' usual q') (h : Compiled c p usual q)
    (heq : p'.project = p.project) : q'.projects = q.projects := by
  have hslice : slice p' usual = slice p usual := by simp [slice, heq]
  have hrule := h'.projectRule
  rw [hslice, h.projectRule] at hrule
  rw [projects, projects, h'.catalog, h.catalog, Except.ok.inj hrule]

theorem matchingFiles_eq_of_eq (h' : Compiled c p' usual q') (h : Compiled c p usual q)
    (heq : p'.file = p.file) : q'.matchingFiles = q.matchingFiles := by
  have hrule := h'.fileRule
  rw [heq, h.fileRule] at hrule
  rw [matchingFiles, matchingFiles, h'.catalog, h.catalog, Except.ok.inj hrule]

theorem matchingRepositories_eq_of_eq (h' : Compiled c p' usual q') (h : Compiled c p usual q)
    (heq : p'.repository = p.repository) : q'.matchingRepositories = q.matchingRepositories := by
  have hname := h'.repositoryName
  rw [heq, h.repositoryName] at hname
  rw [matchingRepositories, matchingRepositories, h'.catalog, h.catalog, Except.ok.inj hname]

theorem matchingPeople_eq_of_eq (h' : Compiled c p' usual q') (h : Compiled c p usual q)
    (hid : p'.personId = p.personId) (hsame : p.personId.isSome = true ∨ p'.person = p.person) :
    q'.matchingPeople = q.matchingPeople := by
  have hselects (x : Person) : q'.selectsPerson x = q.selectsPerson x := by
    unfold selectsPerson
    rw [h'.personId, h.personId, hid]
    rcases hsame with hsome | heq
    · obtain ⟨i, hi⟩ := Option.isSome_iff_exists.mp hsome
      rw [hi]
    · have hname := h'.personName
      rw [heq, h.personName] at hname
      rw [Except.ok.inj hname]
  simp only [matchingPeople, h'.catalog, h.catalog, hselects]

theorem Compiled.narrows (h' : Compiled c p' usual q') (h : Compiled c p usual q)
    (hextends : p'.Extends p) : q'.Narrows q where
  catalog := h'.catalog.trans h.catalog.symm
  participation := h'.participation.trans h.participation.symm
  keepsProject x := keeps_of_slice hextends.project h'.projectRule h.projectRule
    (ProjectLeaf.onProject_eq_ofMatch x)
  keepsLink k := keeps_of_slice hextends.project h'.projectRule h.projectRule
    (ProjectLeaf.onLink_eq_ofMatch k)
  keepsFile f := by
    rw [h'.keepsFile_iff, h.keepsFile_iff]
    exact hextends.selectsFile
  keepsCommit k := by
    rw [h'.keepsCommit_iff, h.keepsCommit_iff]
    exact hextends.selectsCommit
  takesRepository r := by
    rw [h'.takesRepository_iff, h.takesRepository_iff]
    exact hextends.selectsRepository
  takesPerson x := by
    rw [h'.takesPerson_iff, h.takesPerson_iff]
    exact hextends.selectsPerson
  projectIds := by
    rw [h'.projectIds, h.projectIds]
    exact idsIf_given_or hextends.project fun heq => by rw [projects_eq_of_eq h' h heq]
  fileIds := by
    rw [h'.fileIds, h.fileIds]
    exact idsIf_given_or hextends.file fun heq => by rw [matchingFiles_eq_of_eq h' h heq]
  repositoryIds := by
    rw [h'.repositoryIds, h.repositoryIds]
    exact idsIf_given_or hextends.repository fun heq => by
      rw [matchingRepositories_eq_of_eq h' h heq]
  personIds := by
    rw [h'.personIds, h.personIds]
    refine idsIf_or (hextends.people.imp_right fun ⟨hid, hsame⟩ => ⟨?_, ?_⟩)
    · unfold Params.asksPeople
      rcases hsame with hsome | heq
      · rw [hid, hsome, Bool.true_or, Bool.true_or]
      · rw [hid, heq]
    · rw [matchingPeople_eq_of_eq h' h hid hsame]

/-- A value for a parameter that asked for nothing takes away from the answers, of every kind, and
adds nothing to them; what is left is in the order in which it was. -/
theorem answers_sublist_of_adds (hadds : p.Adds p') (hq : compile c p usual = .ok q)
    (hq' : compile c p' usual = .ok q') :
    q'.projects.Sublist q.projects ∧ q'.files.Sublist q.files ∧
      q'.repositories.Sublist q.repositories ∧ q'.commits.Sublist q.commits ∧
        q'.people.Sublist q.people := by
  have hnarrows : q'.Narrows q :=
    (compiled_of_eq_ok hq').narrows (compiled_of_eq_ok hq) (Params.extends_of_adds hadds)
  refine ⟨hnarrows.projects_sublist, hnarrows.files_sublist, hnarrows.repositories_sublist, ?_, ?_⟩
  · exact hnarrows.commits_sublist
  · exact hnarrows.people_sublist

end

/-- Where the repository `main` is asked for, the file of nobody is no longer listed. -/
theorem answers_sublist_of_adds_of_one_commit :
    ∃ c q q', Catalog.ofRecord (.ofOneCommit false false) = .ok c ∧ compile c {} none = .ok q ∧
      compile c { repository := "main" } none = .ok q' ∧
      Params.Adds {} { repository := "main" } ∧
      q.files.map (·.path) = ["a.rs", "notes.md"] ∧ q'.files.map (·.path) = ["a.rs"] ∧
      q'.files.Sublist q.files := by
  have hadds : Params.Adds {} { repository := "main" } := .repository rfl
  have hrun : ∃ c q q', Catalog.ofRecord (.ofOneCommit false false) = .ok c ∧
      compile c {} none = .ok q ∧ compile c { repository := "main" } none = .ok q' ∧
        q.files.map (·.path) = ["a.rs", "notes.md"] ∧ q'.files.map (·.path) = ["a.rs"] :=
    ⟨_, _, _, rfl, rfl, rfl, by decide +kernel, by decide +kernel⟩
  obtain ⟨c, q, q', hc, hq, hq', hall, hsome⟩ := hrun
  obtain ⟨-, hfiles, -⟩ := answers_sublist_of_adds hadds hq hq'
  exact ⟨c, q, q', hc, hq, hq', hadds, hall, hsome, hfiles⟩

end Query

end Landscape
