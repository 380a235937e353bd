import Landscape.Proofs.Rule.Clauses
import Landscape.Query.Basic

namespace Landscape

/-!
# What a query selects of each kind

Every part of a query is read from its own parameter. Of files, commits, repositories and people
it selects what is not ignored and, if the parameter of the kind is given, what that is true of.
-/

open Text

/-- The term can be read and takes one of the names. -/
def Matcher.TakesSome (term : List Char) (names : List String) : Prop :=
  ∃ m, ofTerm term = .ok m ∧ ∃ name ∈ names, m.accepts name = true

namespace Query

/-! ## What the parameters ask for -/

namespace Params

variable (p : Params)

def asksProjects : Bool := (given? p.project).isSome

def asksFiles : Bool := (given? p.file).isSome

def asksRepositories : Bool := (given? p.repository).isSome

def asksPeople : Bool := p.personId.isSome || (given? p.person).isSome

def SelectsFile (f : SourceFile) : Prop :=
  f.ignored = false ∧
    ∀ rule ∈ given? p.file, Formula.Applies FileTest.ofText (FileTest.holds f) rule

def SelectsCommit (k : Commit) : Prop :=
  k.ignored = false ∧
    ∀ rule ∈ given? p.commit, Formula.Applies CommitTest.ofText (CommitTest.holds k) rule

def SelectsRepository (r : Repository) : Prop :=
  r.ignored = false ∧ ∀ term ∈ given? p.repository, Matcher.TakesSome term [r.name]

/-- The person is not ignored and has the id that is given or else, if a term is given, a name or
an email that the term takes. -/
def SelectsPerson (x : Person) : Prop :=
  x.ignored = false ∧
    match p.personId with
    | some i => x.id = i
    | none => ∀ term ∈ given? p.person, Matcher.TakesSome term (x.allNames ++ x.emails)

end Params

variable {c : Catalog} {p : Params} {usual : Option Nat} {q : Query}

/-! ## Reading one parameter -/

@[simp] theorem given?_empty : given? "" = none := rfl

theorem eq_trim_of_given? {s : String} {t : List Char} (h : given? s = some t) :
    t = Text.trim s.toList := by
  unfold given? at h
  split at h
  · cases h
  · exact (Option.some.inj h).symm

theorem asRule_eq_ok_iff {α : Type} {kind : Kind} {x : Except RuleError α} {a : α} :
    asRule kind x = .ok a ↔ x = .ok a := by
  cases x <;> simp [asRule]

theorem isSome_of_matcherOf {kind : Kind} {s : String} {m : Option Matcher}
    (h : matcherOf kind s = .ok m) : m.isSome = (given? s).isSome := by
  unfold matcherOf at h
  cases hs : given? s with
  | none =>
      rw [hs] at h
      cases h
      rfl
  | some t =>
      rw [hs] at h
      obtain ⟨m', -, rfl⟩ := map_eq_ok_iff.mp (asRule_eq_ok_iff.mp h)
      rfl

theorem all_acceptsSome_iff {kind : Kind} {s : String} {m : Option Matcher}
    (h : matcherOf kind s = .ok m) (names : List String) :
    (m.all fun m => m.acceptsSome names) = true ↔
      ∀ term ∈ given? s, Matcher.TakesSome term names := by
  unfold matcherOf at h
  cases hs : given? s with
  | none =>
      rw [hs] at h
      cases h
      simp
  | some t =>
      rw [hs] at h
      obtain ⟨m', hm', rfl⟩ := map_eq_ok_iff.mp (asRule_eq_ok_iff.mp h)
      simp [Matcher.TakesSome, hm', Matcher.acceptsSome]

/-- A rule of a query keeps what its built-in test does not drop and what the rule that is given,
if any, applies to. -/
theorem keeps_ruleOf_iff {α : Type} {test : List Char → Except RuleError α} {kind : Kind}
    {s : String} {f : Formula (Leaf α)} {dropping : α}
    (h : ruleOf kind (.leaf ⟨dropping, .excluding⟩) (Leaf.formulaOfRule test .including) s = .ok f)
    (holds : α → Bool) :
    f.keeps Leaf.policy (Leaf.verdict holds) = true ↔
      holds dropping = false ∧ ∀ rule ∈ given? s, Formula.Applies test holds rule := by
  have hdrop : (Formula.leaf ⟨dropping, .excluding⟩).verdict (Leaf.verdict holds) =
      .ofMatch .excluding (holds dropping) := rfl
  have hready : (Formula.leaf ⟨dropping, .excluding⟩).keepsByDefault Leaf.policy = true := rfl
  unfold ruleOf at h
  cases hs : given? s with
  | none =>
      rw [hs] at h
      cases h
      rw [Formula.keeps_any_iff]
      cases hd : holds dropping <;> simp [hdrop, hready, hd, Policy.verdict]
  | some rule =>
      rw [hs] at h
      obtain ⟨g, hg, rfl⟩ := map_eq_ok_iff.mp (asRule_eq_ok_iff.mp h)
      have hpolicy : ∀ l ∈ g.leaves, l.policy = .including := by
        refine Formula.forall_mem_leaves (fun t l hl => ?_) hg
        obtain ⟨a, -, rfl⟩ := map_eq_ok_iff.mp hl
        rfl
      have hmatch : ∀ l ∈ g.leaves,
          Leaf.verdict holds l = .ofMatch .including (holds l.test) := by
        intro l hl
        rw [Leaf.verdict, hpolicy l hl]
      have happlies : Formula.Applies (fun t => (⟨·, .including⟩ : α → Leaf α) <$> test t)
          (fun l => holds l.test) rule ↔ Formula.Applies test holds rule := by
        simp [Formula.Applies, map_eq_ok_iff]
      obtain ⟨b, hb, hverdict⟩ := Formula.verdict_of_policy hg hmatch
      have hnever : g.keepsByDefault Leaf.policy = false :=
        Formula.keepsByDefault_of_policy hg hpolicy
      rw [Formula.keeps_any_iff]
      cases hd : holds dropping <;> cases b <;>
        simp [hdrop, hready, hd, hverdict, hnever, ← happlies, ← hb, Policy.verdict]

/-! ## Compiled queries -/

/-- The query is what the parameters ask of the catalog. -/
structure Compiled (c : Catalog) (p : Params) (usual : Option Nat) (q : Query) : Prop where
  catalog : q.catalog = c
  projectRule : (slice p usual).rule c.graph = .ok q.projectRule
  fileRule : ruleOf .file FileRule.dropIgnored (FileRule.ofText .including) p.file = .ok q.fileRule
  commitRule :
    ruleOf .commit CommitRule.dropIgnored (CommitRule.ofText .including) p.commit = .ok q.commitRule
  repositoryName : matcherOf .repository p.repository = .ok q.repositoryName
  personName : matcherOf .person p.person = .ok q.personName
  personId : q.personId = p.personId
  participation : q.participation = .ofRepositories c.repositories
  projectIds : q.projectIds = idsIf p.asksProjects (q.projects.map (·.id))
  fileIds : q.fileIds = idsIf p.asksFiles (q.matchingFiles.map (·.id))
  repositoryIds : q.repositoryIds = idsIf p.asksRepositories (q.matchingRepositories.map (·.id))
  personIds : q.personIds = idsIf p.asksPeople (q.matchingPeople.map (·.id))

theorem compiled_of_eq_ok (h : compile c p usual = .ok q) : Compiled c p usual q := by
  obtain ⟨projectRule, hproject, h⟩ := exists_of_bind_eq_ok h
  obtain ⟨fileRule, hfile, h⟩ := exists_of_bind_eq_ok h
  obtain ⟨commitRule, hcommit, h⟩ := exists_of_bind_eq_ok h
  obtain ⟨repositoryName, hrepository, h⟩ := exists_of_bind_eq_ok h
  obtain ⟨personName, hperson, h⟩ := exists_of_bind_eq_ok h
  cases h
  refine ⟨rfl, asRule_eq_ok_iff.mp hproject, hfile, hcommit, hrepository, hperson, rfl, rfl, rfl,
    rfl, ?_, ?_⟩
  · simp only [Params.asksRepositories, ← isSome_of_matcherOf hrepository]
    rfl
  · simp only [Params.asksPeople, ← isSome_of_matcherOf hperson]
    rfl

/-- A query can be compiled if each of its parts can be read. -/
theorem exists_compile_eq_ok_iff :
    (∃ q, compile c p usual = .ok q) ↔
      (∃ r, (slice p usual).rule c.graph = .ok r) ∧
      (∃ f, ruleOf .file FileRule.dropIgnored (FileRule.ofText .including) p.file = .ok f) ∧
      (∃ f, ruleOf .commit CommitRule.dropIgnored (CommitRule.ofText .including) p.commit = .ok f) ∧
      (∃ m, matcherOf .repository p.repository = .ok m) ∧
      ∃ m, matcherOf .person p.person = .ok m := by
  constructor
  · rintro ⟨q, hq⟩
    have h : Compiled c p usual q := compiled_of_eq_ok hq
    exact ⟨⟨_, h.projectRule⟩, ⟨_, h.fileRule⟩, ⟨_, h.commitRule⟩, ⟨_, h.repositoryName⟩,
      ⟨_, h.personName⟩⟩
  · rintro ⟨⟨r, hproject⟩, ⟨f, hfile⟩, ⟨k, hcommit⟩, ⟨m, hrepository⟩, ⟨n, hperson⟩⟩
    unfold compile
    rw [hproject, hfile, hcommit, hrepository, hperson]
    exact ⟨_, rfl⟩

namespace Compiled

theorem keepsFile_iff (h : Compiled c p usual q) (f : SourceFile) :
    q.fileRule.keeps f = true ↔ p.SelectsFile f :=
  keeps_ruleOf_iff h.fileRule (FileTest.holds f)

theorem keepsCommit_iff (h : Compiled c p usual q) (k : Commit) :
    q.commitRule.keeps k = true ↔ p.SelectsCommit k :=
  keeps_ruleOf_iff h.commitRule (CommitTest.holds k)

theorem mem_matchingFiles_iff (h : Compiled c p usual q) {f : SourceFile} :
    f ∈ q.matchingFiles ↔ f ∈ c.files ∧ p.SelectsFile f := by
  rw [matchingFiles, FileRule.select, List.mem_filter, h.catalog, h.keepsFile_iff]

theorem takesRepository_iff (h : Compiled c p usual q) (r : Repository) :
    (!r.ignored && q.repositoryName.all fun m => m.accepts r.name) = true ↔
      p.SelectsRepository r := by
  have hterm := all_acceptsSome_iff h.repositoryName [r.name]
  simp only [Matcher.acceptsSome, List.any_cons, List.any_nil, Bool.or_false] at hterm
  rw [Bool.and_eq_true, Bool.not_eq_true', hterm, Params.SelectsRepository]

theorem mem_matchingRepositories_iff (h : Compiled c p usual q) {r : Repository} :
    r ∈ q.matchingRepositories ↔ r ∈ c.repositories ∧ p.SelectsRepository r := by
  rw [matchingRepositories, List.mem_filter, h.catalog, h.takesRepository_iff]

theorem takesPerson_iff (h : Compiled c p usual q) (x : Person) :
    (!x.ignored && q.selectsPerson x) = true ↔ p.SelectsPerson x := by
  have hterm := all_acceptsSome_iff h.personName (x.allNames ++ x.emails)
  have hid := h.personId
  rw [Bool.and_eq_true, Bool.not_eq_true', Params.SelectsPerson, selectsPerson]
  refine and_congr_right' ?_
  cases hi : p.personId with
  | some i => simp [hid, hi]
  | none =>
      rw [hid, hi, ← hterm]
      cases q.personName <;> simp [Matcher.acceptsSome]

theorem mem_matchingPeople_iff (h : Compiled c p usual q) {x : Person} :
    x ∈ q.matchingPeople ↔ x ∈ c.people ∧ p.SelectsPerson x := by
  rw [matchingPeople, List.mem_filter, h.catalog, h.takesPerson_iff]

end Compiled

end Query

end Landscape
