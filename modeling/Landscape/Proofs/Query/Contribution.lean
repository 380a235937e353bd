import Landscape.Proofs.Query.Holders

namespace Landscape

/-!
# People and repositories

A repository is asked for the people who have a commit in it, a person for the repositories that
store a file of some commit of the person. The two relations differ where a commit touches no file
of its own repository, or a file of another one.
-/

/-- The person wrote or committed a commit of the repository. -/
def Repository.HasCommitBy (r : Repository) (x : PersonId) : Prop := ∃ k ∈ r.commits, k.By x

instance (r : Repository) (x : PersonId) : Decidable (r.HasCommitBy x) :=
  inferInstanceAs (Decidable (∃ k ∈ r.commits, k.By x))

namespace Catalog

variable {c : Catalog} {r : Repository}

def storedIn (c : Catalog) (r : Repository) : List SourceFile :=
  c.files.filter fun f => decide (f.repository = some r.id)

theorem mem_storedIn_iff {f : SourceFile} :
    f ∈ c.storedIn r ↔ f ∈ c.files ∧ f.repository = some r.id := by
  rw [storedIn, List.mem_filter, decide_eq_true_iff]

end Catalog

/-- The person `ann` wrote the one commit of the repository `fork`. It touches the one file, which
the repository `main` stores. -/
def CatalogRecord.ofCommitElsewhere : CatalogRecord where
  projects := []
  files := [⟨⟨1⟩, "a.rs", none, some ⟨1⟩, false⟩]
  repositories := [⟨⟨1⟩, "main", none, false, []⟩,
    ⟨⟨2⟩, "fork", none, false, [⟨⟨1⟩, "c1", "add a", [], [⟨1⟩], none, [⟨1⟩], false⟩]⟩]
  people := [⟨⟨1⟩, "ann", [], [], false⟩]

namespace Query

variable {c : Catalog} {usual : Option Nat} {q : Query} {term : String} {m : Matcher}
  {r : Repository} {x : Person}

/-! ## A person alone -/

theorem exists_compile_eq_ok_of_person (c : Catalog) (i : PersonId) (usual : Option Nat) :
    ∃ q, compile c { personId := some i } usual = .ok q :=
  exists_compile_eq_ok_iff.mpr ⟨⟨_, rfl⟩, ⟨_, rfl⟩, ⟨_, rfl⟩, ⟨_, rfl⟩, ⟨_, rfl⟩⟩

/-- What is asked of repositories is a stored file, whichever repository its commits are of. -/
theorem mem_repositories_of_person (hc : c.Indexed)
    (h : Compiled c { personId := some x.id } usual q) (hx : x ∈ c.people)
    (hshown : x.ignored = false) :
    r ∈ q.repositories ↔ (r ∈ c.repositories ∧ r.ignored = false) ∧
      ∃ rk ∈ c.commits, rk.2.By x.id ∧ rk.2.ListsOneOf (c.storedIn r) := by
  have hperson (f : SourceFile) : (∃ y ∈ c.people,
      Params.SelectsPerson { personId := some x.id } y ∧ c.Touches y.id f.id) ↔
        c.Touches x.id f.id := by
    constructor
    · rintro ⟨y, -, ⟨-, hid⟩, htouches⟩
      exact hid ▸ htouches
    · intro htouches
      exact ⟨x, hx, ⟨hshown, rfl⟩, htouches⟩
  rw [h.repositories_eq_filter hc, ← Catalog.exists_touches_iff]
  simp [joinsRepository_iff, Params.SelectsRepository, Params.asksProjects, Params.asksFiles,
    Params.asksPeople, hperson, Catalog.mem_storedIn_iff, and_assoc]

/-! ## A repository alone -/

theorem exists_compile_eq_ok_of_repository (hm : Matcher.ofTerm term.toList = .ok m)
    (c : Catalog) (usual : Option Nat) : ∃ q, compile c { repository := term } usual = .ok q := by
  have hterm : ∃ n, matcherOf .repository term = .ok n := by
    unfold matcherOf
    cases hs : given? term with
    | none => exact ⟨_, rfl⟩
    | some t =>
        have ht : Matcher.ofTerm t = .ok m := by
          rw [← hm, eq_trim_of_given? hs]
          simp [Matcher.ofTerm]
        simp only [ht]
        exact ⟨_, rfl⟩
  exact exists_compile_eq_ok_iff.mpr ⟨⟨_, rfl⟩, ⟨_, rfl⟩, ⟨_, rfl⟩, hterm, ⟨_, rfl⟩⟩

theorem selectsRepository_iff_of_term (hm : Matcher.ofTerm term.toList = .ok m)
    (hgiven : (given? term).isSome = true) :
    Params.SelectsRepository { repository := term } r ↔
      r.ignored = false ∧ m.accepts r.name = true := by
  obtain ⟨t, ht⟩ := Option.isSome_iff_exists.mp hgiven
  have hread : Matcher.ofTerm t = .ok m := by
    rw [← hm, eq_trim_of_given? ht]
    simp [Matcher.ofTerm]
  simp [Params.SelectsRepository, Matcher.TakesSome, ht, hread]

/-- What is asked of people is a commit in the repository, whatever it touches. -/
theorem mem_people_of_repository (hc : c.Indexed)
    (h : Compiled c { repository := term } usual q) (hm : Matcher.ofTerm term.toList = .ok m)
    (hr : r ∈ c.repositories) (hshown : r.ignored = false)
    (honly : ∀ s ∈ c.repositories, m.accepts s.name = true ↔ s = r) :
    x ∈ q.people ↔ (x ∈ c.people ∧ x.ignored = false) ∧
      ((given? term).isSome = true → r.HasCommitBy x.id) := by
  have hrepository (hgiven : (given? term).isSome = true) : (∃ s ∈ c.repositories,
      Params.SelectsRepository { repository := term } s ∧ ∃ k ∈ s.commits, k.By x.id) ↔
        r.HasCommitBy x.id := by
    constructor
    · rintro ⟨s, hs, hselects, hby⟩
      have hname := ((selectsRepository_iff_of_term hm hgiven).mp hselects).2
      exact (honly s hs).mp hname ▸ hby
    · intro hby
      have hname : m.accepts r.name = true := (honly r hr).mpr rfl
      exact ⟨r, hr, (selectsRepository_iff_of_term hm hgiven).mpr ⟨hshown, hname⟩, hby⟩
  rw [h.people_eq_filter hc, ← imp_congr_right hrepository]
  simp [joinsPerson_iff, Params.SelectsPerson, Params.asksFiles, Params.asksProjects,
    Params.asksRepositories, and_assoc]

/-! ## Both directions -/

/-- Let the term match one repository only. The repository is listed for a person if some commit of
the person, in whatever repository, lists a file that it stores; the person is listed for the term,
unless it is blank, if the repository has a commit of the person, whatever the commit lists. So the
one follows from the other where each commit of the person there lists a file that is stored there,
and the other from the one where no commit elsewhere does. -/
theorem mem_repositories_and_mem_people {record : CatalogRecord}
    (hc : Catalog.ofRecord record = .ok c) (hm : Matcher.ofTerm term.toList = .ok m)
    (hr : r ∈ c.repositories) (hrshown : r.ignored = false)
    (honly : ∀ s ∈ c.repositories, m.accepts s.name = true ↔ s = r)
    (hx : x ∈ c.people) (hxshown : x.ignored = false) (usual : Option Nat) :
    ∃ q q', compile c { personId := some x.id } usual = .ok q ∧
      compile c { repository := term } usual = .ok q' ∧
      (r ∈ q.repositories ↔
        ∃ rk ∈ c.commits, rk.2.By x.id ∧ rk.2.ListsOneOf (c.storedIn r)) ∧
      (x ∈ q'.people ↔ ((given? term).isSome = true → r.HasCommitBy x.id)) ∧
      ((given? term).isSome = true →
        ((∀ k ∈ r.commits, k.By x.id → k.ListsOneOf (c.storedIn r)) →
          x ∈ q'.people → r ∈ q.repositories) ∧
        ((∀ rk ∈ c.commits, rk.2.By x.id → rk.2.ListsOneOf (c.storedIn r) → rk.1 = r) →
          r ∈ q.repositories → x ∈ q'.people)) := by
  have hindexed : c.Indexed := Catalog.indexed_of_ofRecord hc
  obtain ⟨q, hq⟩ := exists_compile_eq_ok_of_person c x.id usual
  obtain ⟨q', hq'⟩ := exists_compile_eq_ok_of_repository hm c usual
  have hrepositories : r ∈ q.repositories ↔
      ∃ rk ∈ c.commits, rk.2.By x.id ∧ rk.2.ListsOneOf (c.storedIn r) := by
    rw [mem_repositories_of_person hindexed (compiled_of_eq_ok hq) hx hxshown]
    exact and_iff_right ⟨hr, hrshown⟩
  have hpeople : x ∈ q'.people ↔ ((given? term).isSome = true → r.HasCommitBy x.id) := by
    rw [mem_people_of_repository hindexed (compiled_of_eq_ok hq') hm hr hrshown honly]
    exact and_iff_right ⟨hx, hxshown⟩
  refine ⟨q, q', hq, hq', hrepositories, hpeople, fun hgiven => ⟨fun hlists hmem => ?_, ?_⟩⟩
  · obtain ⟨k, hk, hby⟩ := hpeople.mp hmem hgiven
    exact hrepositories.mpr ⟨(r, k), Catalog.mem_commits_iff.mpr ⟨hr, hk⟩, hby, hlists k hk hby⟩
  · intro hown hmem
    obtain ⟨rk, hrk, hby, hlisted⟩ := hrepositories.mp hmem
    have hhome : rk.1 = r := hown rk hrk hby hlisted
    have hk : rk.2 ∈ r.commits := hhome ▸ (Catalog.mem_commits_iff.mp hrk).2
    exact hpeople.mpr fun _ => ⟨rk.2, hk, hby⟩

/-- The commit of `ann` is in `main` and lists the file of `main`. -/
theorem mem_repositories_and_mem_people_of_one_commit :
    ∃ c r x m q q', Catalog.ofRecord (.ofOneCommit false false) = .ok c ∧
      c.repositories = [r] ∧ c.people = [x] ∧ Matcher.ofTerm "main".toList = .ok m ∧
      (∀ s ∈ c.repositories, m.accepts s.name = true ↔ s = r) ∧
      compile c { personId := some x.id } none = .ok q ∧
      compile c { repository := "main" } none = .ok q' ∧
      r ∈ q.repositories ∧ x ∈ q'.people := by
  have hrun : ∃ c r x m, Catalog.ofRecord (.ofOneCommit false false) = .ok c ∧
      c.repositories = [r] ∧ c.people = [x] ∧ Matcher.ofTerm "main".toList = .ok m ∧
      m.accepts r.name = true ∧ r.ignored = false ∧ x.ignored = false ∧ r.HasCommitBy x.id ∧
      ∀ k ∈ r.commits, k.ListsOneOf (c.storedIn r) :=
    ⟨_, _, _, _, by cbv, rfl, rfl, by cbv, by cbv, rfl, rfl, by decide +kernel, by decide +kernel⟩
  obtain ⟨c, r, x, m, hc, hrepositories, hpeople, hm, hname, hrshown, hxshown, hby, hlists⟩ := hrun
  have hr : r ∈ c.repositories := hrepositories ▸ List.mem_singleton_self r
  have hx : x ∈ c.people := hpeople ▸ List.mem_singleton_self x
  have honly : ∀ s ∈ c.repositories, m.accepts s.name = true ↔ s = r := by
    intro s hs
    rw [hrepositories, List.mem_singleton] at hs
    rw [hs]
    exact iff_of_true hname rfl
  obtain ⟨q, q', hq, hq', -, hlisted, hboth⟩ :=
    mem_repositories_and_mem_people hc hm hr hrshown honly hx hxshown none
  have hmem : x ∈ q'.people := hlisted.mpr fun _ => hby
  refine ⟨c, r, x, m, q, q', hc, hrepositories, hpeople, hm, honly, hq, hq', ?_, hmem⟩
  exact (hboth rfl).1 (fun k hk _ => hlists k hk) hmem

/-- The one commit, of `ann`, is in `fork` and lists the file of `main`. So it is `main` that is
listed for `ann`, but `ann` is listed for `fork`. -/
theorem exists_not_mem_repositories_iff_mem_people :
    ∃ c main fork x m n q qm qf, Catalog.ofRecord .ofCommitElsewhere = .ok c ∧
      c.repositories = [main, fork] ∧ main.ignored = false ∧ fork.ignored = false ∧
      c.people = [x] ∧ x.ignored = false ∧
      (Matcher.ofTerm "main".toList = .ok m ∧
        ∀ s ∈ c.repositories, m.accepts s.name = true ↔ s = main) ∧
      (Matcher.ofTerm "fork".toList = .ok n ∧
        ∀ s ∈ c.repositories, n.accepts s.name = true ↔ s = fork) ∧
      compile c { personId := some x.id } none = .ok q ∧
      compile c { repository := "main" } none = .ok qm ∧
      compile c { repository := "fork" } none = .ok qf ∧
      ¬ (main ∈ q.repositories ↔ x ∈ qm.people) ∧ ¬ (fork ∈ q.repositories ↔ x ∈ qf.people) := by
  have hrun : ∃ c main fork x m n, Catalog.ofRecord .ofCommitElsewhere = .ok c ∧
      c.repositories = [main, fork] ∧ main.ignored = false ∧ fork.ignored = false ∧
      c.people = [x] ∧ x.ignored = false ∧ Matcher.ofTerm "main".toList = .ok m ∧
      Matcher.ofTerm "fork".toList = .ok n ∧ main ≠ fork ∧
      (m.accepts main.name = true ∧ m.accepts fork.name = false) ∧
      (n.accepts main.name = false ∧ n.accepts fork.name = true) ∧
      (∃ rk ∈ c.commits, rk.2.By x.id ∧ rk.2.ListsOneOf (c.storedIn main)) ∧
      (¬ ∃ rk ∈ c.commits, rk.2.By x.id ∧ rk.2.ListsOneOf (c.storedIn fork)) ∧
      ¬ main.HasCommitBy x.id ∧ fork.HasCommitBy x.id :=
    ⟨_, _, _, _, _, _, by cbv, by rfl, by rfl, by rfl, by rfl, by rfl, by cbv, by cbv,
      by decide, ⟨by cbv, by cbv⟩, ⟨by cbv, by cbv⟩, by decide +kernel, by decide +kernel,
      by decide +kernel, by decide +kernel⟩
  obtain ⟨c, main, fork, x, m, n, hc, hrepositories, hmain, hfork, hpeople, hx, hm, hn, hne,
    hmnames, hnnames, hstored, hnotstored, hnocommit, hcommit⟩ := hrun
  have hindexed : c.Indexed := Catalog.indexed_of_ofRecord hc
  have hxmem : x ∈ c.people := hpeople ▸ List.mem_singleton_self x
  have hmainmem : main ∈ c.repositories := by simp [hrepositories]
  have hforkmem : fork ∈ c.repositories := by simp [hrepositories]
  have honlymain : ∀ s ∈ c.repositories, m.accepts s.name = true ↔ s = main := by
    simp [hrepositories, hmnames, hne.symm]
  have honlyfork : ∀ s ∈ c.repositories, n.accepts s.name = true ↔ s = fork := by
    simp [hrepositories, hnnames, hne]
  obtain ⟨q, hq⟩ := exists_compile_eq_ok_of_person c x.id none
  obtain ⟨qm, hqm⟩ := exists_compile_eq_ok_of_repository hm c none
  obtain ⟨qf, hqf⟩ := exists_compile_eq_ok_of_repository hn c none
  have hrepository (r : Repository) :=
    mem_repositories_of_person (r := r) hindexed (compiled_of_eq_ok hq) hxmem hx
  have hxmain := mem_people_of_repository (x := x) hindexed (compiled_of_eq_ok hqm) hm hmainmem hmain
    honlymain
  have hxfork := mem_people_of_repository (x := x) hindexed (compiled_of_eq_ok hqf) hn hforkmem hfork
    honlyfork
  refine ⟨c, main, fork, x, m, n, q, qm, qf, hc, hrepositories, hmain, hfork, hpeople, hx,
    ⟨hm, honlymain⟩, ⟨hn, honlyfork⟩, hq, hqm, hqf, fun h => ?_, fun h => ?_⟩
  · have hlisted : main ∈ q.repositories := (hrepository main).mpr ⟨⟨hmainmem, hmain⟩, hstored⟩
    exact hnocommit ((hxmain.mp (h.mp hlisted)).2 rfl)
  · have hlisted : x ∈ qf.people := hxfork.mpr ⟨⟨hxmem, hx⟩, fun _ => hcommit⟩
    exact hnotstored ((hrepository fork).mp (h.mpr hlisted)).2

end Query

end Landscape
