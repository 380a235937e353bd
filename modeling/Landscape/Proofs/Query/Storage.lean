import Landscape.Proofs.Query.Join

namespace Landscape.Query

/-!
# Listed files and their repositories

Repositories are asked for a file of each kind of parameter, and these files may differ. A file that
is listed meets all parameters at once, so it stands for each of them in its own repository.
-/

variable {c : Catalog} {p : Params} {usual : Option Nat} {q : Query} {f : SourceFile}
  {r : Repository}

/-- The one repository with the id of a selected one is selected. -/
theorem JoinsFile.selectsRepository (hc : c.Indexed) {ps : List Project} (h : JoinsFile c p ps f)
    (hr : r ∈ c.repositories) (hid : f.repository = some r.id) (hshown : r.ignored = false) :
    p.SelectsRepository r := by
  refine ⟨hshown, ?_⟩
  intro term hterm
  have hasks : p.asksRepositories = true := Option.isSome_of_mem hterm
  obtain ⟨s, hs, hselects, hstored⟩ := h.repositories hasks
  have hids : s.id = r.id := Option.some.inj (hstored.symm.trans hid)
  have hsame : s = r := List.inj_on_of_nodup_map hc.nodup_repositories hs hr hids
  rw [← hsame]
  exact hselects.2 term hterm

theorem JoinsFile.joinsRepository (hc : c.Indexed) {ps : List Project} (h : JoinsFile c p ps f)
    (hf : f ∈ c.files) (hr : r ∈ c.repositories) (hid : f.repository = some r.id)
    (hshown : r.ignored = false) : JoinsRepository c p ps r where
  selected := h.selectsRepository hc hr hid hshown
  projects hasks := ⟨f, hf, hid, h.projects hasks⟩
  files _ := ⟨f, hf, hid, h.selected⟩
  people hasks := ⟨f, hf, hid, h.people hasks⟩

theorem Compiled.mem_files_iff (h : Compiled c p usual q) :
    f ∈ q.files ↔ f ∈ c.files ∧ JoinsFile c p q.projects f := by
  classical
  rw [h.files_eq_filter, List.mem_filter, decide_eq_true_iff]

theorem Compiled.mem_repositories_iff (hc : c.Indexed) (h : Compiled c p usual q) :
    r ∈ q.repositories ↔ r ∈ c.repositories ∧ JoinsRepository c p q.projects r := by
  classical
  rw [h.repositories_eq_filter hc, List.mem_filter, decide_eq_true_iff]

/-- The repository of a listed file is one of the catalog, and it is listed unless it is ignored. -/
theorem mem_repositories_iff_of_mem_files {record : CatalogRecord}
    (hc : Catalog.ofRecord record = .ok c) (hq : compile c p usual = .ok q) (hf : f ∈ q.files) :
    (∀ i, f.repository = some i → ∃ r ∈ c.repositories, r.id = i) ∧
    ∀ r ∈ c.repositories, f.repository = some r.id →
      (r ∈ q.repositories ↔ r.ignored = false) := by
  have hindexed : c.Indexed := Catalog.indexed_of_ofRecord hc
  have h : Compiled c p usual q := compiled_of_eq_ok hq
  obtain ⟨hmem, hjoins⟩ := h.mem_files_iff.mp hf
  constructor
  · intro i hi
    obtain ⟨g, -, -, -, -, hresolves, rfl⟩ := Catalog.ofRecord_eq_ok_iff.mp hc
    exact List.mem_map.mp ((hresolves f hmem).repository i hi)
  · intro r hr hid
    constructor
    · intro hlisted
      exact ((h.mem_repositories_iff hindexed).mp hlisted).2.selected.1
    · intro hshown
      apply (h.mem_repositories_iff hindexed).mpr
      exact ⟨hr, hjoins.joinsRepository hindexed hmem hr hid hshown⟩

/-- Asked for files of `a` that `ann` touched, `main` is listed because the one file is. -/
theorem mem_repositories_iff_of_mem_files_of_one_commit :
    let p : Params := { file := "*", project := "a", personId := some ⟨1⟩ }
    ∃ c q f r, Catalog.ofRecord (.ofOneCommit false false) = .ok c ∧ compile c p none = .ok q ∧
      q.files = [f] ∧ r ∈ c.repositories ∧ f.repository = some r.id ∧ r.ignored = false ∧
      r ∈ q.repositories := by
  intro p
  have hrun : ∃ c q f r, Catalog.ofRecord (.ofOneCommit false false) = .ok c ∧
      compile c p none = .ok q ∧ q.files = [f] ∧ c.repositories = [r] ∧
        f.repository = some r.id ∧ r.ignored = false :=
    ⟨_, _, _, _, by cbv, by cbv, by cbv, rfl, rfl, rfl⟩
  obtain ⟨c, q, f, r, hc, hq, hfiles, hrepositories, hid, hshown⟩ := hrun
  have hf : f ∈ q.files := hfiles ▸ List.mem_singleton_self f
  have hr : r ∈ c.repositories := hrepositories ▸ List.mem_singleton_self r
  obtain ⟨-, hlisted⟩ := mem_repositories_iff_of_mem_files hc hq hf
  exact ⟨c, q, f, r, hc, hq, hfiles, hr, hid, hshown, (hlisted r hr hid).mpr hshown⟩

end Landscape.Query
