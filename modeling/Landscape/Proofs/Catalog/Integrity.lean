import Landscape.Proofs.Catalog

namespace Landscape.Catalog

/-!
# Catalogs that fit together

A record makes a catalog if and only if its projects make a graph, no id is given twice within a
kind, and each file refers to what is there. However the lists are edited afterwards, once the
positions are made anew a look-up finds the last entry of its id, and all files of a repository.
-/

/-! ## Look-ups in the current lists -/

/-- A look-up by id finds the last entry with this id, if there is one, and the files of a
repository are all those that name it, in order. -/
structure FindsLast (c : Catalog) : Prop where
  file? : ∀ i, c.file? i = (c.files.filter fun f => f.id = i).getLast?
  repository? : ∀ i, c.repository? i = (c.repositories.filter fun r => r.id = i).getLast?
  person? : ∀ i, c.person? i = (c.people.filter fun p => p.id = i).getLast?
  filesOf : ∀ i, c.filesOf i = c.files.filter fun f => f.repository = some i

theorem bind_get?_ofKeys_eq_getLast? {α κ : Type} [DecidableEq κ] [Key κ] (key : α → κ)
    (as : List α) (k : κ) :
    ((Positions.ofKeys (as.map key)).get? k).bind (fun n => as[n]?) =
      (as.filter fun a => key a = k).getLast? := by
  rw [bind_get?_ofKeys, ← List.head?_filter, List.filter_reverse, List.head?_reverse]

/-- Whatever the positions were before. -/
theorem findsLast_reindex (c : Catalog) : c.reindex.FindsLast where
  file? := bind_get?_ofKeys_eq_getLast? SourceFile.id c.files
  repository? := bind_get?_ofKeys_eq_getLast? Repository.id c.repositories
  person? := bind_get?_ofKeys_eq_getLast? Person.id c.people
  filesOf := filesOf_reindex c

/-! ## Edits -/

/-- What may be done to a catalog that has been put together. -/
inductive Edit where
  | files (change : List SourceFile → List SourceFile)
  | repositories (change : List Repository → List Repository)
  | people (change : List Person → List Person)
  | reindex

/-- An edit of a list leaves the positions as they are. -/
def edit (c : Catalog) : Edit → Catalog
  | .files change => { c with files := change c.files }
  | .repositories change => { c with repositories := change c.repositories }
  | .people change => { c with people := change c.people }
  | .reindex => c.reindex

def editAll (c : Catalog) (es : List Edit) : Catalog := es.foldl edit c

theorem editAll_concat (c : Catalog) (es : List Edit) (e : Edit) :
    c.editAll (es ++ [e]) = (c.editAll es).edit e := by
  rw [editAll, List.foldl_concat]
  rfl

/-! ## Catalogs from records -/

theorem findsLast_of_ofRecord {r : CatalogRecord} {c : Catalog} (h : ofRecord r = .ok c) :
    c.FindsLast := by
  rw [← (indexed_of_ofRecord h).reindex_eq]
  exact findsLast_reindex c

/-- A record makes a catalog if and only if its projects make a graph, the ids of its repositories,
of its people and of its files are distinct, and each file names a project of that graph and a
repository of the record, if any. The catalog holds the graph and the lists of the record, and its
look-ups are those in the lists. They are so again after any edits, once it has been reindexed. -/
theorem ofRecord_exact (r : CatalogRecord) :
    ((∃ c, ofRecord r = .ok c) ↔ ∃ g, Graph.ofRecords r.projects = .ok g ∧
      (r.repositories.map (·.id)).Nodup ∧ (r.people.map (·.id)).Nodup ∧
      (r.files.map (·.id)).Nodup ∧
      ∀ f ∈ r.files, (∀ i, f.project = some i → (g.get? i).isSome) ∧
        ∀ i, f.repository = some i → ∃ s ∈ r.repositories, s.id = i) ∧
    ∀ c, ofRecord r = .ok c →
      Graph.ofRecords r.projects = .ok c.graph ∧ c.files = r.files ∧
      c.repositories = r.repositories ∧ c.people = r.people ∧ c.FindsLast ∧
      ∀ es : List Edit, (c.editAll (es ++ [.reindex])).FindsLast := by
  have hresolves (g : Graph) (f : SourceFile) : Resolves g (r.repositories.map (·.id)) f ↔
      (∀ i, f.project = some i → (g.get? i).isSome) ∧
        ∀ i, f.repository = some i → ∃ s ∈ r.repositories, s.id = i := by
    simp only [resolves_iff, List.mem_map]
  simp only [← hresolves]
  constructor
  · constructor
    · rintro ⟨c, hc⟩
      obtain ⟨g, hg, hrepositories, hpeople, hfiles, hall, -⟩ := ofRecord_eq_ok_iff.mp hc
      exact ⟨g, hg, hrepositories, hpeople, hfiles, hall⟩
    · rintro ⟨g, hg, hrepositories, hpeople, hfiles, hall⟩
      exact ⟨_, ofRecord_eq_ok_iff.mpr ⟨g, hg, hrepositories, hpeople, hfiles, hall, rfl⟩⟩
  · intro c hc
    have hfinds : c.FindsLast := findsLast_of_ofRecord hc
    obtain ⟨g, hg, -, -, -, -, rfl⟩ := ofRecord_eq_ok_iff.mp hc
    refine ⟨hg, rfl, rfl, rfl, hfinds, ?_⟩
    intro es
    rw [editAll_concat]
    exact findsLast_reindex _

/-- A second file with the id of `a.rs`, put before it, is not found under the id, but is a file of
the repository. -/
theorem ofRecord_exact_of_one_commit :
    let es : List Edit := [.files (⟨⟨1⟩, "b.rs", none, some ⟨1⟩, false⟩ :: ·), .reindex]
    ∃ c, ofRecord (.ofOneCommit false false) = .ok c ∧
      ((c.editAll es).file? ⟨1⟩).map (·.path) = some "a.rs" ∧
      ((c.editAll es).filesOf ⟨1⟩).map (·.path) = ["b.rs", "a.rs"] := by
  intro es
  obtain ⟨hiff, hall⟩ := ofRecord_exact (.ofOneCommit false false)
  obtain ⟨c, hc⟩ := hiff.mpr ⟨_, by cbv, by decide, by decide, by decide, by decide⟩
  obtain ⟨-, hfiles, -, -, -, hedits⟩ := hall c hc
  have hfinds : (c.editAll es).FindsLast :=
    hedits [.files (⟨⟨1⟩, "b.rs", none, some ⟨1⟩, false⟩ :: ·)]
  have hcurrent : (c.editAll es).files = ⟨⟨1⟩, "b.rs", none, some ⟨1⟩, false⟩ :: c.files := rfl
  refine ⟨c, hc, ?_, ?_⟩
  · rw [hfinds.file?, hcurrent, hfiles]
    decide
  · rw [hfinds.filesOf, hcurrent, hfiles]
    decide

end Landscape.Catalog
