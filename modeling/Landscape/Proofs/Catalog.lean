import Landscape.Catalog.Basic
import Landscape.Proofs.Graph
import Mathlib

namespace Landscape

/-!
# Look-ups in a catalog

The positions of a catalog stand for its lists as they were when the positions were made. So a
catalog that has just been put together finds by id what its lists hold.
-/

/-- Of two entries with the same key the later is found. -/
theorem Map.get?_ofList {κ α : Type} [Key κ] [DecidableEq κ] (es : List (κ × α)) (k : κ) :
    (Map.ofList es).get? k = (es.reverse.find? fun e => e.1 = k).map (·.2) := by
  induction es using List.reverseRecOn with
  | nil => rfl
  | append_singleton es e ih =>
      have hlast : Map.ofList (es ++ [e]) = (Map.ofList es).insert e.1 e.2 := by
        simp [Map.ofList, Map.insertAll]
      rw [hlast, Map.get?_insert, List.reverse_concat, ih]
      by_cases hk : k = e.1
      · simp [hk]
      · simp [hk, Ne.symm hk]

namespace Positions

variable {κ : Type} [DecidableEq κ] [Key κ]

/-- The positions under a key, in order. -/
theorem getD_get?_grouped (ks : List (Option κ)) (k : κ) :
    ((grouped ks).get? k).getD [] = (ks.zipIdx.filter fun e => e.1 = some k).map (·.2) := by
  unfold grouped
  generalize ks.zipIdx = es
  induction es using List.reverseRecOn with
  | nil => rfl
  | append_singleton es e ih =>
      obtain ⟨o, n⟩ := e
      rw [List.foldl_concat, List.filter_append, List.map_append, ← ih]
      cases o with
      | none => simp
      | some j =>
          simp only [Map.get?_insert]
          by_cases hk : k = j
          · simp [hk]
          · simp [hk, Ne.symm hk]

end Positions

namespace Catalog

/-! ## Look-ups after positions were made -/

section

variable {α κ : Type} [DecidableEq κ] [Key κ]

theorem bind_get?_ofKeys (key : α → κ) (as : List α) (k : κ) :
    ((Positions.ofKeys (as.map key)).get? k).bind (fun n => as[n]?) =
      as.reverse.find? fun a => key a = k := by
  have hnumbers : (as.map key).zipIdx = as.zipIdx.map (Prod.map key id) := List.zipIdx_map
  have hmembers : as.reverse = as.zipIdx.reverse.map Prod.fst := by
    rw [List.map_reverse, List.zipIdx_map_fst]
  rw [Positions.ofKeys, Map.get?_ofList, hnumbers, ← List.map_reverse, List.find?_map,
    Option.map_map, Option.bind_map, hmembers, List.find?_map, Option.map_eq_bind]
  refine Option.bind_congr fun e he => ?_
  have hmem : e ∈ as.zipIdx := List.mem_reverse.mp (List.mem_of_find?_eq_some he)
  exact List.mem_zipIdx_iff_getElem?.mp hmem

theorem filterMap_get?_grouped (key : α → Option κ) (as : List α) (k : κ) :
    (((Positions.grouped (as.map key)).get? k).getD []).filterMap (fun n => as[n]?) =
      as.filter fun a => key a = some k := by
  have hnumbers : (as.map key).zipIdx = as.zipIdx.map (Prod.map key id) := List.zipIdx_map
  have hmembers : as = as.zipIdx.map Prod.fst := (List.zipIdx_map_fst 0 as).symm
  rw [Positions.getD_get?_grouped, hnumbers, List.filter_map, List.map_map, List.filterMap_map]
  conv_rhs => rw [hmembers, List.filter_map, ← List.filterMap_eq_map]
  refine List.filterMap_congr fun e he => ?_
  exact List.mem_zipIdx_iff_getElem?.mp (List.mem_filter.mp he).1

end

variable {c : Catalog}

/-- Of two files with the same id the later is found. -/
theorem file?_reindex (c : Catalog) (i : FileId) :
    c.reindex.file? i = c.files.reverse.find? fun f => f.id = i :=
  bind_get?_ofKeys SourceFile.id c.files i

theorem filesOf_reindex (c : Catalog) (i : RepositoryId) :
    c.reindex.filesOf i = c.files.filter fun f => f.repository = some i :=
  filterMap_get?_grouped SourceFile.repository c.files i

/-! ## Catalogs from records -/

theorem ensureUnique_eq_ok_iff {k : Kind} {seen is : List (Id k)} :
    ensureUnique seen is = .ok () ↔ is.Nodup ∧ ∀ i ∈ is, i ∉ seen := by
  induction is generalizing seen with
  | nil => simp [ensureUnique]
  | cons i is ih =>
      unfold ensureUnique
      by_cases hi : i ∈ seen
      · simp [hi]
      · rw [if_neg hi, ih, List.nodup_cons, List.forall_mem_cons]
        simp only [List.mem_cons, not_or, hi, not_false_eq_true, true_and]
        constructor
        · rintro ⟨hnodup, hnew⟩
          exact ⟨⟨fun hmem => (hnew i hmem).1 rfl, hnodup⟩, fun j hj => (hnew j hj).2⟩
        · rintro ⟨⟨hfirst, hnodup⟩, hnew⟩
          exact ⟨hnodup, fun j hj => ⟨fun heq => hfirst (heq ▸ hj), hnew j hj⟩⟩

/-- The project and the repository that the file names, if any, are there. -/
@[mk_iff]
structure Resolves (g : Graph) (repositories : List RepositoryId) (f : SourceFile) : Prop where
  project : ∀ i, f.project = some i → (g.get? i).isSome
  repository : ∀ i, f.repository = some i → i ∈ repositories

theorem checkFile_eq_ok_iff {g : Graph} {repositories : List RepositoryId} {f : SourceFile} :
    checkFile g repositories f = .ok () ↔ Resolves g repositories f := by
  have hpure : (pure () : Except IntegrityError PUnit) = .ok () := rfl
  rw [resolves_iff]
  unfold checkFile
  cases f.project with
  | none => cases f.repository <;> simp [hpure]
  | some i =>
      cases hi : g.get? i with
      | none => simp [hi, bind, Except.bind, throw, throwThe, MonadExceptOf.throw]
      | some p => cases f.repository <;> simp [hi, hpure]

/-- What makes a catalog, and which one. -/
theorem ofRecord_eq_ok_iff {r : CatalogRecord} : ofRecord r = .ok c ↔
    ∃ g, Graph.ofRecords r.projects = .ok g ∧ (r.repositories.map (·.id)).Nodup ∧
      (r.people.map (·.id)).Nodup ∧ (r.files.map (·.id)).Nodup ∧
      (∀ f ∈ r.files, Resolves g (r.repositories.map (·.id)) f) ∧
      c = reindex ⟨g, r.files, r.repositories, r.people, .build [] [] []⟩ := by
  have hunique {k : Kind} (is : List (Id k)) : ensureUnique [] is = .ok () ↔ is.Nodup := by
    simp [ensureUnique_eq_ok_iff]
  simp only [← hunique, ← checkFile_eq_ok_iff, ← forM_eq_ok_iff]
  constructor
  · intro h
    obtain ⟨g, hg, h⟩ := exists_of_bind_eq_ok h
    obtain ⟨_, hrepositories, h⟩ := exists_of_bind_eq_ok h
    obtain ⟨_, hpeople, h⟩ := exists_of_bind_eq_ok h
    obtain ⟨_, hfiles, h⟩ := exists_of_bind_eq_ok h
    obtain ⟨_, hresolve, h⟩ := exists_of_bind_eq_ok h
    cases h
    exact ⟨g, hg, hrepositories, hpeople, hfiles, hresolve, rfl⟩
  · rintro ⟨g, hg, hrepositories, hpeople, hfiles, hresolve, rfl⟩
    unfold ofRecord
    rw [bind_eq_of_eq_ok hg, bind_eq_of_eq_ok hrepositories, bind_eq_of_eq_ok hpeople,
      bind_eq_of_eq_ok hfiles, List.forM_eq_forM, bind_eq_of_eq_ok hresolve]
    rfl

/-- The positions are those of the lists, and within each list ids are unique. -/
structure Indexed (c : Catalog) : Prop where
  reindex_eq : c.reindex = c
  nodup_files : (c.files.map (·.id)).Nodup
  nodup_repositories : (c.repositories.map (·.id)).Nodup
  nodup_people : (c.people.map (·.id)).Nodup

theorem indexed_of_ofRecord {r : CatalogRecord} (h : ofRecord r = .ok c) : c.Indexed := by
  obtain ⟨g, -, hrepositories, hpeople, hfiles, -, rfl⟩ := ofRecord_eq_ok_iff.mp h
  exact ⟨rfl, hfiles, hrepositories, hpeople⟩

namespace Indexed

theorem filesOf_eq (hc : c.Indexed) (i : RepositoryId) :
    c.filesOf i = c.files.filter fun f => f.repository = some i := by
  rw [← filesOf_reindex, hc.reindex_eq]

theorem file?_eq_some_iff (hc : c.Indexed) {i : FileId} {f : SourceFile} :
    c.file? i = some f ↔ f ∈ c.files ∧ f.id = i := by
  rw [← hc.reindex_eq, file?_reindex, hc.reindex_eq]
  constructor
  · intro h
    have hid : f.id = i := by simpa using List.find?_some h
    exact ⟨List.mem_reverse.mp (List.mem_of_find?_eq_some h), hid⟩
  · rintro ⟨hf, rfl⟩
    cases hg : c.files.reverse.find? fun g => g.id = f.id with
    | none => simpa using List.find?_eq_none.mp hg f (List.mem_reverse.mpr hf)
    | some g =>
        have hid : g.id = f.id := by simpa using List.find?_some hg
        have hmem : g ∈ c.files := List.mem_reverse.mp (List.mem_of_find?_eq_some hg)
        rw [List.inj_on_of_nodup_map hc.nodup_files hmem hf hid]

end Indexed

end Catalog

/-! ## A small catalog -/

/-- The person `ann` wrote the one commit of the repository `main`. It touches the one file of the
project `a`; the file `notes.md` is nobody's. -/
def CatalogRecord.ofOneCommit (fileIgnored commitIgnored : Bool) : CatalogRecord where
  projects := [.code "a" []]
  files := [⟨⟨1⟩, "a.rs", some ⟨1⟩, some ⟨1⟩, fileIgnored⟩, ⟨⟨2⟩, "notes.md", none, none, false⟩]
  repositories := [⟨⟨1⟩, "main", none, false,
    [⟨⟨1⟩, "c1", "add a", [], [⟨1⟩], none, [⟨1⟩], commitIgnored⟩]⟩]
  people := [⟨⟨1⟩, "ann", [], [], false⟩]

end Landscape
