import Landscape.Catalog.Build
import Landscape.Proofs.Runs
import Mathlib.Data.List.Sort

namespace Landscape

/-!
# Look-ups in maps, sets and graphs

What a listing shows is what a look-up finds. Every graph that is built by its own operations
files each project under the id that the project bears.
-/

/-- Lists that ascend by the same key are equal if they have the same members. -/
theorem Key.eq_of_mem_iff {κ α : Type} [Key κ] {key : α → κ} {as bs : List α}
    (has : as.Pairwise fun a b => before (key a) (key b) = true)
    (hbs : bs.Pairwise fun a b => before (key a) (key b) = true) (h : ∀ a, a ∈ as ↔ a ∈ bs) :
    as = bs := by
  have hasymm : Std.Asymm fun a b => before (key a) (key b) = true := by
    refine ⟨fun a b hab hba => ?_⟩
    rw [before_asymm hab] at hba
    cases hba
  exact has.eq_of_mem_iff hbs h

namespace Map

variable {κ α : Type} [Key κ] [DecidableEq κ]

/-- Keys are unique, so an entry is found under its key. -/
theorem get?_eq_some_iff {m : Map κ α} {k : κ} {v : α} :
    m.get? k = some v ↔ (k, v) ∈ m.entries := by
  obtain ⟨es, hes⟩ := m
  simp only [get?]
  constructor
  · intro h
    obtain ⟨e, he, hv⟩ := Option.map_eq_some_iff.mp h
    have hk : e.1 = k := by simpa using List.find?_some he
    have hmem := List.mem_of_find?_eq_some he
    rw [← hk, ← hv]
    exact hmem
  · intro h
    induction es with
    | nil => cases h
    | cons e es ih =>
        have hpair := List.pairwise_cons.mp hes
        rcases List.mem_cons.mp h with rfl | h
        · simp
        · have hne : e.1 ≠ k := Key.ne_of_before (hpair.1 _ h)
          rw [List.find?_cons_of_neg (by simpa using hne)]
          exact ih hpair.2 h

theorem mem_values_iff {m : Map κ α} {v : α} : v ∈ m.values ↔ ∃ k, m.get? k = some v := by
  simp [values, get?_eq_some_iff]

/-- What tells the values of different keys apart has no duplicates. -/
theorem nodup_map_values {β : Type} {m : Map κ α} {f : α → β}
    (hf : ∀ k v k' v', m.get? k = some v → m.get? k' = some v' → f v = f v' → k = k') :
    (m.values.map f).Nodup := by
  rw [values, List.map_map]
  refine List.pairwise_map.mpr (m.ascending.imp_of_mem fun {a b} ha hb hab => ?_)
  intro heq
  have hk : a.1 = b.1 := hf _ _ _ _ (get?_eq_some_iff.mpr ha) (get?_eq_some_iff.mpr hb) heq
  exact Key.ne_of_before hab hk

theorem get?_modify (m : Map κ α) (k k' : κ) (f : α → α) :
    (m.modify k f).get? k' = if k' = k then (m.get? k).map f else m.get? k' := by
  unfold modify
  cases hk : m.get? k with
  | none =>
      by_cases h : k' = k
      · rw [if_pos h, h]
        exact hk
      · rw [if_neg h]
  | some v => exact get?_insert m k k' (f v)

theorem ext_get? {m n : Map κ α} (h : ∀ k, m.get? k = n.get? k) : m = n := by
  refine ext (Key.eq_of_mem_iff m.ascending n.ascending fun e => ?_)
  rw [← get?_eq_some_iff, ← get?_eq_some_iff, h]

theorem insert_insert (m : Map κ α) (k : κ) (v w : α) :
    (m.insert k v).insert k w = m.insert k w := by
  apply ext_get?
  intro k'
  rw [get?_insert, get?_insert, get?_insert]
  split
  · rfl
  · rfl

omit [DecidableEq κ] in
theorem values_mapValues {β : Type} (m : Map κ α) (f : α → β) :
    (m.mapValues f).values = m.values.map f := by
  simp [mapValues, values]

/-- Of two maps in one, the entries that were inserted last are found. -/
theorem get?_insertAll (m n : Map κ α) (k : κ) :
    (m.insertAll n.entries).get? k = (n.get? k).or (m.get? k) := by
  obtain ⟨es, hes⟩ := n
  induction es generalizing m with
  | nil => rfl
  | cons e es ih =>
      have hpair := List.pairwise_cons.mp hes
      have hstep := ih (m.insert e.1 e.2) hpair.2
      rw [insertAll, List.foldl_cons]
      refine hstep.trans ?_
      rw [get?_insert]
      by_cases hk : e.1 = k
      · have hnone : (Map.mk es hpair.2).get? k = none := by
          rw [Option.eq_none_iff_forall_ne_some]
          intro v hv
          exact Key.ne_of_before (hpair.1 _ (get?_eq_some_iff.mp hv)) hk
        rw [hnone, if_pos hk.symm]
        simp [get?, hk]
      · rw [if_neg (Ne.symm hk)]
        simp [get?, hk]

theorem ofList_entries (m : Map κ α) : ofList m.entries = m :=
  ext_get? fun k => (get?_insertAll ∅ m k).trans (by simp)

end Map

namespace OrderedSet

variable {κ : Type} [Key κ] [DecidableEq κ]

theorem mem_toList_iff {s : OrderedSet κ} {k : κ} : k ∈ s.toList ↔ s.contains k = true := by
  simp [toList, Map.keys, contains, Map.contains, Option.isSome_iff_exists, Map.get?_eq_some_iff]

theorem ext_contains {s t : OrderedSet κ}
    (h : ∀ k, s.contains k = true ↔ t.contains k = true) : s = t := by
  obtain ⟨m⟩ := s
  obtain ⟨n⟩ := t
  congr 1
  have hget (m : Map κ Unit) (k : κ) : m.contains k = true ↔ m.get? k = some () := by
    unfold Map.contains
    cases m.get? k <;> simp
  refine Map.ext_get? fun k => Option.ext fun u => ?_
  exact (hget m k).symm.trans ((h k).trans (hget n k))

theorem ofList_toList (s : OrderedSet κ) : ofList s.toList = s :=
  ext_contains fun k => by rw [contains_ofList, mem_toList_iff]

end OrderedSet

namespace Graph

/-! ## Projects under their ids -/

/-- Every project is filed under the id that it bears. -/
def FiledById (g : Graph) : Prop := ∀ i p, g.get? i = some p → p.id = i

theorem filedById_empty : empty.FiledById := by
  intro i p h
  cases h

/-- Filing a project under its own id changes nothing about the others. -/
theorem FiledById.file {g : Graph} (hg : g.FiledById) (p : Project) : (g.file p).FiledById := by
  intro i q h
  simp only [Graph.file, get?, Map.get?_insert] at h
  split at h
  · rename_i hi
    cases h
    exact hi.symm
  · exact hg i q h

/-! ## Dependencies between ids -/

/-- A project with the property is filed under the id. -/
def Has (g : Graph) (i : ProjectId) (P : Project → Prop) : Prop := ∃ p ∈ g.get? i, P p

instance {g : Graph} {i : ProjectId} {P : Project → Prop} [DecidablePred P] :
    Decidable (g.Has i P) := inferInstanceAs (Decidable (∃ p ∈ g.get? i, P p))

/-- The project filed under `s` has a dependency on the one filed under `t`. -/
def DependsOn (g : Graph) (s t : ProjectId) : Prop :=
  g.Has s fun p => (g.get? t).isSome ∧ ∃ d ∈ p.dependencies.values, d.target = t

instance {g : Graph} {s t : ProjectId} : Decidable (g.DependsOn s t) :=
  inferInstanceAs (Decidable (g.Has s _))

theorem mem_list_iff {g : Graph} {mode : ListMode} {p : Project} :
    p ∈ g.list mode ↔ (∃ i, g.get? i = some p) ∧ mode.admits p = true := by
  simp [list, Map.mem_values_iff, get?]

/-- The links of a project: the resolved dependencies with an admitted target. -/
theorem link_mem_dependencies_iff {g : Graph} {p : Project} {mode : ListMode} {k : Link} :
    k ∈ g.dependencies p mode ↔ k.source = p ∧ k.dependency ∈ p.dependencies.values ∧
      g.get? k.dependency.target = some k.target ∧ mode.admits k.target = true := by
  obtain ⟨source, target, dependency⟩ := k
  simp only [dependencies, List.mem_mergeSort, List.mem_filterMap]
  constructor
  · rintro ⟨d, hd, hk⟩
    split at hk
    · cases hk
    · rename_i t ht
      split at hk
      · rename_i hadmits
        cases hk
        exact ⟨rfl, hd, ht, hadmits⟩
      · cases hk
  · rintro ⟨rfl, hd, ht, hadmits⟩
    exact ⟨dependency, hd, by simp [ht, hadmits]⟩

/-- The targets that a listing of dependencies resolves. -/
theorem mem_dependencies_iff {g : Graph} {p : Project} {t : Project} :
    (∃ l ∈ g.dependencies p .all, l.target = t) ↔
      ∃ d ∈ p.dependencies.values, g.get? d.target = some t := by
  simp only [link_mem_dependencies_iff]
  constructor
  · rintro ⟨k, ⟨-, hd, ht, -⟩, rfl⟩
    exact ⟨k.dependency, hd, ht⟩
  · rintro ⟨d, hd, ht⟩
    exact ⟨⟨p, t, d⟩, ⟨rfl, hd, ht, rfl⟩, rfl⟩

end Graph

/-- The record of a code project without an id that depends on the named ones. -/
def ProjectRecord.code (name : String) (targets : List String) : ProjectRecord where
  id := none
  name := name
  groups := []
  type := .code
  ignored := false
  rootDir := none
  repository := none
  data := ∅
  dependencies := targets.map fun t => ⟨t, ∅, ∅⟩

end Landscape
