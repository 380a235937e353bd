import Landscape.Proofs.Graph.Change
import Landscape.Proofs.Selection.Mode

namespace Landscape

/-!
# The order of dependencies

A listing of dependencies compares the targets by their names without leading colons. Names that
differ in nothing else tie, and these stay as they are stored, which is by name: each dependency is
filed under the name of its target.
-/

/-! ## Sorting and ties -/

section

variable {α : Type} {le : α → α → Bool} {R : α → α → Prop}

/-- Members that tie come out of a sort as they went in. -/
theorem pairwise_mergeSort_of_pairwise
    (htrans : ∀ a b c, le a b = true → le b c = true → le a c = true)
    (htotal : ∀ a b, (le a b || le b a) = true) {l : List α} (hl : l.Pairwise R) :
    (l.mergeSort le).Pairwise fun a b => le a b = true ∧ (le b a = true → R a b) := by
  induction l with
  | nil => simp
  | cons a l ih =>
      obtain ⟨ha, hl⟩ := List.pairwise_cons.mp hl
      obtain ⟨before, after, hsort, hrest, hbefore⟩ := List.mergeSort_cons htrans htotal a l
      have hsorted := List.pairwise_mergeSort htrans htotal (a :: l)
      rw [hsort, List.pairwise_append, List.pairwise_cons] at hsorted
      obtain ⟨-, ⟨hlater, -⟩, hearlier⟩ := hsorted
      have hmem : ∀ b ∈ after, b ∈ l := by
        intro b hb
        have hb' : b ∈ l.mergeSort le := hrest ▸ List.mem_append_right before hb
        exact List.mem_mergeSort.mp hb'
      have ih := ih hl
      rw [hrest, List.pairwise_append] at ih
      obtain ⟨ihbefore, ihafter, ihcross⟩ := ih
      rw [hsort, List.pairwise_append, List.pairwise_cons]
      refine ⟨ihbefore, ⟨fun b hb => ⟨hlater b hb, fun _ => ha b (hmem b hb)⟩, ihafter⟩, ?_⟩
      intro b hb c hc
      rcases List.mem_cons.mp hc with rfl | hc
      · -- what comes before `a` does not tie with it
        have hnot : (!le c b) = true := hbefore b hb
        exact ⟨hearlier b hb c List.mem_cons_self, fun htie => by simp [htie] at hnot⟩
      · exact ihcross b hb c hc

end

/-! ## The order of links -/

theorem Text.before_asymm {as bs : List Char} (h : before as bs = true) : before bs as = false := by
  have hkeys : Key.before (String.ofList bs) (String.ofList as) = false :=
    Key.before_asymm (by simpa [Key.before] using h)
  simpa [Key.before] using hkeys

theorem Text.not_before_trans {as bs cs : List Char} (h₁ : before bs as = false)
    (h₂ : before cs bs = false) : before cs as = false := by
  have hkeys : Key.before (String.ofList cs) (String.ofList as) = false := by
    refine Key.not_before_trans (b := String.ofList bs) ?_ ?_
    · simpa [Key.before] using h₁
    · simpa [Key.before] using h₂
  simpa [Key.before] using hkeys

namespace Link

variable {k l m : Link}

/-- Owned targets come first, then targets go by their names without leading colons, and last by
their names. -/
def Precedes (k l : Link) : Prop :=
  (k.target.isExternal = false ∧ l.target.isExternal = true) ∨
    k.target.isExternal = l.target.isExternal ∧
      (Text.before k.target.bareName l.target.bareName = true ∨
        k.target.bareName = l.target.bareName ∧
          Key.before k.target.name l.target.name = true)

theorem sorted_trans (k l m : Link) (hkl : (!before l k) = true) (hlm : (!before m l) = true) :
    (!before m k) = true := by
  rw [Bool.not_eq_true'] at hkl hlm ⊢
  unfold before at hkl hlm ⊢
  cases hk : k.target.isExternal <;> cases hl : l.target.isExternal <;>
    cases hm : m.target.isExternal <;> simp only [hk, hl, hm, reduceIte, reduceCtorEq] at hkl hlm ⊢
  · exact Text.not_before_trans hkl hlm
  · exact Text.not_before_trans hkl hlm

theorem sorted_total (k l : Link) : (!before l k || !before k l) = true := by
  unfold before
  by_cases h : l.target.isExternal = k.target.isExternal
  · rw [if_pos h, if_pos h.symm]
    cases hb : Text.before l.target.bareName k.target.bareName with
    | false => rfl
    | true => simp [Text.before_asymm hb]
  · rw [if_neg h, if_neg (Ne.symm h)]
    cases hk : k.target.isExternal <;> cases hl : l.target.isExternal <;> simp_all

theorem precedes_of_sorted (hsorted : (!before l k) = true)
    (hties : (!before k l) = true → Key.before k.target.name l.target.name = true) :
    k.Precedes l := by
  rw [Bool.not_eq_true'] at hsorted hties
  unfold before at hsorted hties
  by_cases h : k.target.isExternal = l.target.isExternal
  · rw [if_pos h.symm] at hsorted
    rw [if_pos h] at hties
    refine .inr ⟨h, ?_⟩
    cases hb : Text.before k.target.bareName l.target.bareName with
    | true => exact .inl rfl
    | false => exact .inr ⟨Text.eq_of_not_before hb hsorted, hties hb⟩
  · rw [if_neg (Ne.symm h)] at hsorted
    rw [hsorted] at h
    exact .inl ⟨hsorted, by simpa using Ne.symm h⟩

end Link

namespace Graph

variable {g : Graph} {i : ProjectId} {p : Project} {mode : ListMode} {cs : List Change}

/-! ## The dependencies of a project -/

/-- A mode leaves out links, and nothing else. -/
theorem dependencies_eq_filter (g : Graph) (p : Project) (mode : ListMode) :
    g.dependencies p mode = (g.dependencies p .all).filter fun k => mode.admits k.target := by
  have hall (ks : List Link) : ks.filter (fun k => ListMode.all.admits k.target) = ks :=
    List.filter_eq_self.mpr fun _ _ => rfl
  rw [dependencies_eq_mergeSort, dependencies_eq_mergeSort g p .all, hall]
  exact mergeSort_filter Link.sorted_trans Link.sorted_total _ _

theorem Consistent.exists_target (hg : g.Consistent) (hp : g.get? i = some p)
    {e : String × Dependency} (he : e ∈ p.dependencies.entries) :
    ∃ t, g.get? e.2.target = some t ∧ t.name = e.1 :=
  (hg.links i p hp e.1 e.2 (Map.get?_eq_some_iff.mpr he)).2

/-- What a project stores under the name of an admitted target, and nothing else, is resolved. -/
theorem Consistent.map_resolve (hg : g.Consistent) (hp : g.get? i = some p) (mode : ListMode) :
    ((p.dependencies.values.filterMap (g.resolve p)).filter fun k => mode.admits k.target).map
        (fun k => (k.target.name, k.dependency)) =
      p.dependencies.entries.filter fun e => (g.get? e.2.target).any mode.admits := by
  rw [Map.values, List.filterMap_map, List.filter_filterMap, List.map_filterMap,
    ← List.filterMap_eq_filter]
  refine List.filterMap_congr fun e he => ?_
  obtain ⟨t, ht, hname⟩ := hg.exists_target hp he
  simp [resolve, Option.guard, ht, hname, Option.filter]

theorem Consistent.map_dependencies_perm (hg : g.Consistent) (hp : g.get? i = some p)
    (mode : ListMode) :
    ((g.dependencies p mode).map fun k => (k.target.name, k.dependency)).Perm
      (p.dependencies.entries.filter fun e => (g.get? e.2.target).any mode.admits) := by
  rw [← hg.map_resolve hp mode]
  exact (dependencies_perm g p mode).map _

/-- Before they are sorted, the links ascend by the names of their targets. -/
theorem Consistent.pairwise_resolve (hg : g.Consistent) (hp : g.get? i = some p)
    (mode : ListMode) :
    ((p.dependencies.values.filterMap (g.resolve p)).filter fun k =>
        mode.admits k.target).Pairwise fun k l =>
      Key.before k.target.name l.target.name = true := by
  have hnames : (p.dependencies.entries.filter fun e =>
      (g.get? e.2.target).any mode.admits).Pairwise fun d e => Key.before d.1 e.1 = true :=
    p.dependencies.ascending.filter _
  rw [← hg.map_resolve hp mode] at hnames
  exact List.pairwise_map.mp hnames

theorem Consistent.pairwise_dependencies (hg : g.Consistent) (hp : g.get? i = some p)
    (mode : ListMode) : (g.dependencies p mode).Pairwise Link.Precedes := by
  rw [dependencies_eq_mergeSort]
  refine (pairwise_mergeSort_of_pairwise Link.sorted_trans Link.sorted_total
    (hg.pairwise_resolve hp mode)).imp fun {k l} h => ?_
  exact Link.precedes_of_sorted h.1 h.2

/-! ## All dependencies -/

/-- Every dependency of the graph, with the id of its owner and the name that it is filed under. -/
def filedDependencies (g : Graph) : List (ProjectId × String × Dependency) :=
  g.projects.entries.flatMap fun e => e.2.dependencies.entries.map fun d => (e.1, d)

theorem nodup_filedDependencies (g : Graph) : g.filedDependencies.Nodup := by
  have hplaces : g.filedDependencies.map (fun e => (e.1, e.2.1)) = g.places := by
    simp [filedDependencies, places, Map.keys, List.map_flatMap, Function.comp_def]
  exact .of_map _ (hplaces ▸ g.nodup_places)

theorem Consistent.map_allDependencies_perm (hg : g.Consistent) :
    ((g.allDependencies .all).map fun k => (k.source.id, k.target.name, k.dependency)).Perm
      g.filedDependencies := by
  have hlist : (g.list .all).Perm (g.projects.entries.map (·.2)) := by
    have hadmits : g.projects.values.filter ListMode.all.admits = g.projects.values :=
      List.filter_eq_self.mpr fun _ _ => rfl
    exact (List.mergeSort_perm _ _).trans (.of_eq hadmits)
  have hperm := (hlist.flatMap_right fun p => g.dependencies p .all).map fun k =>
    (k.source.id, k.target.name, k.dependency)
  refine hperm.trans ?_
  rw [List.map_flatMap, List.flatMap_map]
  refine List.Perm.flatMap_left _ fun e he => ?_
  have hp : g.get? e.1 = some e.2 := Map.get?_eq_some_iff.mpr he
  have hall : (e.2.dependencies.entries.filter fun d =>
      (g.get? d.2.target).any ListMode.all.admits) = e.2.dependencies.entries := by
    refine List.filter_eq_self.mpr fun d hd => ?_
    obtain ⟨t, ht, -⟩ := hg.exists_target hp hd
    simp [ht, ListMode.admits]
  have hentries := (hg.map_dependencies_perm hp .all).map fun d => (e.1, d)
  rw [hall, List.map_map] at hentries
  refine .trans (.of_eq (List.map_congr_left fun k hk => ?_)) hentries
  obtain ⟨hsource, -⟩ := link_mem_dependencies_iff.mp hk
  simp [hsource, hg.filedById e.1 e.2 hp]

/-- The listing goes by the sources, and for each source by the targets. -/
theorem Consistent.pairwise_allDependencies (hg : g.Consistent) (mode : ListMode) :
    (g.allDependencies mode).Pairwise fun k l =>
      Key.before k.source.name l.source.name = true ∨ k.source = l.source ∧ k.Precedes l := by
  unfold allDependencies
  rw [List.pairwise_flatMap]
  constructor
  · intro p hp
    obtain ⟨⟨i, hi⟩, -⟩ := mem_list_iff.mp hp
    refine (hg.pairwise_dependencies hi mode).imp_of_mem fun {k l} hk hl h => .inr ⟨?_, h⟩
    rw [(link_mem_dependencies_iff.mp hk).1, (link_mem_dependencies_iff.mp hl).1]
  · refine (pairwise_before_list hg.uniqueNames mode).imp fun {p q} h k hk l hl => .inl ?_
    rw [(link_mem_dependencies_iff.mp hk).1, (link_mem_dependencies_iff.mp hl).1]
    exact h

theorem flatMap_dependencies_owned (g : Graph) (ps : List Project) :
    (ps.filter fun p => !p.isExternal).flatMap (fun p => g.dependencies p .owned) =
      (ps.flatMap fun p => g.dependencies p .all).filter fun k =>
        !k.source.isExternal && !k.target.isExternal := by
  induction ps with
  | nil => rfl
  | cons p ps ih =>
      have hsource : ∀ k ∈ g.dependencies p .all, k.source = p :=
        fun k hk => (link_mem_dependencies_iff.mp hk).1
      rw [List.flatMap_cons, List.filter_append, ← ih]
      cases hp : p.isExternal with
      | true =>
          have hnone : (g.dependencies p .all).filter (fun k =>
              !k.source.isExternal && !k.target.isExternal) = [] := by
            refine List.filter_eq_nil_iff.mpr fun k hk => ?_
            simp [hsource k hk, hp]
          rw [hnone, List.nil_append, List.filter_cons_of_neg (by simp [hp])]
      | false =>
          have hsome : (g.dependencies p .all).filter (fun k =>
              !k.source.isExternal && !k.target.isExternal) = g.dependencies p .owned := by
            rw [dependencies_eq_filter g p .owned]
            refine List.filter_congr fun k hk => ?_
            simp [hsource k hk, hp, ListMode.admits]
          rw [hsome, List.filter_cons_of_pos (by simp [hp]), List.flatMap_cons]

theorem allDependencies_owned (g : Graph) :
    g.allDependencies .owned = (g.allDependencies .all).filter fun k =>
      !k.source.isExternal && !k.target.isExternal := by
  unfold allDependencies
  rw [list_owned]
  exact g.flatMap_dependencies_owned _

/-! ## Graphs that were reached -/

/-- The graph is empty or was read, and then calls have changed it that keep the ids and the names
of projects and the ends of dependencies, and insert projects without dependencies. -/
inductive Reached : Graph → Prop where
  | empty : Reached empty
  | read {text : String} {c : Catalog} (h : Catalog.ofText text = .ok c) : Reached c.graph
  | change {g : Graph} {c : Change} (h : Reached g) (hc : c.Keeping) : Reached (g.apply c)

theorem Reached.consistent (h : g.Reached) : g.Consistent := by
  induction h with
  | empty => exact consistent_empty
  | read h => exact consistent_of_ofText h
  | change _ hc ih => exact (ih.writes_apply hc).consistent ih

theorem Reached.run (h : g.Reached) (hcs : ∀ c ∈ cs, c.Keeping) : (g.run cs).Reached := by
  induction cs generalizing g with
  | nil => exact h
  | cons c cs ih =>
      obtain ⟨hc, hcs⟩ := List.forall_mem_cons.mp hcs
      exact ih (h.change hc) hcs

/-- The listing of a project's dependencies has each dependency that is stored under the name of an
admitted target, once, and nothing else, in strictly ascending order. The listing of all
dependencies has each one that is stored in the graph, once, project by project; the listing among
the owned projects is what stays of it without the dependencies that a library ends. -/
theorem Reached.listings_in_order (h : g.Reached) :
    (∀ i p, g.get? i = some p → ∀ mode,
      ((g.dependencies p mode).map fun k => (k.target.name, k.dependency)).Perm
          (p.dependencies.entries.filter fun e => (g.get? e.2.target).any mode.admits) ∧
        (∀ k ∈ g.dependencies p mode,
          k.source = p ∧ g.get? k.dependency.target = some k.target) ∧
        (g.dependencies p mode).Pairwise Link.Precedes) ∧
    ((g.allDependencies .all).map fun k => (k.source.id, k.target.name, k.dependency)).Perm
        g.filedDependencies ∧
      g.filedDependencies.Nodup ∧
    (∀ mode, (g.allDependencies mode).Pairwise fun k l =>
      Key.before k.source.name l.source.name = true ∨ k.source = l.source ∧ k.Precedes l) ∧
    g.allDependencies .owned = (g.allDependencies .all).filter fun k =>
      !k.source.isExternal && !k.target.isExternal := by
  have hg : g.Consistent := h.consistent
  refine ⟨fun i p hp mode => ⟨hg.map_dependencies_perm hp mode, fun k hk => ?_,
    hg.pairwise_dependencies hp mode⟩, hg.map_allDependencies_perm, g.nodup_filedDependencies,
    hg.pairwise_allDependencies, g.allDependencies_owned⟩
  obtain ⟨hsource, -, htarget, -⟩ := link_mem_dependencies_iff.mp hk
  exact ⟨hsource, htarget⟩

/-- The project `app` depends on the library `aim` and on two projects whose names differ in a
leading colon only. -/
theorem listings_in_order_of_colon :
    let cs : List Change := [.getOrCreate "app", .getOrCreate "core", .getOrCreate "aim",
      .getOrCreate ":core", .addDependency ⟨1⟩ ⟨2⟩ id, .addDependency ⟨1⟩ ⟨3⟩ id,
      .addDependency ⟨1⟩ ⟨4⟩ id, .addDependency ⟨3⟩ ⟨4⟩ id,
      .modify ⟨3⟩ fun p => { p with type := .library }]
    let g := empty.run cs
    g.Reached ∧
    (g.allDependencies .all).map (fun k => (k.source.name, k.target.name)) =
      [("aim", ":core"), ("app", ":core"), ("app", "core"), ("app", "aim")] ∧
    (g.allDependencies .all).Pairwise (fun k l =>
      Key.before k.source.name l.source.name = true ∨ k.source = l.source ∧ k.Precedes l) ∧
    g.allDependencies .owned = (g.allDependencies .all).filter fun k =>
      !k.source.isExternal && !k.target.isExternal := by
  intro cs g
  have hcs : ∀ c ∈ cs, c.Keeping := by
    simp [cs, Change.Keeping]
  have hg : g.Reached := Reached.empty.run hcs
  obtain ⟨-, -, -, hsorted, howned⟩ := hg.listings_in_order
  refine ⟨hg, ?_, hsorted .all, howned⟩
  cbv

end Graph

end Landscape
