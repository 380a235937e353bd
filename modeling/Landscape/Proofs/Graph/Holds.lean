import Landscape.Proofs.Graph.Consistent
import Landscape.Proofs.Graph.Roster

namespace Landscape

/-!
# Graphs that hold a roster

A graph holds a roster and the dependencies that records write. The operations that build graphs
succeed if and only if the roster stays valid, and extend what the graph holds.
-/

namespace DependencyRecord

/-- The dependency that the records write together. -/
def merge (source target : ProjectId) (ds : List DependencyRecord) : Dependency where
  source := source
  target := target
  versions := .ofList (ds.flatMap (·.versions.toList))
  data := .ofList (ds.flatMap (·.data.entries))

theorem merge_append_singleton (source target : ProjectId) (ds : List DependencyRecord)
    (d : DependencyRecord) :
    merge source target (ds ++ [d]) =
      (merge source target ds).extend d.versions.toList d.data.entries := by
  simp [merge, Dependency.extend, OrderedSet.ofList, OrderedSet.insertAll, Map.ofList,
    Map.insertAll]

/-- The dependency is what the records write together; without a record there is none. -/
def Write (ds : List DependencyRecord) : Option Dependency → Prop
  | none => ds = []
  | some e => ds ≠ [] ∧ e = merge e.source e.target ds

theorem Write.append_singleton {ds : List DependencyRecord} {o : Option Dependency}
    (h : Write ds o) (d : DependencyRecord) (source target : ProjectId) :
    Write (ds ++ [d])
      (some ((o.getD (.new source target)).extend d.versions.toList d.data.entries)) := by
  refine ⟨by simp, ?_⟩
  rw [merge_append_singleton]
  cases o with
  | none =>
      obtain rfl : ds = [] := h
      rfl
  | some e =>
      have he : merge e.source e.target ds = e := h.2.symm
      simp [he]

end DependencyRecord

namespace Graph

/-- What the records among `done` say of the dependency from one name to another. -/
def saidOf (done : List (String × DependencyRecord)) (source target : String) :
    List DependencyRecord :=
  (done.filter fun e => e.1 = source ∧ e.2.target = target).map (·.2)

theorem saidOf_append_singleton (done : List (String × DependencyRecord)) (source target : String)
    (e : String × DependencyRecord) :
    saidOf (done ++ [e]) source target =
      if e.1 = source ∧ e.2.target = target then saidOf done source target ++ [e.2]
      else saidOf done source target := by
  by_cases he : e.1 = source ∧ e.2.target = target <;> simp [saidOf, he]

/-- The projects of the graph are those of the roster, and their dependencies those that the
records of `done` write under the names of their sources. -/
structure Holds (g : Graph) (R : Roster) (done : List (String × DependencyRecord)) : Prop where
  consistent : g.Consistent
  nextId_eq : g.nextId = R.nextId
  mem_projects_iff : ∀ p, p ∈ R.projects ↔ ∃ q, g.get? p.id = some q ∧ q.bare = p
  source_mem_names : ∀ e ∈ done, e.1 ∈ R.names
  write : ∀ i q, g.get? i = some q → ∀ t,
    DependencyRecord.Write (saidOf done q.name t) (q.dependencies.get? t)

variable {g g' : Graph} {R R' : Roster} {done : List (String × DependencyRecord)} {p : Project}
  {i : ProjectId} {n : String}

theorem holds_empty : empty.Holds ⟨[], []⟩ [] where
  consistent := consistent_empty
  nextId_eq := rfl
  mem_projects_iff p := by
    constructor
    · intro h
      cases h
    · rintro ⟨q, hq, -⟩
      cases hq
  source_mem_names e he := by cases he
  write i q hq := by cases hq

theorem getOrCreate_eq_ok (hname : g.idOf? n = none) (h : g.getOrCreate n = .ok (g', i)) :
    g.nextId < Id.count ∧ i = .ofNat g.nextId ∧ g'.nextId = g.nextId + 1 ∧
      ∀ j, g'.get? j = if j = i then some (Project.new i n) else g.get? j := by
  obtain ⟨hold, -⟩ | ⟨-, hlt, rfl, rfl⟩ := getOrCreate_cases h
  · rw [hname] at hold
    cases hold
  · exact ⟨hlt, rfl, rfl, Consistent.get?_fileNew g _ _⟩

namespace Holds

theorem bare_mem_projects (h : g.Holds R done) (hp : g.get? i = some p) : p.bare ∈ R.projects := by
  refine (h.mem_projects_iff p.bare).mpr ⟨p, ?_, rfl⟩
  rw [p.bare_id, h.consistent.filedById i p hp]
  exact hp

theorem mem_names_iff (h : g.Holds R done) : n ∈ R.names ↔ ∃ i, g.Named i n := by
  rw [← R.map_name_projects, List.mem_map]
  constructor
  · rintro ⟨p, hp, rfl⟩
    obtain ⟨q, hq, rfl⟩ := (h.mem_projects_iff p).mp hp
    exact ⟨q.id, q, hq, rfl⟩
  · rintro ⟨i, q, hq, rfl⟩
    exact ⟨q.bare, h.bare_mem_projects hq, rfl⟩

theorem idOf?_eq_none_iff (h : g.Holds R done) : g.idOf? n = none ↔ n ∉ R.names := by
  rw [h.mem_names_iff, Option.eq_none_iff_forall_ne_some, not_exists]
  exact forall_congr' fun i => not_congr (h.consistent.idOf?_eq_some_iff n i)

theorem named?_eq_none_iff (h : g.Holds R done) : g.named? n = none ↔ n ∉ R.names := by
  rw [h.mem_names_iff, not_exists, Option.eq_none_iff_forall_ne_some]
  constructor
  · rintro hn i ⟨p, hp, rfl⟩
    have hid : p.id = i := h.consistent.filedById i p hp
    exact hn p (h.consistent.named?_eq_some_iff.mpr ⟨hid ▸ hp, rfl⟩)
  · intro hn p hp
    obtain ⟨hp, hname⟩ := h.consistent.named?_eq_some_iff.mp hp
    exact hn p.id ⟨p, hp, hname⟩

theorem get?_eq_none_iff (h : g.Holds R done) : g.get? i = none ↔ i ∉ R.projects.map (·.id) := by
  rw [List.mem_map]
  constructor
  · rintro hnone ⟨p, hp, rfl⟩
    obtain ⟨q, hq, -⟩ := (h.mem_projects_iff p).mp hp
    rw [hnone] at hq
    cases hq
  · intro hi
    cases hp : g.get? i with
    | none => rfl
    | some p => exact absurd ⟨p.bare, h.bare_mem_projects hp, h.consistent.filedById i p hp⟩ hi

/-- Filing a project under a new name and a new id extends the roster. -/
theorem fileNew (h : g.Holds R done) (hg' : g'.Consistent) (hname : p.name ∉ R.names)
    (hid : g.get? p.id = none) (hget : ∀ j, g'.get? j = if j = p.id then some p else g.get? j)
    (hbare : p.bare = p) (hnext : g'.nextId = R'.nextId)
    (hprojects : R'.projects = R.projects ++ [p]) : g'.Holds R' done := by
  have hnames : R'.names = R.names ++ [p.name] := by
    rw [← R'.map_name_projects, hprojects, List.map_append, R.map_name_projects]
    rfl
  refine ⟨hg', hnext, fun q => ?_, fun e he => ?_, fun j q hq t => ?_⟩
  · rw [hprojects, List.mem_append, List.mem_singleton, h.mem_projects_iff, hget]
    by_cases hq : q.id = p.id
    · have hnone : g.get? q.id = none := hq ▸ hid
      rw [if_pos hq]
      simp [hnone, hbare, eq_comm]
    · have hne : q ≠ p := fun heq => hq (heq ▸ rfl)
      rw [if_neg hq]
      simp [hne]
  · rw [hnames]
    exact List.mem_append_left _ (h.source_mem_names e he)
  · rw [hget] at hq
    split at hq
    · cases hq
      have hnone : saidOf done p.name t = [] := by
        have hsource : ∀ e ∈ done, e.1 ≠ p.name := fun e he heq =>
          hname (heq ▸ h.source_mem_names e he)
        simpa [saidOf] using fun e d he hp _ => hsource (e, d) he hp
      have hdeps : p.dependencies = ∅ := congrArg Project.dependencies hbare.symm
      rw [hnone, hdeps]
      rfl
    · exact h.write j q hq t

theorem insert (h : g.Holds R []) (hR : R.Valid) (hdrafts : R.drafts = []) (hbare : p.bare = p) :
    SucceedsIff (R.addGiven p).Valid (Holds · (R.addGiven p) []) (g.insert p) := by
  have hprojects : R.projects = R.given := by simp [Roster.projects, hdrafts]
  rw [Roster.valid_addGiven_iff hR hdrafts, ← hprojects]
  cases hinsert : g.insert p with
  | error e =>
      rintro ⟨hname, hid⟩
      have hname : g.idOf? p.name = none := h.idOf?_eq_none_iff.mpr hname
      have hid : g.get? p.id = none := h.get?_eq_none_iff.mpr hid
      unfold idOf? at hname
      unfold get? at hid
      simp [Graph.insert, Map.contains, hname, hid] at hinsert
  | ok g' =>
      have hdeps : p.dependencies = ∅ := congrArg Project.dependencies hbare.symm
      have hg' := (h.consistent.writes_of_insert hdeps hinsert).consistent h.consistent
      obtain ⟨hfree, hid, rfl⟩ := insert_cases hinsert
      have hname : p.name ∉ R.names := h.idOf?_eq_none_iff.mp hfree
      refine ⟨⟨hname, h.get?_eq_none_iff.mp hid⟩, ?_⟩
      refine h.fileNew hg' hname hid (Consistent.get?_fileNew g p _) hbare ?_ ?_
      · rw [Roster.nextId_addGiven hdrafts, ← h.nextId_eq]
      · rw [hprojects]
        simp [Roster.projects, Roster.addGiven, hdrafts]

/-- A new code project that is changed at once extends the roster by a draft. -/
theorem getOrCreate {f : ProjectId → Project → Project} (h : g.Holds R done) (hR : R.Valid)
    (hname : p.name ∉ R.names) (hbare : p.bare = p)
    (hf : ∀ i, f i (Project.new i p.name) = { p with id := i }) :
    SucceedsIff (R.addDraft p).Valid
      (fun x => (x.1.modify x.2 (f x.2)).Holds (R.addDraft p) done ∧
        (x.1.modify x.2 (f x.2)).Named x.2 p.name) (g.getOrCreate p.name) := by
  have hnone : g.idOf? p.name = none := h.idOf?_eq_none_iff.mpr hname
  rw [Roster.valid_addDraft_iff hR, ← h.nextId_eq]
  cases hcreate : g.getOrCreate p.name with
  | error e =>
      rintro ⟨-, hlt⟩
      simp [Graph.getOrCreate, hnone, hlt] at hcreate
  | ok x =>
      obtain ⟨g₁, i⟩ := x
      obtain ⟨hlt, hi, hnext, hget₁⟩ := getOrCreate_eq_ok hnone hcreate
      have hid : g.get? i = none := hi ▸ h.consistent.bounded.get?_ofNat_nextId hlt
      have hget : ∀ j, (g₁.modify i (f i)).get? j =
          if j = i then some { p with id := i } else g.get? j := by
        intro j
        rw [get?_modify, hget₁, hget₁, if_pos rfl, Option.map_some, hf]
        split <;> rfl
      have hg₁ := (h.consistent.writes_of_getOrCreate hcreate).consistent h.consistent
      have hwrites : g₁.Writes (g₁.modify i (f i)) := by
        refine hg₁.writes_modify fun q hq => ?_
        rw [hget₁, if_pos rfl] at hq
        cases hq
        have hdeps : p.dependencies = ∅ := congrArg Project.dependencies hbare.symm
        rw [hf]
        exact ⟨rfl, rfl, fun n d hd => by simp [hdeps] at hd⟩
      have hprojects := R.projects_addDraft p
      rw [← h.nextId_eq, ← hi] at hprojects
      refine ⟨⟨hname, hlt⟩, ?_, _, (hget i).trans (if_pos rfl), rfl⟩
      refine h.fileNew (p := { p with id := i }) (hwrites.consistent hg₁) hname hid hget ?_ ?_
        hprojects
      · exact congrArg (fun q : Project => { q with id := i }) hbare
      · rw [R.nextId_addDraft, ← h.nextId_eq]
        exact hnext

/-- The target of a dependency is on the roster, at the latest as a draft of a library. -/
theorem targetNamed (h : g.Holds R done) (hR : R.Valid) :
    SucceedsIff (R.withTarget n).Valid
      (fun x => x.1.Holds (R.withTarget n) done ∧ x.1.Named x.2 n) (g.targetNamed n) := by
  unfold Graph.targetNamed
  cases hn : g.named? n with
  | some p =>
      obtain ⟨hp, hname⟩ := h.consistent.named?_eq_some_iff.mp hn
      have hmem : n ∈ R.names := h.mem_names_iff.mpr ⟨p.id, p, hp, hname⟩
      rw [Roster.withTarget_of_mem hmem]
      exact ⟨hR, h, p, hp, hname⟩
  | none =>
      have hmem : n ∉ R.names := h.named?_eq_none_iff.mp hn
      rw [Roster.withTarget_of_not_mem hmem]
      have hcreate := h.getOrCreate (p := .library ⟨0⟩ n)
        (f := fun _ p => { p with type := .library }) hR hmem rfl fun i => rfl
      exact hcreate.bind id fun x hvalid hx => ⟨hvalid, hx⟩

/-- A dependency on a project that is there is filed among those of its source. -/
theorem addDependency {j : ProjectId} {d : DependencyRecord} (h : g.Holds R done)
    (hi : g.Named i n) (hj : g.Named j d.target) :
    SucceedsIff True (fun x => x.1.Holds R (done ++ [(n, d)]))
      (g.addDependency i j (.extend d.versions.toList d.data.entries)) := by
  cases hadd : g.addDependency i j (.extend d.versions.toList d.data.entries) with
  | error e =>
      obtain ⟨p, hp, -⟩ := hi
      obtain ⟨t, ht, -⟩ := hj
      have hp : g.get? i = some p := hp
      have ht : g.get? j = some t := ht
      simp [Graph.addDependency, hp, ht] at hadd
  | ok x =>
      have hwrites := h.consistent.writes_of_addDependency (fun e =>
        ⟨e.extend_source d.versions.toList d.data.entries,
          e.extend_target d.versions.toList d.data.entries⟩) hadd
      have hg' := hwrites.consistent h.consistent
      obtain ⟨p, hp, rfl⟩ := hi
      obtain ⟨t, ht, hname⟩ := hj
      have hp : g.get? i = some p := hp
      have ht : g.get? j = some t := ht
      simp only [Graph.addDependency, hp, ht] at hadd
      cases hadd
      have hget := Consistent.get?_exchange g i { p with
        dependencies := p.dependencies.insert t.name
          (((p.dependencies.get? t.name).getD (.new i j)).extend d.versions.toList
            d.data.entries) }
      refine ⟨trivial, hg', h.nextId_eq, fun q => ?_, fun e he => ?_, fun k q hq s => ?_⟩
      · rw [h.mem_projects_iff, hget]
        by_cases hq : q.id = i
        · rw [if_pos hq, hq, hp]
          simp [Project.bare]
        · rw [if_neg hq]
      · rcases List.mem_append.mp he with he | he
        · exact h.source_mem_names e he
        · obtain rfl := List.mem_singleton.mp he
          exact h.mem_names_iff.mpr ⟨i, p, hp, rfl⟩
      · rw [hget] at hq
        rw [saidOf_append_singleton, ← hname]
        split at hq
        · cases hq
          rw [Map.get?_insert]
          by_cases hs : s = t.name
          · rw [if_pos hs, if_pos ⟨rfl, hs.symm⟩, hs]
            exact (h.write i p hp t.name).append_singleton d i j
          · rw [if_neg hs, if_neg fun heq => hs heq.2.symm]
            exact h.write i p hp s
        · rename_i hk
          have hother : p.name ≠ q.name := fun heq =>
            hk (h.consistent.uniqueNames i k p q hp hq heq).symm
          rw [if_neg fun heq => hother heq.1]
          exact h.write k q hq s

theorem named_of_subset {R' : Roster} {done' : List (String × DependencyRecord)}
    (h : g.Holds R done) (h' : g'.Holds R' done') (hR : R.projects ⊆ R'.projects)
    (hi : g.Named i n) : g'.Named i n := by
  obtain ⟨p, hp, rfl⟩ := hi
  obtain ⟨q, hq, hbare⟩ := (h'.mem_projects_iff p.bare).mp (hR (h.bare_mem_projects hp))
  rw [p.bare_id, h.consistent.filedById i p hp] at hq
  have hname : q.bare.name = p.bare.name := congrArg Project.name hbare
  exact ⟨q, hq, hname⟩

theorem addRecord {d : DependencyRecord} (h : g.Holds R done) (hR : R.Valid)
    (hi : g.Named i n) :
    SucceedsIff (R.withTarget d.target).Valid
      (fun g' => g'.Holds (R.withTarget d.target) (done ++ [(n, d)]) ∧ g'.Named i n)
      (addRecord i g d) := by
  refine (h.targetNamed hR).bind id fun x hvalid hx => ?_
  have hi₁ : x.1.Named i n := h.named_of_subset hx.1 (R.projects_subset_withTarget _) hi
  refine (hx.1.addDependency hi₁ hx.2).bind (fun _ => trivial) fun y _ hy => ?_
  exact ⟨hvalid, hy, hx.1.named_of_subset hy (List.Subset.refl _) hi₁⟩

end Holds

end Graph

end Landscape
