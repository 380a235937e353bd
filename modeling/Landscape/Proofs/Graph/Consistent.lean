import Landscape.Catalog.Basic
import Landscape.Proofs.Graph

namespace Landscape.Graph

/-!
# Consistent graphs

As long as nobody renames a project, the index leads to each project by its name, and each
dependency is filed under the name of its target. So names are unique, and no project depends
on another one twice.
-/

/-- Different projects have different names. -/
def UniqueNames (g : Graph) : Prop :=
  ∀ i j p q, g.get? i = some p → g.get? j = some q → p.name = q.name → i = j

/-- No project holds two dependencies on one target. -/
def Simple (g : Graph) : Prop :=
  ∀ i p, g.get? i = some p → ∀ m n d e, p.dependencies.get? m = some d →
    p.dependencies.get? n = some e → d.target = e.target → m = n

/-- The project filed under the id has the name. -/
def Named (g : Graph) (i : ProjectId) (name : String) : Prop := g.Has i fun p => p.name = name

/-- The dependency is the one of the project under `i` on the project of that name. -/
def Links (g : Graph) (i : ProjectId) (name : String) (d : Dependency) : Prop :=
  d.source = i ∧ g.Named d.target name

/-- Each id in use is below the next one. -/
def Bounded (g : Graph) : Prop := ∀ i p, g.get? i = some p → i.toNat < g.nextId

structure Consistent (g : Graph) : Prop where
  filedById : g.FiledById
  idOf?_eq_some_iff : ∀ name i, g.idOf? name = some i ↔ g.Named i name
  nextId_le : g.nextId ≤ Id.count
  toNat_lt : ∀ i p, g.get? i = some p → i.toNat < g.nextId
  links : ∀ i p, g.get? i = some p → ∀ name d, p.dependencies.get? name = some d →
    g.Links i name d

variable {g g' : Graph} {i : ProjectId}

theorem named_of_get? {p : Project} (h : g.get? i = some p) : g.Named i p.name := ⟨p, h, rfl⟩

theorem Named.unique {m n : String} (hm : g.Named i m) (hn : g.Named i n) : m = n := by
  obtain ⟨p, hp, rfl⟩ := hm
  obtain ⟨q, hq, rfl⟩ := hn
  rw [Option.mem_unique hp hq]

theorem not_named_of_get?_eq_none {name : String} (h : g.get? i = none) : ¬ g.Named i name := by
  rintro ⟨p, hp, -⟩
  rw [h] at hp
  cases hp

theorem consistent_empty : empty.Consistent where
  filedById := filedById_empty
  idOf?_eq_some_iff name i := by
    constructor
    · intro h
      cases h
    · rintro ⟨p, hp, -⟩
      cases hp
  nextId_le := by decide
  toNat_lt i p h := by cases h
  links i p h := by cases h

namespace Consistent

theorem uniqueNames (hg : g.Consistent) : g.UniqueNames := by
  intro i j p q hp hq hname
  have hi := (hg.idOf?_eq_some_iff p.name i).mpr (named_of_get? hp)
  have hj := (hg.idOf?_eq_some_iff q.name j).mpr (named_of_get? hq)
  rw [hname, hj] at hi
  exact (Option.some.inj hi).symm

theorem simple (hg : g.Consistent) : g.Simple := by
  intro i p hp m n d e hd he htarget
  have hm := (hg.links i p hp m d hd).2
  have hn := (hg.links i p hp n e he).2
  exact hm.unique (htarget ▸ hn)

theorem named?_eq_some_iff (hg : g.Consistent) {name : String} {p : Project} :
    g.named? name = some p ↔ g.get? p.id = some p ∧ p.name = name := by
  unfold named?
  rw [Option.bind_eq_some_iff]
  constructor
  · rintro ⟨i, hi, hp⟩
    obtain ⟨q, hq, hname⟩ := (hg.idOf?_eq_some_iff name i).mp hi
    obtain rfl : q = p := Option.mem_unique hq hp
    rw [hg.filedById i q hp]
    exact ⟨hp, hname⟩
  · rintro ⟨hp, rfl⟩
    exact ⟨p.id, (hg.idOf?_eq_some_iff p.name p.id).mpr (named_of_get? hp), hp⟩

theorem isSome_named?_iff (hg : g.Consistent) {name : String} :
    (g.named? name).isSome ↔ ∃ i p, g.get? i = some p ∧ p.name = name := by
  rw [Option.isSome_iff_exists]
  constructor
  · rintro ⟨p, hp⟩
    exact ⟨p.id, p, hg.named?_eq_some_iff.mp hp⟩
  · rintro ⟨i, p, hp, hname⟩
    refine ⟨p, hg.named?_eq_some_iff.mpr ⟨?_, hname⟩⟩
    rw [hg.filedById i p hp]
    exact hp

theorem idOf?_of_named? (hg : g.Consistent) {n : String} {p : Project}
    (h : g.named? n = some p) : g.idOf? n = some p.id := by
  obtain ⟨hp, rfl⟩ := hg.named?_eq_some_iff.mp h
  exact (hg.idOf?_eq_some_iff p.name p.id).mpr (named_of_get? hp)

/-! ## Changes -/

theorem not_named_of_idOf?_eq_none {name : String} (hg : g.Consistent)
    (h : g.idOf? name = none) : ¬ g.Named i name := by
  intro hi
  rw [(hg.idOf?_eq_some_iff name i).mpr hi] at h
  cases h

section

variable (g) (p : Project) (next : Nat)

theorem get?_fileNew (j : ProjectId) : ({ g.file p with nextId := next } : Graph).get? j =
    if j = p.id then some p else g.get? j := Map.get?_insert _ _ _ _

theorem idOf?_fileNew (name : String) : ({ g.file p with nextId := next } : Graph).idOf? name =
    if name = p.name then some p.id else g.idOf? name := Map.get?_insert _ _ _ _

theorem named_fileNew_iff (j : ProjectId) (name : String) :
    ({ g.file p with nextId := next } : Graph).Named j name ↔
      if j = p.id then p.name = name else g.Named j name := by
  unfold Named Has
  rw [get?_fileNew]
  split <;> simp

end

section

variable (g) (i) (q : Project)

theorem get?_exchange (j : ProjectId) :
    ({ g with projects := g.projects.insert i q } : Graph).get? j =
      if j = i then some q else g.get? j := Map.get?_insert _ _ _ _

variable {g i q}

theorem named_exchange_iff {p : Project} (hp : g.get? i = some p) (hname : q.name = p.name)
    (j : ProjectId) (name : String) :
    ({ g with projects := g.projects.insert i q } : Graph).Named j name ↔ g.Named j name := by
  unfold Named Has
  rw [get?_exchange]
  split
  · rename_i hj
    rw [hj, hp]
    simp [hname]
  · rfl

end

end Consistent

namespace Bounded

variable {p q : Project}

theorem fileNew {next : Nat} (hg : g.Bounded) (hge : g.nextId ≤ next) (hlt : p.id.toNat < next) :
    ({ g.file p with nextId := next } : Graph).Bounded := by
  intro j q hq
  rw [Consistent.get?_fileNew] at hq
  split at hq
  · rename_i hj
    rw [hj]
    exact hlt
  · exact Nat.lt_of_lt_of_le (hg j q hq) hge

theorem exchange (hg : g.Bounded) (hp : g.get? i = some p) :
    ({ g with projects := g.projects.insert i q } : Graph).Bounded := by
  intro j r hr
  rw [Consistent.get?_exchange] at hr
  split at hr
  · rename_i hj
    rw [hj]
    exact hg i p hp
  · exact hg j r hr

theorem get?_ofNat_nextId (hg : g.Bounded) (hlt : g.nextId < Id.count) :
    g.get? (.ofNat g.nextId) = none := by
  cases hnew : g.get? (.ofNat g.nextId) with
  | none => rfl
  | some p =>
      have hfresh := hg _ p hnew
      rw [Id.toNat_ofNat hlt] at hfresh
      omega

end Bounded

namespace Consistent

theorem bounded (hg : g.Consistent) : g.Bounded := hg.toNat_lt

/-- A project without dependencies may be filed under a new name and a new id. -/
theorem fileNew {p : Project} {next : Nat} (hg : g.Consistent) (hname : g.idOf? p.name = none)
    (hid : g.get? p.id = none) (hdeps : p.dependencies = ∅) (hge : g.nextId ≤ next)
    (hlt : p.id.toNat < next) (hle : next ≤ Id.count) :
    ({ g.file p with nextId := next } : Graph).Consistent := by
  refine ⟨hg.filedById.file p, fun n j => ?_, hle, hg.bounded.fileNew hge hlt,
    fun j q hq n d hd => ?_⟩
  · rw [idOf?_fileNew, named_fileNew_iff]
    by_cases hn : n = p.name
    · have hother : ¬ g.Named j n := hn ▸ hg.not_named_of_idOf?_eq_none hname
      by_cases hj : j = p.id
      · simp [hn, hj]
      · simp [hn, hj, Ne.symm hj, hn ▸ hother]
    · by_cases hj : j = p.id
      · have hother : ¬ g.Named j n := not_named_of_get?_eq_none (hj ▸ hid)
        simp [hn, hj, Ne.symm hn, hg.idOf?_eq_some_iff, hj ▸ hother]
      · simp [hn, hj, hg.idOf?_eq_some_iff]
  · rw [get?_fileNew] at hq
    split at hq
    · cases hq
      rw [hdeps] at hd
      cases hd
    · obtain ⟨hsource, htarget⟩ := hg.links j q hq n d hd
      refine ⟨hsource, (named_fileNew_iff _ _ _ _ _).mpr ?_⟩
      split
      · rename_i ht
        exact absurd htarget (ht ▸ not_named_of_get?_eq_none hid)
      · exact htarget

/-- A project may be exchanged for one of the same id and name, if its dependencies fit. -/
theorem exchange {p q : Project} (hg : g.Consistent) (hp : g.get? i = some p) (hid : q.id = p.id)
    (hname : q.name = p.name)
    (hdeps : ∀ n d, q.dependencies.get? n = some d → g.Links i n d) :
    ({ g with projects := g.projects.insert i q } : Graph).Consistent := by
  refine ⟨fun j s hs => ?_, fun n j => ?_, hg.nextId_le, hg.bounded.exchange hp,
    fun j s hs n d hd => ?_⟩
  · rw [get?_exchange] at hs
    split at hs
    · rename_i hj
      cases hs
      rw [hj, hid]
      exact hg.filedById i p hp
    · exact hg.filedById j s hs
  · rw [named_exchange_iff hp hname]
    exact hg.idOf?_eq_some_iff n j
  · rw [Links, named_exchange_iff hp hname]
    rw [get?_exchange] at hs
    split at hs
    · rename_i hj
      cases hs
      rw [hj]
      exact hdeps n d hd
    · exact hg.links j s hs n d hd

end Consistent

/-! ## What a change writes -/

theorem get?_modify (g : Graph) (i j : ProjectId) (change : Project → Project) :
    (g.modify i change).get? j = if j = i then (g.get? i).map change else g.get? j :=
  Map.get?_modify _ _ _ _

theorem getOrCreate_cases {name : String} (h : g.getOrCreate name = .ok (g', i)) :
    g.idOf? name = some i ∧ g' = g ∨
      g.idOf? name = none ∧ g.nextId < Id.count ∧ i = .ofNat g.nextId ∧
        g' = { g.file (.new i name) with nextId := g.nextId + 1 } := by
  unfold Graph.getOrCreate at h
  split at h
  · rename_i hname
    cases h
    exact .inl ⟨hname, rfl⟩
  · rename_i hname
    split at h
    · rename_i hlt
      cases h
      exact .inr ⟨hname, hlt, rfl, rfl⟩
    · cases h

theorem insert_cases {p : Project} (h : g.insert p = .ok g') :
    g.idOf? p.name = none ∧ g.get? p.id = none ∧
      g' = { g.file p with nextId := max g.nextId (p.id.toNat + 1) } := by
  unfold Graph.insert at h
  split at h
  · cases h
  · rename_i hname
    split at h
    · cases h
    · rename_i hid
      cases h
      refine ⟨?_, ?_, rfl⟩
      · simpa [Map.contains, idOf?] using hname
      · simpa [Map.contains, get?] using hid

theorem addDependency_cases {target : ProjectId} {change : Dependency → Dependency}
    {d : Dependency} (h : g.addDependency i target change = .ok (g', d)) :
    ∃ s t, g.get? i = some s ∧ g.get? target = some t ∧
      d = change ((s.dependencies.get? t.name).getD (.new i target)) ∧
      g' = { g with projects := g.projects.insert i { s with
        dependencies := s.dependencies.insert t.name d } } := by
  unfold Graph.addDependency at h
  split at h
  · cases h
  · rename_i t ht
    split at h
    · cases h
    · rename_i s hs
      cases h
      exact ⟨s, t, hs, ht, rfl, rfl⟩

/-- A graph is written to in two ways: a new project is filed, or a project is exchanged for one of
the same id and name. -/
inductive Writes (g : Graph) : Graph → Prop where
  | nothing : Writes g g
  | fileNew {p : Project} {next : Nat} (hname : g.idOf? p.name = none) (hid : g.get? p.id = none)
      (hdeps : p.dependencies = ∅) (hge : g.nextId ≤ next) (hlt : p.id.toNat < next)
      (hle : next ≤ Id.count) : Writes g { g.file p with nextId := next }
  | exchange {i : ProjectId} {p q : Project} (hp : g.get? i = some p) (hid : q.id = p.id)
      (hname : q.name = p.name) (hdeps : ∀ n d, q.dependencies.get? n = some d → g.Links i n d) :
      Writes g { g with projects := g.projects.insert i q }

namespace Writes

theorem consistent (h : g.Writes g') (hg : g.Consistent) : g'.Consistent := by
  cases h with
  | nothing => exact hg
  | fileNew hname hid hdeps hge hlt hle => exact hg.fileNew hname hid hdeps hge hlt hle
  | exchange hp hid hname hdeps => exact hg.exchange hp hid hname hdeps

theorem nextId_le (h : g.Writes g') : g.nextId ≤ g'.nextId := by
  cases h with
  | nothing => exact Nat.le_refl _
  | fileNew _ _ _ hge _ _ => exact hge
  | exchange _ _ _ _ => exact Nat.le_refl _

/-- An id that bears a name bears it for good. -/
theorem named {name : String} (h : g.Writes g') (hi : g.Named i name) : g'.Named i name := by
  cases h with
  | nothing => exact hi
  | fileNew _ hid _ _ _ _ =>
      refine (Consistent.named_fileNew_iff _ _ _ _ _).mpr ?_
      split
      · rename_i heq
        exact absurd hi (heq ▸ not_named_of_get?_eq_none hid)
      · exact hi
  | exchange hp _ hname _ => exact (Consistent.named_exchange_iff hp hname _ _).mpr hi

end Writes

namespace Consistent

theorem writes_of_getOrCreate {name : String} (hg : g.Consistent)
    (h : g.getOrCreate name = .ok (g', i)) : g.Writes g' := by
  obtain ⟨-, rfl⟩ | ⟨hname, hlt, rfl, rfl⟩ := getOrCreate_cases h
  · exact .nothing
  · exact .fileNew hname (hg.bounded.get?_ofNat_nextId hlt) rfl (Nat.le_succ _)
      (Nat.lt_succ_of_le (Nat.le_of_eq (Id.toNat_ofNat hlt))) hlt

theorem writes_of_insert {p : Project} (hg : g.Consistent) (hdeps : p.dependencies = ∅)
    (h : g.insert p = .ok g') : g.Writes g' := by
  obtain ⟨hname, hid, rfl⟩ := insert_cases h
  refine .fileNew hname hid hdeps (Nat.le_max_left _ _) ?_ ?_
  · exact Nat.lt_of_lt_of_le (Nat.lt_succ_self _) (Nat.le_max_right _ _)
  · exact Nat.max_le.mpr ⟨hg.nextId_le, p.id.toNat_lt⟩

/-- A project may be changed if it keeps its id and its name and gets no new dependencies. -/
theorem writes_modify {change : Project → Project} (hg : g.Consistent)
    (hchange : ∀ p, g.get? i = some p → (change p).id = p.id ∧ (change p).name = p.name ∧
      ∀ n d, (change p).dependencies.get? n = some d → p.dependencies.get? n = some d) :
    g.Writes (g.modify i change) := by
  unfold Graph.modify Map.modify
  cases hp : g.projects.get? i with
  | none => exact .nothing
  | some p =>
      obtain ⟨hid, hname, hdeps⟩ := hchange p hp
      exact .exchange hp hid hname fun n d hd => hg.links i p hp n d (hdeps n d hd)

theorem writes_of_addDependency {target : ProjectId} {change : Dependency → Dependency}
    {d : Dependency} (hg : g.Consistent)
    (hchange : ∀ e, (change e).source = e.source ∧ (change e).target = e.target)
    (h : g.addDependency i target change = .ok (g', d)) : g.Writes g' := by
  obtain ⟨s, t, hs, ht, rfl, rfl⟩ := addDependency_cases h
  refine .exchange hs rfl rfl fun n e he => ?_
  simp only [Map.get?_insert] at he
  split at he
  · rename_i hn
    cases he
    obtain ⟨hsource, htarget⟩ := hchange ((s.dependencies.get? t.name).getD (.new i target))
    rw [Links, hsource, htarget, hn]
    cases hold : s.dependencies.get? t.name with
    | none => exact ⟨rfl, named_of_get? ht⟩
    | some e => exact hg.links i s hs t.name e hold
  · exact hg.links i s hs n e he

end Consistent

end Landscape.Graph
