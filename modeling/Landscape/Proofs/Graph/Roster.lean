import Landscape.Proofs.Graph
import Mathlib.Data.List.Induction
import Mathlib.Data.List.Nodup

namespace Landscape

/-!
# Rosters

A roster lists projects without their dependencies: those that have an id, and drafts, which get
the numbers after the ids in the order of the list. The targets of dependencies extend it by drafts
of libraries.
-/

/-- The project without its dependencies. -/
def Project.bare (p : Project) : Project := { p with dependencies := ∅ }

@[simp] theorem Project.bare_id (p : Project) : p.bare.id = p.id := rfl

def Project.library (i : ProjectId) (name : String) : Project :=
  { Project.new i name with type := .library }

theorem Project.map_name_library (i : ProjectId) (names : List String) :
    (names.map (Project.library i)).map (·.name) = names := by
  rw [List.map_map]
  exact List.map_id _

/-- Projects to be filed. Drafts get their ids by their places. -/
structure Roster where
  given : List Project
  drafts : List Project

namespace Roster

/-- The first number after the ids, and at least 1. -/
def firstId (ids : List ProjectId) : Nat := ids.foldl (fun n i => max n (i.toNat + 1)) 1

variable (R : Roster) (p : Project)

def start : Nat := firstId (R.given.map (·.id))

def nextId : Nat := R.start + R.drafts.length

def projects : List Project :=
  R.given ++ R.drafts.mapIdx fun k p => { p with id := .ofNat (R.start + k) }

def names : List String := (R.given ++ R.drafts).map (·.name)

/-- Names and given ids are distinct, and there are ids for the drafts. -/
structure Valid : Prop where
  nodup_names : R.names.Nodup
  nodup_ids : (R.given.map (·.id)).Nodup
  nextId_le : R.nextId ≤ Id.count

def addGiven : Roster := { R with given := R.given ++ [p] }

def addDraft : Roster := { R with drafts := R.drafts ++ [p] }

theorem map_name_projects : R.projects.map (·.name) = R.names := by
  rw [projects, names, List.map_append, List.map_append]
  congr 1
  exact List.ext_getElem (by simp) (by simp)

variable {R p} in
theorem mem_projects_of_draft {k : Nat} (hk : R.drafts[k]? = some p) :
    { p with id := .ofNat (R.start + k) } ∈ R.projects := by
  refine List.mem_append_right _ (List.mem_iff_getElem?.mpr ⟨k, ?_⟩)
  rw [List.getElem?_mapIdx, hk]
  rfl

theorem projects_addDraft :
    (R.addDraft p).projects = R.projects ++ [{ p with id := .ofNat R.nextId }] := by
  simp [projects, addDraft, start, nextId, List.mapIdx_append]

theorem names_addDraft : (R.addDraft p).names = R.names ++ [p.name] := by
  simp [names, addDraft]

theorem nextId_addDraft : (R.addDraft p).nextId = R.nextId + 1 := by
  simp [nextId, start, addDraft, Nat.add_assoc]

/-- The roster that has the name, at the latest as a draft of a library. -/
def withTarget (name : String) : Roster :=
  if name ∈ R.names then R else R.addDraft (.library ⟨0⟩ name)

variable {R p} {R' : Roster} {n : String}

theorem withTarget_of_mem (h : n ∈ R.names) : R.withTarget n = R := if_pos h

theorem withTarget_of_not_mem (h : n ∉ R.names) :
    R.withTarget n = R.addDraft (.library ⟨0⟩ n) := if_neg h

theorem projects_subset_withTarget (R : Roster) (n : String) :
    R.projects ⊆ (R.withTarget n).projects := by
  unfold withTarget
  split
  · exact List.Subset.refl _
  · rw [projects_addDraft]
    exact List.subset_append_left _ _

theorem nextId_addGiven (hdrafts : R.drafts = []) :
    (R.addGiven p).nextId = max R.nextId (p.id.toNat + 1) := by
  simp [nextId, start, addGiven, firstId, hdrafts]

theorem valid_iff : R.Valid ↔
    R.names.Nodup ∧ (R.given.map (·.id)).Nodup ∧ R.nextId ≤ Id.count :=
  ⟨fun h => ⟨h.nodup_names, h.nodup_ids, h.nextId_le⟩, fun ⟨hn, hi, hle⟩ => ⟨hn, hi, hle⟩⟩

theorem valid_addGiven_iff (hR : R.Valid) (hdrafts : R.drafts = []) :
    (R.addGiven p).Valid ↔ p.name ∉ R.names ∧ p.id ∉ R.given.map (·.id) := by
  have hnames : (R.addGiven p).names = R.names.concat p.name := by
    simp [names, addGiven, hdrafts]
  have hids : (R.addGiven p).given.map (·.id) = (R.given.map (·.id)).concat p.id := by
    simp [addGiven]
  have hle : (R.addGiven p).nextId ≤ Id.count := by
    rw [nextId_addGiven hdrafts]
    exact Nat.max_le.mpr ⟨hR.nextId_le, p.id.toNat_lt⟩
  rw [valid_iff, hnames, hids, List.nodup_concat, List.nodup_concat]
  simp only [hR.nodup_names, hR.nodup_ids, hle, and_true]

theorem valid_addDraft_iff (hR : R.Valid) :
    (R.addDraft p).Valid ↔ p.name ∉ R.names ∧ R.nextId < Id.count := by
  rw [valid_iff, names_addDraft, nextId_addDraft, ← List.concat_eq_append, List.nodup_concat]
  simp only [addDraft, hR.nodup_names, hR.nodup_ids, and_true, true_and, Nat.succ_le_iff]

theorem firstId_append (ids ids' : List ProjectId) :
    firstId ids ≤ firstId (ids ++ ids') := by
  unfold firstId
  rw [List.foldl_append]
  generalize ids.foldl (fun n i => max n (i.toNat + 1)) 1 = n
  induction ids' generalizing n with
  | nil => exact Nat.le_refl n
  | cons i ids' ih => exact Nat.le_trans (Nat.le_max_left _ _) (ih _)

theorem Valid.of_begins (h : R'.Valid) (hgiven : R.given <+: R'.given)
    (hdrafts : R.drafts <+: R'.drafts) : R.Valid := by
  obtain ⟨ps, hps⟩ := hgiven
  have hids : R'.given.map (·.id) = R.given.map (·.id) ++ ps.map (·.id) := by
    rw [← hps, List.map_append]
  refine ⟨?_, ?_, Nat.le_trans ?_ h.nextId_le⟩
  · have hsublist : (R.given ++ R.drafts).Sublist (R'.given ++ R'.drafts) :=
      List.Sublist.append (hps ▸ List.sublist_append_left _ _) hdrafts.sublist
    exact h.nodup_names.sublist (hsublist.map _)
  · exact (List.nodup_append.mp (hids ▸ h.nodup_ids)).1
  · have hstart : R.start ≤ R'.start := by
      rw [start, start, hids]
      exact firstId_append _ _
    exact Nat.add_le_add hstart hdrafts.length_le

/-! ## The targets of dependencies -/

section

variable {R : Roster} {done : List (String × DependencyRecord)}

/-- The targets that the roster lacks, in the order in which they occur first. -/
def lacked (R : Roster) (done : List (String × DependencyRecord)) : List String :=
  ((done.map (·.2.target)).filter fun t => t ∉ R.names).eraseDups

def withTargets (R : Roster) (done : List (String × DependencyRecord)) : Roster :=
  { R with drafts := R.drafts ++ (R.lacked done).map (Project.library ⟨0⟩) }

theorem lacked_append_singleton (R : Roster) (done : List (String × DependencyRecord))
    (e : String × DependencyRecord) :
    R.lacked (done ++ [e]) =
      if e.2.target ∈ R.names ∨ e.2.target ∈ R.lacked done then R.lacked done
      else R.lacked done ++ [e.2.target] := by
  by_cases hn : e.2.target ∈ R.names
  · simp [lacked, hn]
  · have hone : [e.2.target].eraseDups = [e.2.target] := rfl
    by_cases ht : e.2.target ∈ done.map (·.2.target) <;>
      simp [lacked, hn, ht, hone, List.eraseDups_append, List.removeAll, List.mem_eraseDups]

theorem nodup_lacked (R : Roster) (done : List (String × DependencyRecord)) :
    (R.lacked done).Nodup := by
  induction done using List.reverseRecOn with
  | nil => exact List.nodup_nil
  | append_singleton done e ih =>
      rw [lacked_append_singleton]
      split
      · exact ih
      · rename_i h
        rw [← List.concat_eq_append]
        exact ih.concat fun ht => h (Or.inr ht)

theorem names_withTargets (R : Roster) (done : List (String × DependencyRecord)) :
    (R.withTargets done).names = R.names ++ R.lacked done := by
  rw [names, withTargets, ← List.append_assoc, List.map_append, Project.map_name_library, names]

theorem withTargets_append_singleton (R : Roster) (done : List (String × DependencyRecord))
    (e : String × DependencyRecord) :
    R.withTargets (done ++ [e]) = (R.withTargets done).withTarget e.2.target := by
  simp only [withTarget, names_withTargets, List.mem_append]
  rw [withTargets, lacked_append_singleton]
  split
  · rfl
  · simp [withTargets, addDraft]

theorem Valid.of_withTargets_append {more : List (String × DependencyRecord)}
    (h : (R.withTargets (done ++ more)).Valid) : (R.withTargets done).Valid := by
  refine h.of_begins (List.prefix_refl _) ?_
  simp [withTargets, lacked, List.eraseDups_append]

@[simp] theorem withTargets_nil (R : Roster) : R.withTargets [] = R := by
  simp [withTargets, lacked]

end

end Roster

end Landscape
