import Landscape.Proofs.Graph.Consistent

namespace Landscape.Graph

/-!
# Runs of changes

Whatever is called on a graph that was empty at first, in whatever order, and whether or not the
calls succeed: names and ids lead to each other, ids are given away once, and dependencies are filed
under the names of projects that are there. Only renaming is left out.
-/

/-- A call that may change a graph. A reference that a call returns is used by what `edit` does, or
by a call of `modify` afterwards. -/
inductive Change where
  | getOrCreate (name : String)
  | insert (p : Project)
  | modify (i : ProjectId) (edit : Project → Project)
  | addDependency (source target : ProjectId) (edit : Dependency → Dependency)

/-- The graph after a call with this outcome. One that fails leaves the graph as it was. -/
def after (g : Graph) : Except IntegrityError Graph → Graph
  | .ok g' => g'
  | .error _ => g

def apply (g : Graph) : Change → Graph
  | .getOrCreate name => g.after (Prod.fst <$> g.getOrCreate name)
  | .insert p => g.after (g.insert p)
  | .modify i edit => g.modify i edit
  | .addDependency source target edit => g.after (Prod.fst <$> g.addDependency source target edit)

def run (g : Graph) (cs : List Change) : Graph := cs.foldl apply g

/-- The call renames nothing. A project that is inserted is new, so it has no dependencies yet; an
edit keeps the id and the name of a project, and the ends of a dependency. The dependencies of a
project are out of its reach, unless it puts a new project in the place of the old one. -/
def Change.Keeping : Change → Prop
  | .getOrCreate _ => True
  | .insert p => p.dependencies = ∅
  | .modify _ edit => ∀ p, (edit p).id = p.id ∧ (edit p).name = p.name ∧
      ∀ n d, (edit p).dependencies.get? n = some d → p.dependencies.get? n = some d
  | .addDependency _ _ edit => ∀ d, (edit d).source = d.source ∧ (edit d).target = d.target

variable {g : Graph} {c : Change} {cs : List Change}

/-! ## One call -/

/-- What holds of the old graph and of every outcome holds after the call. -/
theorem after_induction {P : Graph → Prop} {r : Except IntegrityError Graph} (hold : P g)
    (hnew : ∀ g', r = .ok g' → P g') : P (g.after r) := by
  cases r with
  | error e => exact hold
  | ok g' => exact hnew g' rfl

theorem Consistent.writes_apply (hg : g.Consistent) (hc : c.Keeping) : g.Writes (g.apply c) := by
  cases c with
  | getOrCreate name =>
      refine after_induction (P := g.Writes) .nothing fun g' h => ?_
      obtain ⟨⟨g', i⟩, hcreate, rfl⟩ := map_eq_ok_iff.mp h
      exact hg.writes_of_getOrCreate hcreate
  | insert p => exact after_induction (P := g.Writes) .nothing fun g' h => hg.writes_of_insert hc h
  | modify i edit => exact hg.writes_modify fun p _ => hc p
  | addDependency source target edit =>
      refine after_induction (P := g.Writes) .nothing fun g' h => ?_
      obtain ⟨⟨g', d⟩, hadd, rfl⟩ := map_eq_ok_iff.mp h
      exact hg.writes_of_addDependency hc hadd

/-! ## Many calls -/

/-- What each way of writing to a consistent graph keeps, a run keeps. -/
theorem Consistent.run_induction {P : Graph → Prop}
    (hP : ∀ g g', g.Consistent → g.Writes g' → P g → P g') (hg : g.Consistent)
    (hcs : ∀ c ∈ cs, c.Keeping) (h : P g) : (g.run cs).Consistent ∧ P (g.run cs) := by
  induction cs generalizing g with
  | nil => exact ⟨hg, h⟩
  | cons c cs ih =>
      obtain ⟨hc, hcs⟩ := List.forall_mem_cons.mp hcs
      have hwrites : g.Writes (g.apply c) := hg.writes_apply hc
      exact ih (hwrites.consistent hg) hcs (hP g _ hg hwrites h)

theorem Consistent.run (hg : g.Consistent) (hcs : ∀ c ∈ cs, c.Keeping) : (g.run cs).Consistent :=
  (hg.run_induction (P := fun _ => True) (fun _ _ _ _ h => h) hcs trivial).1

theorem Consistent.nextId_le_run (hg : g.Consistent) (hcs : ∀ c ∈ cs, c.Keeping) :
    g.nextId ≤ (g.run cs).nextId :=
  (hg.run_induction (P := fun g' => g.nextId ≤ g'.nextId)
    (fun _ _ _ hwrites h => Nat.le_trans h hwrites.nextId_le) hcs (Nat.le_refl _)).2

theorem Consistent.named_run {i : ProjectId} {name : String} (hg : g.Consistent)
    (hcs : ∀ c ∈ cs, c.Keeping) (h : g.Named i name) : (g.run cs).Named i name :=
  (hg.run_induction (fun _ _ _ hwrites hi => hwrites.named hi) hcs h).2

/-- Along every run from the empty graph the name index and the projects by id lead to each other,
and what they lead to bears the name and the id. The next id is between 1 and the number of ids, and
above every id in use; a project that has an id still has it after any more calls, so that no id is
given to two projects. Each dependency has its owner as source, is filed under the name of a project
that is there and has it as target, so that there is at most one between two projects. -/
theorem run_empty_sound (hcs : ∀ c ∈ cs, c.Keeping) :
    (∀ name p, (empty.run cs).named? name = some p ↔
      (empty.run cs).get? p.id = some p ∧ p.name = name) ∧
    (∀ i p, (empty.run cs).get? i = some p → p.id = i) ∧
    (∀ name i, (empty.run cs).idOf? name = some i ↔
      ∃ p, (empty.run cs).get? i = some p ∧ p.name = name) ∧
    (1 ≤ (empty.run cs).nextId ∧ (empty.run cs).nextId ≤ Id.count ∧
      ∀ i p, (empty.run cs).get? i = some p → i.toNat < (empty.run cs).nextId) ∧
    (∀ more, (∀ c ∈ more, c.Keeping) → ∀ i p, (empty.run cs).get? i = some p →
      ∃ q, (empty.run (cs ++ more)).get? i = some q ∧ q.name = p.name) ∧
    (∀ i p, (empty.run cs).get? i = some p → ∀ name d, p.dependencies.get? name = some d →
      d.source = i ∧ ∃ t, (empty.run cs).get? d.target = some t ∧ t.name = name) ∧
    ∀ i p, (empty.run cs).get? i = some p → ∀ m n d e, p.dependencies.get? m = some d →
      p.dependencies.get? n = some e → d.target = e.target → m = n := by
  have hg : (empty.run cs).Consistent := consistent_empty.run hcs
  refine ⟨fun name p => hg.named?_eq_some_iff, hg.filedById, hg.idOf?_eq_some_iff,
    ⟨consistent_empty.nextId_le_run hcs, hg.nextId_le, hg.toNat_lt⟩, ?_, hg.links, hg.simple⟩
  intro more hmore i p hp
  have happend : empty.run (cs ++ more) = (empty.run cs).run more := List.foldl_append
  rw [happend]
  exact hg.named_run hmore (named_of_get? hp)

/-- With `core` under the last id there is none left for `web` until one is named. Of the seven
calls the second, the fourth and the sixth fail. -/
theorem run_empty_sound_of_seven_calls :
    let cs : List Change := [.insert (.new ⟨4294967295⟩ "core"), .getOrCreate "web",
      .insert (.new ⟨3⟩ "web"), .insert (.new ⟨3⟩ "api"),
      .addDependency ⟨3⟩ ⟨4294967295⟩ (·.extend ["1.0"] []), .addDependency ⟨3⟩ ⟨9⟩ id,
      .modify ⟨3⟩ fun p => { p with type := .library }]
    (∀ c ∈ cs, c.Keeping) ∧ (empty.run cs).projects.values.map (·.name) = ["web", "core"] ∧
      (empty.run cs).nextId = Id.count ∧
      (∀ i p, (empty.run cs).get? i = some p → i.toNat < (empty.run cs).nextId) ∧
      ∀ i p, (empty.run cs).get? i = some p → ∀ name d, p.dependencies.get? name = some d →
        d.source = i ∧ ∃ t, (empty.run cs).get? d.target = some t ∧ t.name = name := by
  intro cs
  have hcs : ∀ c ∈ cs, c.Keeping := by
    simp [cs, Change.Keeping, Project.new]
  obtain ⟨-, -, -, ⟨-, -, hbelow⟩, -, hlinks, -⟩ := run_empty_sound hcs
  refine ⟨hcs, ?_, ?_, hbelow, hlinks⟩
  · decide +kernel
  · decide +kernel

end Landscape.Graph
