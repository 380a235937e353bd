import Landscape.Proofs.Graph.Change

namespace Landscape

/-!
# Dependencies under the names asked for

A dependency is filed under the name that its target bears at the moment, and the target may be
renamed afterwards. So along a run with renames a project holds, under each name, a dependency on
the project for which that name was first asked; a later call that comes to the same name gets this
one back, whatever its own target is.
-/

def Dependency.ends (d : Dependency) : ProjectId × ProjectId := (d.source, d.target)

namespace Graph

/-- The call leaves alone the dependencies of a project, which nobody can write from outside, and
the ends of a dependency, which a caller could write through the reference that it is given: edits
of these are left out. A project that is inserted is new. All else may be edited, names included. -/
def Change.KeepsDependencies : Change → Prop
  | .getOrCreate _ => True
  | .insert p => p.dependencies = ∅
  | .modify _ edit => ∀ p, (edit p).dependencies = p.dependencies
  | .addDependency _ _ edit => ∀ d, (edit d).ends = d.ends

instance {g : Graph} {i : ProjectId} {name : String} : Decidable (g.Named i name) :=
  inferInstanceAs (Decidable (g.Has i _))

/-- The dependency that `s` holds under the name. -/
def dependency? (g : Graph) (s : ProjectId) (name : String) : Option Dependency :=
  (g.get? s).bind fun p => p.dependencies.get? name

/-- What the call asks `s`, if it is there, to file under the name: a dependency on this project,
which bears the name now. -/
def asked? (g : Graph) (s : ProjectId) (name : String) : Change → Option ProjectId
  | .addDependency source target _ =>
      if s = source ∧ (g.get? s).isSome ∧ g.Named target name then some target else none
  | _ => none

/-- The target of the first call of a run that asks `s` to file a dependency under the name. -/
def firstAsked? (g : Graph) (s : ProjectId) (name : String) : List Change → Option ProjectId
  | [] => none
  | c :: cs => (g.asked? s name c).or ((g.apply c).firstAsked? s name cs)

/-- The dependency is the one from `s` to `t`, and `s` holds no other one on `t`. -/
def Answers (g : Graph) (s t : ProjectId) (d : Dependency) : Prop :=
  d.ends = (s, t) ∧ ∃! name, ∃ e ∈ g.dependency? s name, e.target = t

/-- Along the run from the empty graph `t` bears the name as long as it is there, and no other
project ever does. -/
def Steady (cs : List Change) (t : ProjectId) (name : String) : Prop :=
  ∀ before, before <+: cs → ∀ u m, (empty.run before).Named u m → (u = t ↔ m = name)

variable {g g' : Graph} {c : Change} {cs : List Change} {s t u : ProjectId} {name : String}

/-! ## One call -/

/-- What a call can do: nothing, file a new project, exchange a project for one with the same
dependencies, or file the dependency asked for, with the ends of one that has the name already. -/
inductive Step (g : Graph) (c : Change) : Graph → Prop where
  | nothing (hnone : ∀ s name, g.asked? s name c = none) : Step g c g
  | fileNew {p : Project} {next : Nat} (hnone : ∀ s name, g.asked? s name c = none)
      (hid : g.get? p.id = none) (hdeps : p.dependencies = ∅) (hge : g.nextId ≤ next)
      (hlt : p.id.toNat < next) : Step g c { g.file p with nextId := next }
  | exchange {i : ProjectId} {p q : Project} (hnone : ∀ s name, g.asked? s name c = none)
      (hp : g.get? i = some p) (hdeps : q.dependencies = p.dependencies) :
      Step g c { g with projects := g.projects.insert i q }
  | file {source target : ProjectId} {p q t : Project} {d : Dependency}
      (hasked : ∀ s name, g.asked? s name c =
        if s = source ∧ name = t.name then some target else none)
      (hp : g.get? source = some p)
      (hends : d.ends = ((p.dependencies.get? t.name).getD (.new source target)).ends)
      (hdeps : q.dependencies = p.dependencies.insert t.name d) :
      Step g c { g with projects := g.projects.insert source q }

section

variable {source target : ProjectId} {p t : Project} {edit : Dependency → Dependency}

theorem asked?_addDependency_of_get? (hp : g.get? source = some p) (ht : g.get? target = some t)
    (s : ProjectId) (name : String) : g.asked? s name (.addDependency source target edit) =
      if s = source ∧ name = t.name then some target else none := by
  refine if_congr ?_ rfl rfl
  constructor
  · rintro ⟨rfl, -, hname⟩
    exact ⟨rfl, hname.unique (named_of_get? ht)⟩
  · rintro ⟨rfl, rfl⟩
    exact ⟨rfl, by simp [hp], named_of_get? ht⟩

theorem step_addDependency (hedit : ∀ d, (edit d).ends = d.ends) :
    g.Step (.addDependency source target edit) (g.apply (.addDependency source target edit)) := by
  rw [apply]
  cases hadd : g.addDependency source target edit with
  | error e =>
      refine .nothing fun s name => if_neg ?_
      rintro ⟨rfl, hs, t, ht, -⟩
      obtain ⟨p, hp⟩ := Option.isSome_iff_exists.mp hs
      simp [addDependency, hp, Option.mem_def.mp ht] at hadd
  | ok x =>
      obtain ⟨p, t, hp, ht, hd, hg'⟩ := addDependency_cases hadd
      show g.Step _ x.1
      rw [hg']
      exact .file (asked?_addDependency_of_get? hp ht) hp (hd ▸ hedit _) rfl

end

theorem named_of_asked? (h : g.asked? s name c = some u) : g.Named u name := by
  cases c with
  | addDependency source target edit =>
      obtain ⟨⟨-, -, hname⟩, hu⟩ := Option.ite_none_right_eq_some.mp h
      exact Option.some.inj hu ▸ hname
  | _ => cases h

theorem Bounded.step (hg : g.Bounded) (hc : c.KeepsDependencies) : g.Step c (g.apply c) := by
  cases c with
  | getOrCreate name =>
      refine after_induction (P := g.Step _) (.nothing fun _ _ => rfl) fun g' h => ?_
      obtain ⟨⟨g', i⟩, hcreate, rfl⟩ := map_eq_ok_iff.mp h
      obtain ⟨-, rfl⟩ | ⟨-, hlt, rfl, rfl⟩ := getOrCreate_cases hcreate
      · exact .nothing fun _ _ => rfl
      · exact .fileNew (fun _ _ => rfl) (hg.get?_ofNat_nextId hlt) rfl (Nat.le_succ _)
          (Nat.lt_succ_of_le (Nat.le_of_eq (Id.toNat_ofNat hlt)))
  | insert p =>
      refine after_induction (P := g.Step _) (.nothing fun _ _ => rfl) fun g' h => ?_
      obtain ⟨-, hid, rfl⟩ := insert_cases h
      exact .fileNew (fun _ _ => rfl) hid hc (Nat.le_max_left _ _)
        (Nat.lt_of_lt_of_le (Nat.lt_succ_self _) (Nat.le_max_right _ _))
  | modify i edit =>
      show g.Step _ (g.modify i edit)
      unfold Graph.modify Map.modify
      cases hp : g.projects.get? i with
      | none => exact .nothing fun _ _ => rfl
      | some p => exact .exchange (fun _ _ => rfl) hp (hc p)
  | addDependency source target edit => exact step_addDependency hc

namespace Step

theorem bounded (h : g.Step c g') (hg : g.Bounded) : g'.Bounded := by
  cases h with
  | nothing => exact hg
  | fileNew _ _ _ hge hlt => exact hg.fileNew hge hlt
  | exchange _ hp _ => exact hg.exchange hp
  | file _ hp _ _ => exact hg.exchange hp

/-- Under each name the ends stay as they are, and where there are none those asked for are new. -/
theorem ends (h : g.Step c g') (s : ProjectId) (name : String) :
    (g'.dependency? s name).map (·.ends) =
      ((g.dependency? s name).map (·.ends)).or ((g.asked? s name c).map (s, ·)) := by
  unfold dependency?
  cases h with
  | nothing hnone => simp [hnone]
  | fileNew hnone hid hdeps _ _ =>
      rw [hnone, Consistent.get?_fileNew]
      split
      · rename_i hs
        simp [hs, hid, hdeps]
      · simp
  | exchange hnone hp hdeps =>
      rw [hnone, Consistent.get?_exchange]
      split
      · rename_i hs
        simp [hs, hp, hdeps]
      · simp
  | @file source target p q t d hasked hp hends hdeps =>
      rw [hasked, Consistent.get?_exchange]
      by_cases hs : s = source
      · by_cases hname : name = t.name
        · subst hs hname
          simp only [if_true, and_self, hp, hdeps, Option.bind_some, Map.get?_insert_self,
            Option.map_some, hends]
          cases p.dependencies.get? t.name with
          | none => rfl
          | some e => rfl
        · simp [hs, hname, hp, hdeps, Map.get?_insert]
      · simp [hs]

end Step

/-! ## Many calls -/

theorem bounded_empty : empty.Bounded := by
  intro i p h
  cases h

/-- Under each name a run leaves the ends that were there, or else those first asked for. -/
theorem Bounded.ends_run (hg : g.Bounded) (hcs : ∀ c ∈ cs, c.KeepsDependencies) (s : ProjectId)
    (name : String) : ((g.run cs).dependency? s name).map (·.ends) =
      ((g.dependency? s name).map (·.ends)).or ((g.firstAsked? s name cs).map (s, ·)) := by
  induction cs generalizing g with
  | nil => simp [run, firstAsked?]
  | cons c cs ih =>
      obtain ⟨hc, hcs⟩ := List.forall_mem_cons.mp hcs
      have hstep : g.Step c (g.apply c) := hg.step hc
      calc (((g.apply c).run cs).dependency? s name).map (·.ends)
        _ = (((g.apply c).dependency? s name).map (·.ends)).or
              (((g.apply c).firstAsked? s name cs).map (s, ·)) := ih (hstep.bounded hg) hcs
        _ = ((g.dependency? s name).map (·.ends)).or
              ((g.firstAsked? s name (c :: cs)).map (s, ·)) := by
            rw [hstep.ends, Option.or_assoc, firstAsked?, Option.map_or]

/-- Who is asked for under a name bears it at that moment. -/
theorem exists_named_of_firstAsked? (h : g.firstAsked? s name cs = some u) :
    ∃ before, before <+: cs ∧ (g.run before).Named u name := by
  induction cs generalizing g with
  | nil => cases h
  | cons c cs ih =>
      rcases Option.or_eq_some_iff.mp h with hnow | ⟨-, hlater⟩
      · exact ⟨[], List.nil_prefix, named_of_asked? hnow⟩
      · obtain ⟨before, hbefore, hname⟩ := ih hlater
        exact ⟨c :: before, List.cons_prefix_cons.mpr ⟨rfl, hbefore⟩, hname⟩

theorem steady_of_keeping (hcs : ∀ c ∈ cs, c.Keeping) (hname : (empty.run cs).Named t name) :
    Steady cs t name := by
  rintro before ⟨rest, rfl⟩ u m hu
  obtain ⟨hbefore, hrest⟩ := List.forall_mem_append.mp hcs
  have happend : empty.run (before ++ rest) = (empty.run before).run rest := List.foldl_append
  have hg : (empty.run (before ++ rest)).Consistent := consistent_empty.run hcs
  have hlast : (empty.run (before ++ rest)).Named u m := by
    rw [happend]
    exact (consistent_empty.run hbefore).named_run hrest hu
  constructor
  · rintro rfl
    exact hlast.unique hname
  · rintro rfl
    obtain ⟨p, hp, hpm⟩ := hlast
    obtain ⟨q, hq, hqm⟩ := hname
    exact hg.uniqueNames u t p q hp hq (hpm.trans hqm.symm)

/-! ## The dependency that comes back -/

theorem addDependency_spec {edit : Dependency → Dependency} {d : Dependency}
    (h : g.addDependency s t edit = .ok (g', d)) (hname : g.Named t name) :
    g'.dependency? s name = some d ∧
      ∀ m, g.asked? s m (.addDependency s t edit) = if m = name then some t else none := by
  obtain ⟨p, q, hp, hq, rfl, rfl⟩ := addDependency_cases h
  obtain rfl : name = q.name := hname.unique (named_of_get? hq)
  refine ⟨?_, fun m => by simp [asked?_addDependency_of_get? hp hq]⟩
  simp [dependency?, Consistent.get?_exchange, Map.get?_insert_self]

theorem answers_iff {d : Dependency} {asked : String → Option ProjectId}
    (hd : d.ends = (s, (asked name).getD t))
    (hheld : ∀ m, (g.dependency? s m).map (·.ends) =
      ((asked m).or (if m = name then some t else none)).map (s, ·)) :
    g.Answers s t d ↔ ∀ m u, asked m = some u → (u = t ↔ m = name) := by
  have hon (m : String) : (∃ e ∈ g.dependency? s m, e.target = t) ↔
      (asked m).or (if m = name then some t else none) = some t := by
    have hsnd := congrArg (Option.map Prod.snd) (hheld m)
    simp only [Option.map_map, Function.comp_def, Option.map_id'] at hsnd
    rw [← hsnd]
    simp [Dependency.ends]
  have hname : (asked name).or (if name = name then some t else none) =
      some ((asked name).getD t) := by
    cases asked name <;> simp
  unfold Answers
  simp only [hd, hon, Prod.mk.injEq, true_and]
  constructor
  · rintro ⟨htarget, hunique⟩ m u hm
    constructor
    · rintro rfl
      refine hunique.unique ?_ ?_
      · simp [hm]
      · rw [hname, htarget]
    · rintro rfl
      rw [hm] at htarget
      exact htarget
  · intro hasked
    have htarget : (asked name).getD t = t := by
      cases hn : asked name with
      | none => rfl
      | some u => exact (hasked name u hn).mpr rfl
    refine ⟨htarget, name, hname.trans (congrArg some htarget), fun m hm => ?_⟩
    rcases Option.or_eq_some_iff.mp hm with hm | ⟨-, hm⟩
    · exact (hasked m t hm).mp rfl
    · exact (Option.ite_none_right_eq_some.mp hm).1

/-- Whatever is called on a graph that was empty at first, renaming included: the call that asks `s`
for a dependency on `t` gets the one on the project that was first asked for under the present name
of `t`, and `t` itself if none was. -/
theorem addDependency_run {d : Dependency} (hcs : ∀ c ∈ cs, c.KeepsDependencies)
    (h : (empty.run cs).addDependency s t id = .ok (g', d)) (hname : (empty.run cs).Named t name) :
    d.ends = (s, (empty.firstAsked? s name cs).getD t) ∧
    (∀ m, (g'.dependency? s m).map (·.ends) =
      ((empty.firstAsked? s m cs).or (if m = name then some t else none)).map (s, ·)) ∧
    (g'.Answers s t d ↔ ∀ m u, empty.firstAsked? s m cs = some u → (u = t ↔ m = name)) ∧
    (Steady cs t name → g'.Answers s t d) ∧
    ((∀ c ∈ cs, c.Keeping) → g'.Answers s t d) := by
  obtain ⟨hback, hasked⟩ := addDependency_spec h hname
  have hlast : (empty.run cs).Step (.addDependency s t id) g' := by
    have hstep : (empty.run cs).Step (.addDependency s t id)
        ((empty.run cs).apply (.addDependency s t id)) := step_addDependency fun _ => rfl
    rwa [apply, h] at hstep
  have hheld (m : String) : (g'.dependency? s m).map (·.ends) =
      ((empty.firstAsked? s m cs).or (if m = name then some t else none)).map (s, ·) := by
    rw [hlast.ends, bounded_empty.ends_run hcs, hasked, Option.map_or]
    rfl
  have hends : d.ends = (s, (empty.firstAsked? s name cs).getD t) := by
    have hheldName := hheld name
    rw [hback] at hheldName
    cases hfirst : empty.firstAsked? s name cs <;> simpa [hfirst] using hheldName
  have hiff := answers_iff hends hheld
  have hsteady (hbearers : Steady cs t name) : g'.Answers s t d := by
    refine hiff.mpr fun m u hm => ?_
    obtain ⟨before, hbefore, hu⟩ := exists_named_of_firstAsked? hm
    exact hbearers before hbefore u m hu
  exact ⟨hends, hheld, hiff, hsteady, fun hkeeping => hsteady (steady_of_keeping hkeeping hname)⟩

/-- `util` takes over the name `core` after a dependency on `core` was filed: the call for `util`
gets that one back. Before the renaming the call for `core` gets what it asks for. -/
theorem addDependency_run_of_taken_name :
    let before : List Change := [.getOrCreate "app", .getOrCreate "core", .getOrCreate "util",
      .addDependency ⟨1⟩ ⟨2⟩ (·.extend ["1.0"] [])]
    let cs := before ++ [.modify ⟨3⟩ fun p => { p with name := "core" }]
    (∃ g' d, (empty.run cs).addDependency ⟨1⟩ ⟨3⟩ id = .ok (g', d) ∧ d.ends = (⟨1⟩, ⟨2⟩) ∧
      ¬ g'.Answers ⟨1⟩ ⟨3⟩ d) ∧
    ∃ g' d, (empty.run before).addDependency ⟨1⟩ ⟨2⟩ id = .ok (g', d) ∧
      g'.Answers ⟨1⟩ ⟨2⟩ d := by
  intro before cs
  have hbefore : ∀ c ∈ before, c.Keeping ∧ c.KeepsDependencies := by
    simp [before, Change.Keeping, Change.KeepsDependencies, Dependency.ends]
  have hcs : ∀ c ∈ cs, c.KeepsDependencies := by
    simp [cs, before, Change.KeepsDependencies, Dependency.ends]
  have hfirst : empty.firstAsked? ⟨1⟩ "core" cs = some ⟨2⟩ := by decide +kernel
  constructor
  · have hname : (empty.run cs).Named ⟨3⟩ "core" := by decide +kernel
    obtain ⟨g', d, h⟩ : ∃ g' d, (empty.run cs).addDependency ⟨1⟩ ⟨3⟩ id = .ok (g', d) :=
      ⟨_, _, rfl⟩
    obtain ⟨hends, -, hiff, -⟩ := addDependency_run hcs h hname
    rw [hfirst] at hends
    refine ⟨g', d, h, hends, fun hanswers => ?_⟩
    have htarget : (⟨2⟩ : ProjectId) = ⟨3⟩ := (hiff.mp hanswers "core" ⟨2⟩ hfirst).mpr rfl
    exact absurd htarget (by decide)
  · have hname : (empty.run before).Named ⟨2⟩ "core" := by decide +kernel
    obtain ⟨g', d, h⟩ : ∃ g' d, (empty.run before).addDependency ⟨1⟩ ⟨2⟩ id = .ok (g', d) :=
      ⟨_, _, rfl⟩
    obtain ⟨-, -, -, -, hkeeping⟩ := addDependency_run (fun c hc => (hbefore c hc).2) h hname
    exact ⟨g', d, h, hkeeping fun c hc => (hbefore c hc).1⟩

/-- After the first run the call for `util` gets the dependency on `core`. After the second the
source holds two on one project, under the name it bore and under the one it bears. -/
theorem exists_not_answers :
    let named : List Change := [.getOrCreate "app", .getOrCreate "core", .getOrCreate "util",
      .addDependency ⟨1⟩ ⟨2⟩ id]
    let taken := named ++ [.modify ⟨3⟩ fun p => { p with name := "core" }]
    let moved := named ++ [.modify ⟨2⟩ fun p => { p with name := "lib" }]
    (∀ c ∈ taken ++ moved, c.KeepsDependencies) ∧
    (∃ g' d, (empty.run taken).addDependency ⟨1⟩ ⟨3⟩ id = .ok (g', d) ∧ d.target = ⟨2⟩ ∧
      ¬ g'.Answers ⟨1⟩ ⟨3⟩ d) ∧
    ∃ g' d, (empty.run moved).addDependency ⟨1⟩ ⟨2⟩ id = .ok (g', d) ∧ d.ends = (⟨1⟩, ⟨2⟩) ∧
      ¬ g'.Answers ⟨1⟩ ⟨2⟩ d := by
  intro named taken moved
  refine ⟨?_, ?_, ?_⟩
  · simp [taken, moved, named, Change.KeepsDependencies]
  · refine ⟨_, _, rfl, ?_, ?_⟩
    · decide +kernel
    · rintro ⟨hends, -⟩
      revert hends
      decide +kernel
  · refine ⟨_, _, rfl, ?_, ?_⟩
    · decide +kernel
    · rintro ⟨-, hunique⟩
      have heq : "core" = "lib" := hunique.unique (by decide +kernel) (by decide +kernel)
      exact absurd heq (by decide)

end Graph

end Landscape
