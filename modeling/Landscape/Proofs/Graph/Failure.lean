import Landscape.Proofs.Graph.Change

namespace Landscape

/-!
# Calls that fail

A call writes to the graph part by part: the next id, the index, the projects. Here each write is a
step of its own, and a call that fails leaves whatever it has written by then. Along every run of
calls that is nothing, since each call looks for all that may be wrong before it writes.
-/

namespace Graph

/-! ## The index leads to projects -/

/-- What the index holds is filed. This stays so whatever is renamed. -/
def Indexed (g : Graph) : Prop := ∀ name i, g.idOf? name = some i → (g.get? i).isSome

variable {g : Graph} {name : String} {e : IntegrityError}

theorem indexed_empty : empty.Indexed := by
  intro name i h
  cases h

theorem Indexed.file (hg : g.Indexed) (p : Project) (next : Nat) :
    ({ g.file p with nextId := next } : Graph).Indexed := by
  intro name i hi
  rw [Consistent.idOf?_fileNew] at hi
  rw [Consistent.get?_fileNew]
  by_cases hid : i = p.id
  · rw [if_pos hid]
    rfl
  · rw [if_neg hid]
    split at hi
    · cases hi
      exact absurd rfl hid
    · exact hg name i hi

theorem Indexed.write (hg : g.Indexed) (j : ProjectId) (q : Project) :
    ({ g with projects := g.projects.insert j q } : Graph).Indexed := by
  intro name i hi
  rw [Consistent.get?_exchange]
  split
  · rfl
  · exact hg name i hi

/-- A call files one project under its name and its id, writes one under an id, or does nothing. -/
theorem apply_cases (g : Graph) (c : Change) : g.apply c = g ∨
    (∃ p next, g.apply c = { g.file p with nextId := next }) ∨
      ∃ j q, g.apply c = { g with projects := g.projects.insert j q } := by
  cases c with
  | getOrCreate name =>
      simp only [apply, Graph.getOrCreate]
      cases g.idOf? name with
      | some i => exact .inl rfl
      | none =>
          dsimp only
          split
          · exact .inr (.inl ⟨_, _, rfl⟩)
          · exact .inl rfl
  | insert p =>
      simp only [apply, Graph.insert]
      split
      · exact .inl rfl
      · split
        · exact .inl rfl
        · exact .inr (.inl ⟨_, _, rfl⟩)
  | modify i edit =>
      simp only [apply, Graph.modify, Map.modify]
      split
      · exact .inl rfl
      · exact .inr (.inr ⟨_, _, rfl⟩)
  | addDependency source target edit =>
      simp only [apply, Graph.addDependency]
      split
      · exact .inl rfl
      · split
        · exact .inl rfl
        · exact .inr (.inr ⟨_, _, rfl⟩)

theorem Indexed.apply (hg : g.Indexed) (c : Change) : (g.apply c).Indexed := by
  rcases g.apply_cases c with h | ⟨p, next, h⟩ | ⟨j, q, h⟩
  · rw [h]
    exact hg
  · rw [h]
    exact hg.file p next
  · rw [h]
    exact hg.write j q

theorem Indexed.run (hg : g.Indexed) (cs : List Change) : (g.run cs).Indexed := by
  induction cs generalizing g with
  | nil => exact hg
  | cons c cs ih => exact ih (hg.apply c)

/-- A name is free if no project is found under it. -/
theorem Indexed.named?_eq_none_iff (hg : g.Indexed) :
    g.named? name = none ↔ g.idOf? name = none := by
  unfold named?
  cases hi : g.idOf? name with
  | none => simp
  | some i =>
      obtain ⟨p, hp⟩ := Option.isSome_iff_exists.mp (hg name i hi)
      simp [hp]

theorem idOf?_of_getOrCreate {g' : Graph} {i : ProjectId}
    (h : g.getOrCreate name = .ok (g', i)) : g'.idOf? name = some i := by
  obtain ⟨hname, rfl⟩ | ⟨-, -, -, rfl⟩ := getOrCreate_cases h
  · exact hname
  · exact Map.get?_insert_self _ _ _

/-! ## What is wrong with a call -/

theorem Indexed.insert_eq_error_iff (hg : g.Indexed) {p : Project} : g.insert p = .error e ↔
    (g.named? p.name).isSome ∧ e = .duplicateProject p.name ∨
      g.named? p.name = none ∧ (g.get? p.id).isSome ∧
        e = .duplicateId .project p.id.toNat := by
  have hname : g.index.contains p.name = (g.named? p.name).isSome := by
    rw [Bool.eq_iff_iff, ← not_iff_not, Bool.not_eq_true, Bool.not_eq_true,
      Option.isSome_eq_false_iff, Option.isNone_iff_eq_none, hg.named?_eq_none_iff]
    exact Option.isSome_eq_false_iff.trans Option.isNone_iff_eq_none
  have hid : g.projects.contains p.id = (g.get? p.id).isSome := rfl
  unfold Graph.insert
  rw [hname, hid]
  cases g.named? p.name with
  | some q => simpa using eq_comm
  | none =>
      cases g.get? p.id with
      | some q => simpa using eq_comm
      | none => simp

theorem Indexed.getOrCreate_eq_error_iff (hg : g.Indexed) : g.getOrCreate name = .error e ↔
    g.named? name = none ∧ Id.count ≤ g.nextId ∧ e = .idsExhausted .project := by
  rw [hg.named?_eq_none_iff]
  unfold Graph.getOrCreate
  cases g.idOf? name with
  | some i => simp
  | none =>
      by_cases hlt : g.nextId < Id.count
      · simp [hlt]
      · simpa [hlt, Nat.le_of_not_lt hlt] using eq_comm

theorem addDependency_eq_error_iff {source target : ProjectId} {edit : Dependency → Dependency} :
    g.addDependency source target edit = .error e ↔
      g.get? target = none ∧ e = .unknownReference .project target.toNat ∨
        (g.get? target).isSome ∧ g.get? source = none ∧
          e = .unknownReference .project source.toNat := by
  unfold Graph.addDependency
  cases g.get? target with
  | none => simpa using eq_comm
  | some t =>
      cases g.get? source with
      | none => simpa using eq_comm
      | some s => simp

end Graph

/-! ## Calls step by step -/

namespace InPlace

variable {α : Type} {g g' : Graph} {e : IntegrityError}

/-- Steps that write to one graph. Where one fails, what was written before it stays. -/
abbrev Steps := EStateM IntegrityError Graph

def setNextId (n : Nat) : Steps Unit := modify fun g => { g with nextId := n }

def setId (name : String) (i : ProjectId) : Steps Unit :=
  modify fun g => { g with index := g.index.insert name i }

def setProject (i : ProjectId) (p : Project) : Steps Unit :=
  modify fun g => { g with projects := g.projects.insert i p }

def stored (i : ProjectId) : Steps Project := do
  match (← get).get? i with
  | some p => return p
  | none => throw (.unknownReference .project i.toNat)

/-- The id under the name, a new one if there is none yet. -/
def idFor (name : String) : Steps ProjectId := do
  match (← get).idOf? name with
  | some i => return i
  | none =>
      let next := (← get).nextId
      if Id.count ≤ next then throw (.idsExhausted .project)
      let i := .ofNat next
      setNextId (next + 1)
      setId name i
      setProject i (.new i name)
      return i

/-- A new project under the id, unless there is one. -/
def orNew (i : ProjectId) (name : String) : Steps Unit := do
  if ((← get).get? i).isNone then setProject i (.new i name)

def getOrCreate (name : String) : Steps ProjectId := do
  let i ← idFor name
  orNew i name
  return i

def insert (p : Project) : Steps Unit := do
  if (← get).index.contains p.name then throw (.duplicateProject p.name)
  if (← get).projects.contains p.id then throw (.duplicateId .project p.id.toNat)
  setNextId (max (← get).nextId (p.id.toNat + 1))
  setId p.name p.id
  setProject p.id p

/-- The dependency is there before it is edited. -/
def addDependency (source target : ProjectId) (edit : Dependency → Dependency) :
    Steps Dependency := do
  let t ← stored target
  let s ← stored source
  let d := (s.dependencies.get? t.name).getD (.new source target)
  setProject source { s with dependencies := s.dependencies.insert t.name d }
  setProject source { s with dependencies := s.dependencies.insert t.name (edit d) }
  return edit d

def perform : Graph.Change → Steps Unit
  | .getOrCreate name => (fun _ => ()) <$> getOrCreate name
  | .insert p => insert p
  | .modify i edit => modify fun g => g.modify i edit
  | .addDependency source target edit => (fun _ => ()) <$> addDependency source target edit

/-- Make a call and go on with what it leaves, whatever it answers. -/
def attempt (call : Steps α) : Steps Unit := fun g =>
  match call g with
  | .ok _ g' => .ok () g'
  | .error _ g' => .ok () g'

def performAll (cs : List Graph.Change) : Steps Unit := forM cs fun c => attempt (perform c)

/-- What comes of a call that is made at once: where it fails, the graph is as it was. -/
def atOnce (g : Graph) :
    Except IntegrityError (Graph × α) → EStateM.Result IntegrityError Graph α
  | .ok (g', a) => .ok a g'
  | .error e => .error e g

theorem atOnce_eq_error_iff {r : Except IntegrityError (Graph × α)} :
    atOnce g r = .error e g' ↔ r = .error e ∧ g' = g := by
  cases r with
  | ok a => simp [atOnce]
  | error e' => simp [atOnce, eq_comm]

/-! ## One step after the other -/

section

variable {β : Type} (f : α → Steps β) (g : Graph)

@[simp] theorem bind_apply (x : Steps α) : (x >>= f) g =
    match x g with
    | .ok a g' => f a g'
    | .error e g' => .error e g' := by
  simp only [bind, EStateM.bind]
  cases x g <;> rfl

@[simp] theorem map_apply (h : α → β) (x : Steps α) : (h <$> x) g =
    match x g with
    | .ok a g' => .ok (h a) g'
    | .error e g' => .error e g' := by
  simp only [Functor.map, EStateM.map]
  cases x g <;> rfl

@[simp] theorem get_apply : (get : Steps Graph) g = .ok g g := rfl

@[simp] theorem pure_apply (a : α) : (pure a : Steps α) g = .ok a g := rfl

@[simp] theorem throw_apply (e : IntegrityError) : (throw e : Steps α) g = .error e g := rfl

@[simp] theorem setNextId_apply (n : Nat) : setNextId n g = .ok () { g with nextId := n } := rfl

@[simp] theorem setId_apply (name : String) (i : ProjectId) :
    setId name i g = .ok () { g with index := g.index.insert name i } := rfl

@[simp] theorem setProject_apply (i : ProjectId) (p : Project) :
    setProject i p g = .ok () { g with projects := g.projects.insert i p } := rfl

end

theorem insert_eq_atOnce (g : Graph) (p : Project) :
    insert p g = atOnce g ((·, ()) <$> g.insert p) := by
  unfold Graph.insert
  by_cases hname : g.index.contains p.name = true
  · simp [insert, hname, atOnce]
  · by_cases hid : g.projects.contains p.id = true
    · simp [insert, hname, hid, atOnce]
    · simp [insert, hname, hid, atOnce, Graph.file]

theorem stored_apply (i : ProjectId) (g : Graph) : stored i g =
    match g.get? i with
    | some p => .ok p g
    | none => .error (.unknownReference .project i.toNat) g := by
  cases hi : g.get? i with
  | none => simp [stored, hi]
  | some p => simp [stored, hi]

theorem addDependency_eq_atOnce (g : Graph) (source target : ProjectId)
    (edit : Dependency → Dependency) :
    addDependency source target edit g = atOnce g (g.addDependency source target edit) := by
  unfold addDependency Graph.addDependency
  rw [bind_apply, stored_apply]
  cases g.get? target with
  | none => rfl
  | some t =>
      dsimp only
      rw [bind_apply, stored_apply]
      cases g.get? source with
      | none => rfl
      | some s =>
          simp [atOnce, Map.insert_insert]

theorem idFor_eq_atOnce (g : Graph) (name : String) :
    idFor name g = atOnce g (g.getOrCreate name) := by
  unfold idFor Graph.getOrCreate
  rw [bind_apply, get_apply]
  cases hname : g.idOf? name with
  | some i => simp [hname, atOnce]
  | none =>
      by_cases hlt : g.nextId < Id.count
      · simp [hname, hlt, Nat.not_le_of_lt hlt, atOnce, Graph.file, Project.new]
      · simp [hname, hlt, Nat.le_of_not_lt hlt, atOnce]

theorem orNew_apply {i : ProjectId} (h : (g.get? i).isSome) (name : String) :
    orNew i name g = .ok () g := by
  simp [orNew, Option.isSome_iff_ne_none.mp h]

/-- The id under a name leads to a project, so there is none to add. -/
theorem getOrCreate_eq_atOnce (hg : g.Indexed) (name : String) :
    getOrCreate name g = atOnce g (g.getOrCreate name) := by
  unfold getOrCreate
  rw [bind_apply, idFor_eq_atOnce]
  cases hcreate : g.getOrCreate name with
  | error e => rfl
  | ok r =>
      -- the look-up is in the graph after the first part
      obtain ⟨g', i⟩ := r
      have hg' : g'.Indexed := by
        have happly : g.apply (.getOrCreate name) = g' := by
          rw [Graph.apply, hcreate]
          rfl
        exact happly ▸ hg.apply (.getOrCreate name)
      have hi : (g'.get? i).isSome := hg' name i (Graph.idOf?_of_getOrCreate hcreate)
      simp [atOnce, orNew_apply hi]

/-! ## Runs of calls -/

theorem map_eq_atOnce {β : Type} (f : α → β) {call : Steps α}
    {r : Except IntegrityError (Graph × α)} (h : call g = atOnce g r) :
    (f <$> call) g = atOnce g (Prod.map id f <$> r) := by
  rw [map_apply, h]
  cases r with
  | error e => rfl
  | ok r => rfl

theorem perform_eq_atOnce (hg : g.Indexed) (c : Graph.Change) :
    ∃ r, perform c g = atOnce g r ∧ g.after (Prod.fst <$> r) = g.apply c := by
  cases c with
  | getOrCreate name =>
      refine ⟨_, map_eq_atOnce _ (getOrCreate_eq_atOnce hg name), ?_⟩
      rw [Graph.apply, ← comp_map]
      rfl
  | insert p =>
      refine ⟨_, insert_eq_atOnce g p, ?_⟩
      rw [Graph.apply, ← comp_map]
      exact congrArg g.after (id_map (g.insert p))
  | modify i edit => exact ⟨.ok (g.modify i edit, ()), rfl, rfl⟩
  | addDependency source target edit =>
      refine ⟨_, map_eq_atOnce _ (addDependency_eq_atOnce g source target edit), ?_⟩
      rw [Graph.apply, ← comp_map]
      rfl

theorem attempt_perform (hg : g.Indexed) (c : Graph.Change) :
    attempt (perform c) g = .ok () (g.apply c) := by
  obtain ⟨r, hperform, happly⟩ := perform_eq_atOnce hg c
  rw [attempt, hperform, ← happly]
  cases r with
  | error e => rfl
  | ok r => rfl

theorem apply_of_perform_eq_error (hg : g.Indexed) {c : Graph.Change}
    (h : perform c g = .error e g') : g' = g ∧ g.apply c = g := by
  obtain ⟨r, hperform, happly⟩ := perform_eq_atOnce hg c
  rw [hperform, atOnce_eq_error_iff] at h
  obtain ⟨rfl, hg'⟩ := h
  exact ⟨hg', happly.symm⟩

theorem performAll_eq_ok (hg : g.Indexed) (cs : List Graph.Change) :
    performAll cs g = .ok () (g.run cs) := by
  induction cs generalizing g with
  | nil => rfl
  | cons c cs ih =>
      have hrest : performAll cs (g.apply c) = .ok () (g.run (c :: cs)) := ih (hg.apply c)
      rw [performAll, List.forM_cons, bind_apply, attempt_perform hg]
      exact hrest

/-- What comes after a call that fails is as if nobody had made it. -/
theorem performAll_append_cons (hg : g.Indexed) {cs : List Graph.Change} {c : Graph.Change}
    (h : perform c (g.run cs) = .error e g') (more : List Graph.Change) :
    performAll (cs ++ c :: more) g = performAll (cs ++ more) g := by
  have hcall : (g.run cs).apply c = g.run cs := (apply_of_perform_eq_error (hg.run cs) h).2
  have hrun : g.run (cs ++ c :: more) = g.run (cs ++ more) := by
    rw [Graph.run, Graph.run, List.foldl_append, List.foldl_append, List.foldl_cons]
    exact congrArg (more.foldl Graph.apply) hcall
  rw [performAll_eq_ok hg, performAll_eq_ok hg, hrun]

/-- After any calls, each of which may have failed, a call fails only for what is wrong with it and
leaves the graph as it was: an insertion for a name or an id that is taken, of which the name comes
first; a name that is not there for want of an id; a dependency for an end that is not there, of
which the target comes first. What is done afterwards, whatever it is, is as if the call had not
been made. As long as nobody renames a project, a name is taken if and only if some project bears
it. -/
theorem failure_exact (cs : List Graph.Change) :
    let g := Graph.empty.run cs
    performAll cs .empty = .ok () g ∧
      (∀ p e g', insert p g = .error e g' ↔
        ((g.named? p.name).isSome ∧ e = .duplicateProject p.name ∨
          g.named? p.name = none ∧ (g.get? p.id).isSome ∧
            e = .duplicateId .project p.id.toNat) ∧ g' = g) ∧
      (∀ name e g', getOrCreate name g = .error e g' ↔
        (g.named? name = none ∧ Id.count ≤ g.nextId ∧ e = .idsExhausted .project) ∧ g' = g) ∧
      (∀ source target edit e g', addDependency source target edit g = .error e g' ↔
        (g.get? target = none ∧ e = .unknownReference .project target.toNat ∨
          (g.get? target).isSome ∧ g.get? source = none ∧
            e = .unknownReference .project source.toNat) ∧ g' = g) ∧
      ((∀ p, insert p g = atOnce g ((·, ()) <$> g.insert p)) ∧
        (∀ name, getOrCreate name g = atOnce g (g.getOrCreate name)) ∧
        ∀ source target edit,
          addDependency source target edit g = atOnce g (g.addDependency source target edit)) ∧
      (∀ c e g', perform c g = .error e g' → g' = g ∧
        (∀ more, performAll (cs ++ c :: more) .empty = performAll (cs ++ more) .empty) ∧
        ∀ (β : Type) (later : Steps β), (attempt (perform c) >>= fun _ => later) g = later g) ∧
      ((∀ c ∈ cs, c.Keeping) → ∀ name, (g.named? name).isSome ↔
        ∃ i p, g.get? i = some p ∧ p.name = name) := by
  intro g
  have hg : g.Indexed := Graph.indexed_empty.run cs
  refine ⟨performAll_eq_ok Graph.indexed_empty cs, fun p e g' => ?_, fun name e g' => ?_,
    fun source target edit e g' => ?_, ⟨insert_eq_atOnce g, getOrCreate_eq_atOnce hg,
      addDependency_eq_atOnce g⟩, fun c e g' h => ?_, fun hcs name => ?_⟩
  · rw [insert_eq_atOnce, atOnce_eq_error_iff, map_eq_error_iff, hg.insert_eq_error_iff]
  · rw [getOrCreate_eq_atOnce hg, atOnce_eq_error_iff, hg.getOrCreate_eq_error_iff]
  · rw [addDependency_eq_atOnce, atOnce_eq_error_iff, Graph.addDependency_eq_error_iff]
  · obtain ⟨hsame, happly⟩ := apply_of_perform_eq_error hg h
    refine ⟨hsame, performAll_append_cons Graph.indexed_empty h, fun β later => ?_⟩
    rw [bind_apply, attempt_perform hg, happly]
  · exact (Graph.consistent_empty.run hcs).isSome_named?_iff

/-- Four calls that fail where `core` has the last id: there is none left for `web`, that of `core`
is taken as its name is, and there is no project under 9. -/
theorem failure_exact_of_last_id :
    let cs : List Graph.Change := [.insert (.new ⟨4294967295⟩ "core")]
    let g := Graph.empty.run cs
    (∀ c ∈ cs, c.Keeping) ∧
      getOrCreate "web" g = .error (.idsExhausted .project) g ∧
      insert (.new ⟨4294967295⟩ "core") g = .error (.duplicateProject "core") g ∧
      insert (.new ⟨4294967295⟩ "web") g = .error (.duplicateId .project 4294967295) g ∧
      addDependency ⟨4294967295⟩ ⟨9⟩ id g = .error (.unknownReference .project 9) g ∧
      ∃ i p, g.get? i = some p ∧ p.name = "core" := by
  intro cs g
  have hcs : ∀ c ∈ cs, c.Keeping := by
    simp [cs, Graph.Change.Keeping, Project.new]
  obtain ⟨-, hinsert, hcreate, hadd, -, -, hnamed⟩ := failure_exact cs
  refine ⟨hcs, (hcreate _ _ _).mpr ⟨⟨?_, ?_, rfl⟩, rfl⟩, (hinsert _ _ _).mpr ⟨.inl ⟨?_, rfl⟩, rfl⟩,
    (hinsert _ _ _).mpr ⟨.inr ⟨?_, ?_, rfl⟩, rfl⟩, (hadd _ _ _ _ _).mpr ⟨.inl ⟨?_, rfl⟩, rfl⟩,
    (hnamed hcs _).mp ?_⟩
  all_goals decide +kernel

end InPlace

end Landscape
