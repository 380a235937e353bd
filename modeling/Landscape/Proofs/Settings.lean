import Mathlib
import Landscape.Proofs.Runs
import Landscape.Settings.Basic

namespace Landscape

/-!
# The precedence of settings

What a source supplies is put into the settings when its turn comes, from the lowest source to the
highest. So each setting comes from the highest source that supplies it. A source that cannot be
read stops the whole, whatever the higher ones supply.
-/

open Text

/-! ## The highest source -/

theorem Source.eq_of_rank_eq {a b : Source} (h : a.rank = b.rank) : a = b := by
  cases a <;> cases b <;> simp_all [rank]

theorem Source.rank_lt (a : Source) : a.rank < 4 := by
  cases a <;> decide

section

variable {α : Type} {supply : Source → Option α} {current : Option (Sourced α)} {v : Sourced α}

/-- The value is what its source supplies, and no higher source supplies any. -/
def Sourced.Leads (supply : Source → Option α) (v : Sourced α) : Prop :=
  supply v.source = some v.value ∧
    ∀ source : Source, v.source.rank < source.rank → supply source = none

/-- The value leads among the sources below a rank. -/
def Sourced.LeadsBelow (supply : Source → Option α) (rank : Nat) (v : Sourced α) : Prop :=
  supply v.source = some v.value ∧ v.source.rank < rank ∧
    ∀ source : Source, v.source.rank < source.rank → source.rank < rank → supply source = none

theorem Sourced.leadsBelow_four_iff : v.LeadsBelow supply 4 ↔ v.Leads supply := by
  simp only [LeadsBelow, Leads, Source.rank_lt, true_and, forall_const]

/-- A setting that a source may supply after others. -/
def Source.put (source : Source) (given : Option α) (current : Option (Sourced α)) :
    Option (Sourced α) :=
  match given with
  | none => current
  | some a =>
      match current with
      | none => some ⟨a, source⟩
      | some v => some (v.merge ⟨a, source⟩)

theorem Source.put_of_leadsBelow {source : Source} {a : α}
    (h : ∀ v, current = some v ↔ v.LeadsBelow supply source.rank) :
    source.put (some a) current = some ⟨a, source⟩ := by
  cases current with
  | none => rfl
  | some w =>
      have hlt : w.source.rank < source.rank := ((h w).mp rfl).2.1
      simp [put, Sourced.merge, Nat.le_of_lt hlt]

/-- In its turn each source takes the lead if it supplies a value. -/
theorem Source.leadsBelow_put {source : Source}
    (h : ∀ v, current = some v ↔ v.LeadsBelow supply source.rank) (v : Sourced α) :
    source.put (supply source) current = some v ↔ v.LeadsBelow supply (source.rank + 1) := by
  cases hs : supply source with
  | none =>
      refine (h v).trans ⟨?_, ?_⟩
      · rintro ⟨hv, hlt, hhigher⟩
        refine ⟨hv, Nat.lt_succ_of_lt hlt, fun higher hrank hbelow => ?_⟩
        rcases Nat.lt_succ_iff_lt_or_eq.mp hbelow with hbelow | heq
        · exact hhigher higher hrank hbelow
        · rw [eq_of_rank_eq heq, hs]
      · rintro ⟨hv, hlt, hhigher⟩
        refine ⟨hv, ?_, fun higher hrank hbelow =>
          hhigher higher hrank (Nat.lt_succ_of_lt hbelow)⟩
        refine (Nat.lt_succ_iff_lt_or_eq.mp hlt).resolve_right fun heq => ?_
        rw [eq_of_rank_eq heq, hs] at hv
        cases hv
  | some a =>
      rw [put_of_leadsBelow h]
      constructor
      · intro hv
        cases hv
        exact ⟨hs, Nat.lt_succ_self _, fun higher hrank hbelow =>
          absurd hrank (Nat.not_lt.mpr (Nat.le_of_lt_succ hbelow))⟩
      · rintro ⟨hv, hlt, hhigher⟩
        -- a lower value does not lead, as this source supplies one
        rcases Nat.lt_succ_iff_lt_or_eq.mp hlt with hlower | heq
        · rw [hhigher source hlower (Nat.lt_succ_self _)] at hs
          cases hs
        · obtain ⟨value, own⟩ := v
          obtain rfl : own = source := eq_of_rank_eq heq
          rw [hs] at hv
          cases hv
          rfl

end

namespace Settings

variable {s t : Settings} {source : Source} {workspace : String} {file : Option SettingsFile}
  {content : Except ReadFailure String} {e : Environment} {o : Overrides}

/-! ## One setter -/

theorem some_data_setData (s : Settings) (source : Source) (data : Option String) :
    some (s.setData source data).data = source.put data (some s.data) := by
  cases data <;> rfl

theorem maxDepth_setMaxDepth (s : Settings) (source : Source) (depth : Option Nat) :
    (s.setMaxDepth source depth).maxDepth = source.put depth s.maxDepth := by
  unfold setMaxDepth Source.put
  cases depth <;> cases s.maxDepth <;> rfl

theorem some_keepExternal_setKeepExternal (s : Settings) (source : Source) (keep : Option Bool) :
    some (s.setKeepExternal source keep).keepExternal =
      source.put keep (some s.keepExternal) := by
  cases keep <;> rfl

@[simp] theorem setData_frame (s : Settings) (source : Source) (data : Option String) :
    (s.setData source data).maxDepth = s.maxDepth ∧
      (s.setData source data).keepExternal = s.keepExternal ∧
        (s.setData source data).roots = s.roots := by
  cases data <;> exact ⟨rfl, rfl, rfl⟩

@[simp] theorem setMaxDepth_frame (s : Settings) (source : Source) (depth : Option Nat) :
    (s.setMaxDepth source depth).data = s.data ∧
      (s.setMaxDepth source depth).keepExternal = s.keepExternal ∧
        (s.setMaxDepth source depth).roots = s.roots := by
  unfold setMaxDepth
  cases depth <;> cases s.maxDepth <;> exact ⟨rfl, rfl, rfl⟩

@[simp] theorem setKeepExternal_frame (s : Settings) (source : Source) (keep : Option Bool) :
    (s.setKeepExternal source keep).data = s.data ∧
      (s.setKeepExternal source keep).maxDepth = s.maxDepth ∧
        (s.setKeepExternal source keep).roots = s.roots := by
  cases keep <;> exact ⟨rfl, rfl, rfl⟩

@[simp] theorem setRoots_frame (s : Settings) (source : Source) (roots : List String) :
    (s.setRoots source roots).data = s.data ∧
      (s.setRoots source roots).maxDepth = s.maxDepth ∧
        (s.setRoots source roots).keepExternal = s.keepExternal := by
  unfold setRoots
  split <;> exact ⟨rfl, rfl, rfl⟩

/-! ## What the sources supply -/

/-- The text of a variable, if it is not blank. -/
def nonblank (v : Option String) : Option String := v.filter fun s => trim s.toList ≠ []

theorem given?_eq_nonblank (v : Option String) : given? v = nonblank v := by
  cases v with
  | none => rfl
  | some s => cases h : trim s.toList <;> simp [given?, nonblank, Option.filter, h]

def depthOf? (s : String) : Option Nat := (readNumeral depthLimit (trim s.toList)).toOption

/-- A file names the catalog as seen from the workspace. -/
def suppliedData (workspace : String) (file : Option SettingsFile) (e : Environment)
    (o : Overrides) : Source → Option String
  | .default => some (FilePath.join workspace defaultData)
  | .file => file.bind fun f => f.data.map (FilePath.join workspace)
  | .environment => nonblank e.data
  | .flag => o.data

def suppliedDepth (file : Option SettingsFile) (e : Environment) (o : Overrides) :
    Source → Option Nat
  | .default => none
  | .file => file.bind (·.maxDepth)
  | .environment => (nonblank e.maxDepth).bind depthOf?
  | .flag => o.maxDepth

/-- A flag cannot say that external projects are left out. -/
def suppliedExternal (file : Option SettingsFile) (e : Environment) (o : Overrides) :
    Source → Option Bool
  | .default => some false
  | .file => file.bind (·.keepExternal)
  | .environment => (nonblank e.keepExternal).bind fun s => flagOf? s.toList
  | .flag => if o.keepExternal then some true else none

/-! ## Sources that are read -/

/-- A variable that is not blank has to be of the form that `read?` reads. -/
def readVariable {α : Type} (key : String) (read? : String → Option α) (v : Option String) :
    Except SettingsError (Option α) :=
  match nonblank v with
  | none => .ok none
  | some s =>
      match read? s with
      | some a => .ok (some a)
      | none => .error (.invalidValue key s)

theorem readDepth_eq_readVariable (v : Option String) :
    readDepth v = readVariable Environment.maxDepthKey depthOf? v := by
  unfold readDepth readVariable depthOf?
  rw [given?_eq_nonblank]
  cases nonblank v with
  | none => rfl
  | some s =>
      dsimp only
      cases readNumeral depthLimit (trim s.toList) <;> rfl

theorem readFlag_eq_readVariable (v : Option String) :
    readFlag v = readVariable Environment.keepExternalKey (fun s => flagOf? s.toList) v := by
  unfold readFlag readVariable
  rw [given?_eq_nonblank]
  cases nonblank v with
  | none => rfl
  | some s =>
      dsimp only
      cases flagOf? s.toList <;> rfl

section

variable {α : Type} {key : String} {read? : String → Option α} {v : Option String}

theorem readVariable_eq_ok_iff {given : Option α} : readVariable key read? v = .ok given ↔
    given = (nonblank v).bind read? ∧ ∀ s, nonblank v = some s → (read? s).isSome := by
  unfold readVariable
  cases nonblank v with
  | none => simp [@eq_comm _ given]
  | some s => cases hs : read? s <;> simp [hs, @eq_comm _ given]

theorem readVariable_eq_error_iff {err : SettingsError} :
    readVariable key read? v = .error err ↔
      ∃ s, nonblank v = some s ∧ read? s = none ∧ err = .invalidValue key s := by
  unfold readVariable
  cases nonblank v with
  | none => simp
  | some s => cases hs : read? s <;> simp [hs, @eq_comm _ err]

end

/-- What the settings file of a workspace holds, where there may be none. -/
inductive FileHolds : Except ReadFailure String → Option SettingsFile → Prop where
  | absent : FileHolds (.error .notFound) none
  | present {text : String} {f : SettingsFile}
      (h : SettingsFile.decoder.ofText text.toList = .ok f) : FileHolds (.ok text) (some f)

theorem readFile?_eq_ok_iff : readFile? workspace content = .ok file ↔ FileHolds content file := by
  unfold readFile?
  constructor
  · intro h
    split at h
    · cases h
      exact .absent
    · cases h
    · split at h
      · cases h
        exact .present ‹_›
      · cases h
  · intro h
    cases h with
    | absent => rfl
    | present h => simp [h]

/-- What stops the settings. A problem is reported if those that are looked for before it are not
there. -/
inductive Problem (workspace : String) (content : Except ReadFailure String) (e : Environment) :
    SettingsError → Prop where
  | unreadable {cause : String} (h : content = .error (.other cause)) :
      Problem workspace content e (.unreadable (filePath workspace) cause)
  | malformed {text : String} {failure : Json.Failure} (htext : content = .ok text)
      (h : SettingsFile.decoder.ofText text.toList = .error failure) :
      Problem workspace content e (.malformed (filePath workspace) text failure)
  | depth {file : Option SettingsFile} {value : String} (hfile : FileHolds content file)
      (hvalue : nonblank e.maxDepth = some value) (h : depthOf? value = none) :
      Problem workspace content e (.invalidValue Environment.maxDepthKey value)
  | keepExternal {file : Option SettingsFile} {value : String} (hfile : FileHolds content file)
      (hdepth : ∀ depth, nonblank e.maxDepth = some depth → (depthOf? depth).isSome)
      (hvalue : nonblank e.keepExternal = some value) (h : flagOf? value.toList = none) :
      Problem workspace content e (.invalidValue Environment.keepExternalKey value)

theorem readFile?_eq_error_iff {err : SettingsError} :
    readFile? workspace content = .error err ↔
      (∃ cause, content = .error (.other cause) ∧ err = .unreadable (filePath workspace) cause) ∨
        ∃ text failure, content = .ok text ∧
          SettingsFile.decoder.ofText text.toList = .error failure ∧
            err = .malformed (filePath workspace) text failure := by
  unfold readFile?
  rcases content with (_ | cause) | text
  · simp
  · simp [eq_comm]
  · cases h : SettingsFile.decoder.ofText text.toList <;> simp [h, eq_comm]

theorem withEnvironment_eq_error_iff {err : SettingsError} :
    s.withEnvironment e = .error err ↔
      (∃ value, nonblank e.maxDepth = some value ∧ depthOf? value = none ∧
        err = .invalidValue Environment.maxDepthKey value) ∨
      (∀ depth, nonblank e.maxDepth = some depth → (depthOf? depth).isSome) ∧
        ∃ value, nonblank e.keepExternal = some value ∧ flagOf? value.toList = none ∧
          err = .invalidValue Environment.keepExternalKey value := by
  unfold withEnvironment
  rw [bind_eq_error_iff, readDepth_eq_readVariable, readVariable_eq_error_iff]
  refine or_congr Iff.rfl ?_
  simp only [bind_eq_error_iff, readFlag_eq_readVariable, readVariable_eq_error_iff,
    readVariable_eq_ok_iff]
  constructor
  · rintro ⟨depth, ⟨-, hdepth⟩, hkeep | ⟨keep, -, h⟩⟩
    · exact ⟨hdepth, hkeep⟩
    · cases h
  · rintro ⟨hdepth, hkeep⟩
    exact ⟨_, ⟨rfl, hdepth⟩, .inl hkeep⟩

theorem resolve_eq_error_iff {err : SettingsError} :
    resolve workspace content e o = .error err ↔ Problem workspace content e err := by
  unfold resolve
  simp only [bind_eq_error_iff, readFile?_eq_error_iff, readFile?_eq_ok_iff,
    withEnvironment_eq_error_iff]
  constructor
  · rintro ((⟨cause, hcontent, rfl⟩ | ⟨text, failure, hcontent, h, rfl⟩) | ⟨file, hfile,
      (⟨value, hvalue, h, rfl⟩ | ⟨hdepth, value, hvalue, h, rfl⟩) | ⟨s, -, hs⟩⟩)
    · exact .unreadable hcontent
    · exact .malformed hcontent h
    · exact .depth hfile hvalue h
    · exact .keepExternal hfile hdepth hvalue h
    · cases hs
  · intro h
    cases h with
    | unreadable h => exact .inl (.inl ⟨_, h, rfl⟩)
    | malformed htext h => exact .inl (.inr ⟨_, _, htext, h, rfl⟩)
    | depth hfile hvalue h => exact .inr ⟨_, hfile, .inl (.inl ⟨_, hvalue, h, rfl⟩)⟩
    | keepExternal hfile hdepth hvalue h =>
        exact .inr ⟨_, hfile, .inl (.inr ⟨hdepth, _, hvalue, h, rfl⟩)⟩

/-! ## One source after the other -/

/-- Each setting is led among the sources below the rank. -/
structure LedBelow (workspace : String) (file : Option SettingsFile) (e : Environment)
    (o : Overrides) (rank : Nat) (s : Settings) : Prop where
  data : ∀ v, some s.data = some v ↔ v.LeadsBelow (suppliedData workspace file e o) rank
  maxDepth : ∀ v, s.maxDepth = some v ↔ v.LeadsBelow (suppliedDepth file e o) rank
  keepExternal : ∀ v, some s.keepExternal = some v ↔ v.LeadsBelow (suppliedExternal file e o) rank

/-- The source puts all that it supplies. -/
theorem LedBelow.put (h : LedBelow workspace file e o source.rank s)
    (hdata : some t.data = source.put (suppliedData workspace file e o source) (some s.data))
    (hdepth : t.maxDepth = source.put (suppliedDepth file e o source) s.maxDepth)
    (hkeep : some t.keepExternal =
      source.put (suppliedExternal file e o source) (some s.keepExternal)) :
    LedBelow workspace file e o (source.rank + 1) t := by
  refine ⟨fun v => ?_, fun v => ?_, fun v => ?_⟩
  · rw [hdata]
    exact Source.leadsBelow_put h.data v
  · rw [hdepth]
    exact Source.leadsBelow_put h.maxDepth v
  · rw [hkeep]
    exact Source.leadsBelow_put h.keepExternal v

theorem ledBelow_defaults : LedBelow workspace file e o 1 (defaults workspace) := by
  have hnone {α : Type} (supply : Source → Option α) (v : Sourced α) :
      none = some v ↔ v.LeadsBelow supply Source.default.rank := by
    simp [Sourced.LeadsBelow, Source.rank]
  exact ⟨Source.leadsBelow_put (hnone (suppliedData workspace file e o)),
    Source.leadsBelow_put (hnone (suppliedDepth file e o)),
    Source.leadsBelow_put (hnone (suppliedExternal file e o))⟩

theorem LedBelow.withFile (h : LedBelow workspace file e o 1 s) :
    LedBelow workspace file e o 2 (file.elim s (s.withFile workspace)) := by
  change LedBelow workspace file e o Source.file.rank s at h
  cases file with
  | none => exact h.put rfl rfl rfl
  | some f =>
      refine h.put ?_ ?_ ?_
      · simp [Settings.withFile, some_data_setData, suppliedData]
      · simp [Settings.withFile, maxDepth_setMaxDepth, suppliedDepth]
      · simp [Settings.withFile, some_keepExternal_setKeepExternal, suppliedExternal]

theorem LedBelow.withEnvironment (h : LedBelow workspace file e o 2 s)
    (ht : s.withEnvironment e = .ok t) : LedBelow workspace file e o 3 t := by
  change LedBelow workspace file e o Source.environment.rank s at h
  obtain ⟨depth, hdepth, ht⟩ := exists_of_bind_eq_ok ht
  obtain ⟨keep, hkeep, ht⟩ := exists_of_bind_eq_ok ht
  cases ht
  rw [readDepth_eq_readVariable] at hdepth
  rw [readFlag_eq_readVariable] at hkeep
  obtain ⟨rfl, -⟩ := readVariable_eq_ok_iff.mp hdepth
  obtain ⟨rfl, -⟩ := readVariable_eq_ok_iff.mp hkeep
  refine h.put ?_ ?_ ?_
  · simp [some_data_setData, suppliedData, given?_eq_nonblank]
  · simp [maxDepth_setMaxDepth, suppliedDepth]
  · simp [some_keepExternal_setKeepExternal, suppliedExternal]

/-- No source outranks a flag, so what a flag overwrites it may as well put. -/
theorem LedBelow.withOverrides (h : LedBelow workspace file e o 3 s) :
    LedBelow workspace file e o 4 (s.withOverrides o) := by
  change LedBelow workspace file e o Source.flag.rank s at h
  refine h.put ?_ ?_ ?_
  · unfold Settings.withOverrides
    split <;> simp [some_data_setData, suppliedData]
  · unfold Settings.withOverrides
    split <;> simp [maxDepth_setMaxDepth, suppliedDepth]
  · have hrank : s.keepExternal.source.rank ≤ Source.flag.rank :=
      Nat.le_of_lt_succ s.keepExternal.source.rank_lt
    unfold Settings.withOverrides
    split <;> simp_all [suppliedExternal, Source.put, Sourced.merge]

theorem exists_of_resolve (h : resolve workspace content e o = .ok s) :
    ∃ file t, FileHolds content file ∧
      (file.elim (defaults workspace) ((defaults workspace).withFile workspace)).withEnvironment e =
        .ok t ∧ t.withOverrides o = s := by
  obtain ⟨file, hfile, hrest⟩ := exists_of_bind_eq_ok h
  obtain ⟨t, ht, hs⟩ := exists_of_bind_eq_ok hrest
  cases hs
  refine ⟨file, t, readFile?_eq_ok_iff.mp hfile, ?_, rfl⟩
  cases file with
  | none => exact ht
  | some f => exact ht

/-! ## Roots -/

theorem roots_setRoots (s : Settings) (source : Source) (roots : List String) :
    (s.setRoots source roots).roots =
      if roots = [] then s.roots else roots.map (⟨·, source⟩) := by
  unfold setRoots
  cases roots <;> rfl

theorem roots_withFile (workspace : String) (file : Option SettingsFile) :
    (file.elim (defaults workspace) ((defaults workspace).withFile workspace)).roots =
      (file.elim [] (·.roots)).map (⟨·, .file⟩) := by
  cases file with
  | none => rfl
  | some f => cases h : f.roots <;> simp [withFile, roots_setRoots, h, defaults]

theorem roots_withEnvironment (ht : s.withEnvironment e = .ok t) : t.roots = s.roots := by
  obtain ⟨depth, -, ht⟩ := exists_of_bind_eq_ok ht
  obtain ⟨keep, -, ht⟩ := exists_of_bind_eq_ok ht
  cases ht
  simp

theorem roots_withOverrides (s : Settings) (o : Overrides) : (s.withOverrides o).roots =
    if o.roots = [] then s.roots else o.roots.map (⟨·, .flag⟩) := by
  unfold withOverrides
  split <;> simp [roots_setRoots]

/-- The settings cannot be put together if and only if the file cannot be read, though it is there,
or does not fit, or else a depth or else a flag of the environment is not blank and cannot be read,
whatever the flags of the command say. Otherwise each setting comes from the highest source that
supplies it, and names it. The roots are those of the command, if it has any, and those of the file
if not. -/
theorem resolve_precedence (workspace : String) (content : Except ReadFailure String)
    (e : Environment) (o : Overrides) :
    (∀ err, resolve workspace content e o = .error err ↔ Problem workspace content e err) ∧
    ∀ s, resolve workspace content e o = .ok s → ∃ file, FileHolds content file ∧
      s.data.Leads (suppliedData workspace file e o) ∧
      (∀ v, s.maxDepth = some v ↔ v.Leads (suppliedDepth file e o)) ∧
      s.keepExternal.Leads (suppliedExternal file e o) ∧
      s.roots = if o.roots = [] then (file.elim [] (·.roots)).map (⟨·, .file⟩)
        else o.roots.map (⟨·, .flag⟩) := by
  refine ⟨fun err => resolve_eq_error_iff, fun s h => ?_⟩
  obtain ⟨file, t, hfile, ht, rfl⟩ := exists_of_resolve h
  have hled : LedBelow workspace file e o 4 (t.withOverrides o) :=
    (ledBelow_defaults.withFile.withEnvironment ht).withOverrides
  refine ⟨file, hfile, ?_, fun v => ?_, ?_, ?_⟩
  · exact Sourced.leadsBelow_four_iff.mp ((hled.data _).mp rfl)
  · exact (hled.maxDepth v).trans Sourced.leadsBelow_four_iff
  · exact Sourced.leadsBelow_four_iff.mp ((hled.keepExternal _).mp rfl)
  · rw [roots_withOverrides, roots_withEnvironment ht, roots_withFile]

/-- The file gives the catalog and the roots. Its depth gives way to the one of the environment and
that to the flag, which is there though it is zero. The blank variable says nothing. -/
theorem resolve_precedence_of_four_sources :
    let text := "\x7b\"data\": \"graph.json\", \"max_depth\": 3, \"roots\": [\"web\"]\x7d"
    let e : Environment := { data := some " ", maxDepth := some " 7 ", keepExternal := some "No" }
    let o : Overrides := { maxDepth := some 0 }
    let s : Settings :=
      ⟨⟨"shop/graph.json", .file⟩, some ⟨0, .flag⟩, ⟨false, .environment⟩, [⟨"web", .file⟩]⟩
    resolve "shop" (.ok text) e o = .ok s ∧ ∃ file, FileHolds (.ok text) file ∧
      s.data.Leads (suppliedData "shop" file e o) ∧
        s.keepExternal.Leads (suppliedExternal file e o) := by
  intro text e o s
  have hfile : SettingsFile.decoder.ofText text.toList =
      .ok ⟨some "graph.json", some 3, none, ["web"]⟩ := by cbv
  have h : resolve "shop" (.ok text) e o = .ok s := by
    unfold resolve
    rw [bind_eq_of_eq_ok (readFile?_eq_ok_iff.mpr (.present hfile))]
    decide +kernel
  obtain ⟨file, hholds, hdata, -, hkeep, -⟩ := (resolve_precedence "shop" (.ok text) e o).2 s h
  exact ⟨h, file, hholds, hdata, hkeep⟩

/-- The flag would outrank the depth that cannot be read, and the depth is looked at first. -/
example : resolve "shop" (.error .notFound)
    { maxDepth := some "many", keepExternal := some "perhaps" } { maxDepth := some 2 } =
      .error (.invalidValue "ARCHER_MAX_DEPTH" "many") := by
  decide +kernel

end Settings

end Landscape
