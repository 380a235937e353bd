import Landscape.Proofs.Route.Selection
import Landscape.Proofs.Rule.Clauses
import Landscape.Slice

namespace Landscape

/-!
# What a slice keeps

A slice keeps what none of its built-in rules drops, what no removing rule applies to and,
if it has adding rules, what one of them applies to. Projects and dependencies differ only in
when a term is true of them.
-/

open Text

namespace ProjectLeaf

/-- Whether a term is true of a project; no route is. -/
def holdsOf (p : Project) : ProjectLeaf → Bool
  | test l => l.test.holds p
  | route _ => false

/-- Whether a term is true of a dependency: an including test of both ends, an excluding one of
either end, a route by its own verdict. -/
def holdsOfLink (k : Link) : ProjectLeaf → Bool
  | test ⟨t, .including⟩ => t.holds k.source && t.holds k.target
  | test ⟨t, .excluding⟩ => t.holds k.source || t.holds k.target
  | route r => r.verdict k != .neutral

theorem onProject_eq_ofMatch (p : Project) (l : ProjectLeaf) :
    l.onProject p = .ofMatch l.policy (l.holdsOf p) := by
  cases l <;> rfl

theorem onLink_eq_ofMatch (k : Link) (l : ProjectLeaf) :
    l.onLink k = .ofMatch l.policy (l.holdsOfLink k) := by
  cases l with
  | test l =>
      obtain ⟨t, policy⟩ := l
      cases policy <;> rfl
  | route r =>
      simp only [onLink, policy, holdsOfLink, Route.verdict]
      cases r.takes k.source.id k.target.id with
      | true => cases r.policy <;> rfl
      | false => rfl

theorem ofText_nil (g : Graph) (policy : Policy) (usual : Option Nat) :
    ofText g policy usual [] = .ok (.test ⟨.any, policy⟩) := by
  cbv

/-- The leaf of a term has the polarity of its rule. -/
theorem policy_of_ofText {g : Graph} {policy : Policy} {usual : Option Nat} {t : List Char}
    {l : ProjectLeaf} (h : ofText g policy usual t = .ok l) : l.policy = policy := by
  unfold ofText at h
  split at h
  · cases hr : Route.ofText g policy usual t with
    | error e => simp [hr] at h
    | ok r =>
        rw [hr] at h
        cases h
        obtain ⟨rt, -, rfl⟩ := Route.exists_of_ofText_eq_ok hr
        rfl
  · cases ht : ProjectTest.ofText t with
    | error e => simp [ht] at h
    | ok test =>
        rw [ht] at h
        cases h
        rfl

end ProjectLeaf

namespace ProjectRule

variable {g : Graph} {policy : Policy} {usual : Option Nat} {rule : List Char} {r : ProjectRule}

theorem policy_of_mem_leaves (h : ofText g policy usual rule = .ok r) :
    ∀ l ∈ r.leaves, l.policy = policy :=
  Formula.forall_mem_leaves (fun _ _ => ProjectLeaf.policy_of_ofText) h

/-- An including rule never keeps what it says nothing of, an excluding rule always does. -/
theorem keepsByDefault_of_ofText (h : ofText g policy usual rule = .ok r) :
    r.keepsByDefault ProjectLeaf.policy = policy.keepsByDefault :=
  Formula.keepsByDefault_of_policy h (policy_of_mem_leaves h)

section

variable {v : ProjectLeaf → Verdict} {hit : ProjectLeaf → Bool}

/-- A rule matches, with its polarity as the verdict, what it applies to. -/
theorem verdict_eq_iff (hv : ∀ l, v l = .ofMatch l.policy (hit l))
    (h : ofText g policy usual rule = .ok r) :
    r.verdict v = policy.verdict ↔
      Formula.Applies (ProjectLeaf.ofText g policy usual) hit rule := by
  obtain ⟨b, hb, hr⟩ :=
    Formula.verdict_of_policy h fun l hl => policy_of_mem_leaves h l hl ▸ hv l
  rw [← hb, hr]
  cases policy <;> cases b <;> simp [Policy.verdict]

theorem verdict_ne_of_ne (hv : ∀ l, v l = .ofMatch l.policy (hit l))
    (h : ofText g policy usual rule = .ok r) {w : Verdict} (hw : w ≠ .neutral)
    (hwp : w ≠ policy.verdict) : r.verdict v ≠ w := by
  obtain ⟨b, -, hr⟩ :=
    Formula.verdict_of_policy h fun l hl => policy_of_mem_leaves h l hl ▸ hv l
  rw [hr]
  cases b with
  | true => exact hwp.symm
  | false => exact hw.symm

end

end ProjectRule

namespace Slice

variable {s : Slice} {g : Graph} {r : ProjectRule}

/-- The rule of the slice applies to the thing whose terms are true as `hit` says. -/
def Applies (s : Slice) (g : Graph) (policy : Policy) (hit : ProjectLeaf → Bool)
    (rule : String) : Prop :=
  Formula.Applies (ProjectLeaf.ofText g policy s.maxDepth) hit rule.toList

def Encloses (s : Slice) (p : Project) : Prop :=
  ∃ group ∈ p.groups, ∃ root ∈ s.roots, ∃ m,
    Matcher.ofTerm root.toList = .ok m ∧ m.accepts group = true

/-- The tests of the projects that a slice drops by itself, where `ms` are its root terms. -/
def dropped (s : Slice) (ms : List Matcher) : List ProjectTest :=
  .ignored :: ((if s.keepExternal then [] else [.external]) ++
    if s.roots.isEmpty then [] else [.not (.group ms)])

theorem rule_eq_ok (h : s.rule g = .ok r) :
    ∃ additions removals ms,
      List.Forall₂ (fun (t : String) f =>
        ProjectRule.ofText g .including s.maxDepth t.toList = .ok f) s.added additions ∧
      List.Forall₂ (fun (t : String) f =>
        ProjectRule.ofText g .excluding s.maxDepth t.toList = .ok f) s.removed removals ∧
      List.Forall₂ (fun (t : String) m => Matcher.ofTerm t.toList = .ok m) s.roots ms ∧
      r = .any (additions ++ (removals ++
        (s.dropped ms).map fun t => ProjectRule.ofTest t .excluding)) := by
  unfold rule at h
  obtain ⟨additions, hadd, h⟩ := exists_of_bind_eq_ok h
  obtain ⟨removals, hrem, h⟩ := exists_of_bind_eq_ok h
  refine ⟨additions, removals, ?_⟩
  by_cases hempty : s.roots.isEmpty = true
  · simp only [hempty, if_true] at h
    cases h
    rw [List.isEmpty_iff] at hempty
    refine ⟨[], forall₂_of_mapM_eq_ok hadd, forall₂_of_mapM_eq_ok hrem, hempty ▸ .nil, ?_⟩
    cases hk : s.keepExternal <;>
      simp [dropped, hempty, hk, ProjectRule.dropIgnored, ProjectRule.dropExternal]
  · simp only [hempty, if_false, Bool.false_eq_true] at h
    unfold ProjectRule.keepRoots at h
    cases hms : s.roots.mapM fun t => Matcher.ofTerm t.toList with
    | error e =>
        rw [hms] at h
        cases h
    | ok ms =>
        rw [hms] at h
        cases h
        refine ⟨ms, forall₂_of_mapM_eq_ok hadd, forall₂_of_mapM_eq_ok hrem,
          forall₂_of_mapM_eq_ok hms, ?_⟩
        cases hk : s.keepExternal <;>
          simp [dropped, hempty, hk, ProjectRule.dropIgnored, ProjectRule.dropExternal]

section

variable {v : ProjectLeaf → Verdict} {hit : ProjectLeaf → Bool}

theorem including_parts (hv : ∀ l, v l = .ofMatch l.policy (hit l)) {fs : List ProjectRule}
    (h : List.Forall₂ (fun (t : String) f =>
      ProjectRule.ofText g .including s.maxDepth t.toList = .ok f) s.added fs) :
    (∀ f ∈ fs, f.verdict v ≠ .excluded) ∧
      ((∃ f ∈ fs, f.verdict v = .included) ↔ ∃ t ∈ s.added, s.Applies g .including hit t) ∧
      ((∀ f ∈ fs, f.keepsByDefault ProjectLeaf.policy = true) ↔ s.added = []) := by
  refine ⟨?_, ?_, ?_⟩
  · refine forall_mem_of_forall₂ (fun t f hf => ?_) h
    exact ProjectRule.verdict_ne_of_ne hv hf Verdict.noConfusion Verdict.noConfusion
  · have happlies (t : String) (f : ProjectRule)
        (hf : ProjectRule.ofText g .including s.maxDepth t.toList = .ok f) :
        s.Applies g .including hit t ↔ f.verdict v = .included :=
      (ProjectRule.verdict_eq_iff hv hf).symm
    exact (exists_congr_of_forall₂ happlies h).symm
  · have hnever (t : String) (f : ProjectRule)
        (hf : ProjectRule.ofText g .including s.maxDepth t.toList = .ok f) :
        False ↔ f.keepsByDefault ProjectLeaf.policy = true := by
      rw [ProjectRule.keepsByDefault_of_ofText hf]
      simp [Policy.keepsByDefault]
    rw [← forall_congr_of_forall₂ hnever h]
    exact List.eq_nil_iff_forall_not_mem.symm

theorem excluding_parts (hv : ∀ l, v l = .ofMatch l.policy (hit l)) {fs : List ProjectRule}
    (h : List.Forall₂ (fun (t : String) f =>
      ProjectRule.ofText g .excluding s.maxDepth t.toList = .ok f) s.removed fs) :
    ((∀ f ∈ fs, f.verdict v ≠ .excluded) ↔ ∀ t ∈ s.removed, ¬ s.Applies g .excluding hit t) ∧
      (∀ f ∈ fs, f.verdict v ≠ .included) ∧
      ∀ f ∈ fs, f.keepsByDefault ProjectLeaf.policy = true := by
  refine ⟨?_, ?_, ?_⟩
  · have happlies (t : String) (f : ProjectRule)
        (hf : ProjectRule.ofText g .excluding s.maxDepth t.toList = .ok f) :
        ¬ s.Applies g .excluding hit t ↔ f.verdict v ≠ .excluded :=
      not_congr (ProjectRule.verdict_eq_iff hv hf).symm
    exact (forall_congr_of_forall₂ happlies h).symm
  · refine forall_mem_of_forall₂ (fun t f hf => ?_) h
    exact ProjectRule.verdict_ne_of_ne hv hf Verdict.noConfusion Verdict.noConfusion
  · exact forall_mem_of_forall₂ (fun t f hf => ProjectRule.keepsByDefault_of_ofText hf) h

theorem dropping_parts (hv : ∀ l, v l = .ofMatch l.policy (hit l)) (ts : List ProjectTest) :
    ((∀ f ∈ ts.map fun t => ProjectRule.ofTest t .excluding, f.verdict v ≠ .excluded) ↔
        ∀ t ∈ ts, hit (.test ⟨t, .excluding⟩) = false) ∧
      (∀ f ∈ ts.map fun t => ProjectRule.ofTest t .excluding, f.verdict v ≠ .included) ∧
      ∀ f ∈ ts.map fun t => ProjectRule.ofTest t .excluding,
        f.keepsByDefault ProjectLeaf.policy = true := by
  have hone (t : ProjectTest) : (ProjectRule.ofTest t .excluding).verdict v =
      .ofMatch .excluding (hit (.test ⟨t, .excluding⟩)) := hv _
  simp only [List.forall_mem_map, hone]
  refine ⟨forall₂_congr fun t _ => ?_, fun t _ => ?_, fun t _ => rfl⟩
  · cases hit (.test ⟨t, .excluding⟩) <;> simp [Policy.verdict]
  · cases hit (.test ⟨t, .excluding⟩) <;> simp [Policy.verdict]

/-- What a slice keeps, for anything whose terms are true as `hit` says. -/
theorem keeps_iff_of_judged (h : s.rule g = .ok r) (hv : ∀ l, v l = .ofMatch l.policy (hit l)) :
    ∃ ms, List.Forall₂ (fun (t : String) m => Matcher.ofTerm t.toList = .ok m) s.roots ms ∧
      (r.keeps ProjectLeaf.policy v = true ↔
        (∀ t ∈ s.dropped ms, hit (.test ⟨t, .excluding⟩) = false) ∧
          (∀ t ∈ s.removed, ¬ s.Applies g .excluding hit t) ∧
          (s.added = [] ∨ ∃ t ∈ s.added, s.Applies g .including hit t)) := by
  obtain ⟨additions, removals, ms, hadd, hrem, hms, rfl⟩ := rule_eq_ok h
  obtain ⟨hadd₁, hadd₂, hadd₃⟩ := including_parts hv hadd
  obtain ⟨hrem₁, hrem₂, hrem₃⟩ := excluding_parts hv hrem
  obtain ⟨hdrop₁, hdrop₂, hdrop₃⟩ := dropping_parts hv (s.dropped ms)
  refine ⟨ms, hms, ?_⟩
  rw [Formula.keeps_any_iff]
  constructor
  · rintro ⟨hno, hkeep⟩
    simp only [List.forall_mem_append] at hno hkeep
    refine ⟨hdrop₁.mp hno.2.2, hrem₁.mp hno.2.1, ?_⟩
    -- only an adding rule ever includes, and only the adding rules drop by default
    rcases hkeep with ⟨f, hf, hin⟩ | hkeep
    · simp only [List.mem_append] at hf
      rcases hf with hf | hf | hf
      · exact Or.inr (hadd₂.mp ⟨f, hf, hin⟩)
      · exact absurd hin (hrem₂ f hf)
      · exact absurd hin (hdrop₂ f hf)
    · exact Or.inl (hadd₃.mp hkeep.1)
  · rintro ⟨hdrop, hrem, hkeep⟩
    simp only [List.forall_mem_append]
    refine ⟨⟨hadd₁, hrem₁.mpr hrem, hdrop₁.mpr hdrop⟩, ?_⟩
    rcases hkeep with hnil | hsome
    · exact Or.inr ⟨hadd₃.mpr hnil, hrem₃, hdrop₃⟩
    · obtain ⟨f, hf, hin⟩ := hadd₂.mpr hsome
      exact Or.inl ⟨f, List.mem_append_left _ hf, hin⟩

end

/-- The root terms keep the project that they enclose. -/
theorem not_group_holds_eq_false_iff {ms : List Matcher}
    (hms : List.Forall₂ (fun (t : String) m => Matcher.ofTerm t.toList = .ok m) s.roots ms)
    (p : Project) : (ProjectTest.not (.group ms)).holds p = false ↔ s.Encloses p := by
  have hone (group : String) (t : String) (m : Matcher) (hm : Matcher.ofTerm t.toList = .ok m) :
      (∃ m, Matcher.ofTerm t.toList = .ok m ∧ m.accepts group = true) ↔
        m.accepts group = true := by
    simp [hm]
  simp only [ProjectTest.holds, Bool.not_eq_false', List.any_eq_true, Encloses,
    exists_congr_of_forall₂ (hone _) hms]

theorem forall_mem_dropped_iff {ms : List Matcher} {P : ProjectTest → Prop} :
    (∀ t ∈ s.dropped ms, P t) ↔
      P .ignored ∧ (s.keepExternal = true ∨ P .external) ∧
        (s.roots = [] ∨ P (.not (.group ms))) := by
  cases hk : s.keepExternal <;> cases hr : s.roots <;> simp [dropped, hk, hr]

/-- A slice keeps a project that is not ignored, not external unless wanted, enclosed by the
root terms if there are any, to which no removing rule applies and, if there are adding rules,
one of them applies. It keeps a dependency by the same rule, where both ends must be of that
kind and the terms are read of dependencies. -/
theorem keeps_iff (h : s.rule g = .ok r) :
    (∀ p, r.keepsProject p = true ↔
      p.ignored = false ∧ (s.keepExternal = true ∨ p.isExternal = false) ∧
        (s.roots = [] ∨ s.Encloses p) ∧
        (∀ t ∈ s.removed, ¬ s.Applies g .excluding (·.holdsOf p) t) ∧
        (s.added = [] ∨ ∃ t ∈ s.added, s.Applies g .including (·.holdsOf p) t)) ∧
    ∀ k, r.keepsLink k = true ↔
      (k.source.ignored = false ∧ k.target.ignored = false) ∧
        (s.keepExternal = true ∨ k.source.isExternal = false ∧ k.target.isExternal = false) ∧
        (s.roots = [] ∨ s.Encloses k.source ∧ s.Encloses k.target) ∧
        (∀ t ∈ s.removed, ¬ s.Applies g .excluding (·.holdsOfLink k) t) ∧
        (s.added = [] ∨ ∃ t ∈ s.added, s.Applies g .including (·.holdsOfLink k) t) := by
  constructor
  · intro p
    obtain ⟨ms, hms, hkeeps⟩ := keeps_iff_of_judged h (ProjectLeaf.onProject_eq_ofMatch p)
    have hroots := not_group_holds_eq_false_iff hms p
    rw [forall_mem_dropped_iff, and_assoc, and_assoc] at hkeeps
    exact hkeeps.trans (and_congr_right' (and_congr_right' (and_congr_left' (or_congr_right hroots))))
  · intro k
    obtain ⟨ms, hms, hkeeps⟩ := keeps_iff_of_judged h (ProjectLeaf.onLink_eq_ofMatch k)
    have hends (t : ProjectTest) :
        ProjectLeaf.holdsOfLink k (.test ⟨t, .excluding⟩) = false ↔
          t.holds k.source = false ∧ t.holds k.target = false := Bool.or_eq_false_iff
    rw [forall_mem_dropped_iff, and_assoc, and_assoc, hends, hends, hends,
      not_group_holds_eq_false_iff hms, not_group_holds_eq_false_iff hms] at hkeeps
    exact hkeeps

/-- Where `web` depends on `core`, a slice that adds both and takes away `web` keeps `core`
alone. -/
theorem keeps_iff_of_two_projects :
    let s : Slice := { added := ["id:2 & !id:9 | id:1"], removed := ["id:1"] }
    ∃ g r core web link,
      Graph.ofRecords [.code "web" ["core"], .code "core" []] = .ok g ∧ s.rule g = .ok r ∧
      g.list .all = [core, web] ∧ g.allDependencies .all = [link] ∧
      (r.keepsProject core = true ∧ ∃ t ∈ s.added, s.Applies g .including (·.holdsOf core) t) ∧
      r.keepsProject web = false ∧ r.keepsLink link = false := by
  intro s
  have hkept {g : Graph} {r : ProjectRule} {p : Project} (h : s.rule g = .ok r)
      (hp : r.keepsProject p = true) :
      r.keepsProject p = true ∧ ∃ t ∈ s.added, s.Applies g .including (·.holdsOf p) t :=
    ⟨hp, (((keeps_iff h).1 p).mp hp).2.2.2.2.resolve_left (by decide)⟩
  refine ⟨_, _, _, _, _, by cbv, by cbv, by cbv, by cbv, hkept ?_ ?_, by cbv, by cbv⟩
  · cbv
  · cbv

end Slice

end Landscape
