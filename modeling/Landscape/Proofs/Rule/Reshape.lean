import Landscape.Proofs.Rule.Grammar
import Landscape.Proofs.Slice

namespace Landscape

/-!
# Formulas in other shapes

What a formula says does not depend on the order of its parts, on how often a part is given, or on
how far parts of one kind are nested. So two rules of one policy may be written as one.
-/

/-! ## Verdicts in common and merged -/

namespace Verdict

variable {vs ws : List Verdict}

/-- Two verdicts are one if they are the same wherever they are not neutral. -/
theorem eq_of_iff {v w : Verdict} (h : ∀ u, u ≠ neutral → (v = u ↔ w = u)) : v = w := by
  cases v with
  | neutral =>
      cases w with
      | neutral => rfl
      | included => exact (h included nofun).mpr rfl
      | excluded => exact (h excluded nofun).mpr rfl
  | included => exact ((h included nofun).mp rfl).symm
  | excluded => exact ((h excluded nofun).mp rfl).symm

theorem common_eq_iff {v : Verdict} (hv : v ≠ neutral) :
    common vs = v ↔ vs ≠ [] ∧ ∀ w ∈ vs, w = v := by
  cases vs with
  | nil => simp [common, Ne.symm hv]
  | cons u us =>
      have hall : us.all (· == u) = true ↔ ∀ w ∈ us, w = u := by simp
      simp only [common, hall]
      split
      · rename_i hsame
        simp only [ne_eq, reduceCtorEq, not_false_eq_true, true_and, List.forall_mem_cons]
        exact ⟨fun hu => ⟨hu, hu ▸ hsame⟩, And.left⟩
      · rename_i hsame
        simp only [Ne.symm hv, ne_eq, reduceCtorEq, not_false_eq_true, true_and,
          List.forall_mem_cons, false_iff]
        rintro ⟨rfl, hus⟩
        exact hsame hus

theorem common_congr (h : ∀ v, v ∈ vs ↔ v ∈ ws) : common vs = common ws := by
  refine eq_of_iff fun u hu => ?_
  rw [common_eq_iff hu, common_eq_iff hu, ne_eq, ne_eq, List.eq_nil_iff_forall_not_mem,
    List.eq_nil_iff_forall_not_mem]
  simp only [h]

theorem mergeAll_congr (h : ∀ v, v ∈ vs ↔ v ∈ ws) : mergeAll vs = mergeAll ws := by
  refine eq_of_iff fun u hu => ?_
  cases u with
  | neutral => exact absurd rfl hu
  | included => rw [mergeAll_eq_included_iff, mergeAll_eq_included_iff, h, h]
  | excluded => rw [mergeAll_eq_excluded_iff, mergeAll_eq_excluded_iff, h]

theorem mergeAll_append (vs ws : List Verdict) :
    mergeAll (vs ++ ws) = (mergeAll vs).merge (mergeAll ws) := by
  rw [mergeAll, List.foldl_append, foldl_merge]
  rfl

theorem common_splice (before after : List Verdict) (hvs : vs ≠ []) :
    common (before ++ common vs :: after) = common (before ++ (vs ++ after)) := by
  refine eq_of_iff fun u hu => ?_
  rw [common_eq_iff hu, common_eq_iff hu]
  simp only [List.forall_mem_append, List.forall_mem_cons, common_eq_iff hu]
  simp [hvs]

theorem mergeAll_splice (before after : List Verdict) :
    mergeAll (before ++ mergeAll vs :: after) = mergeAll (before ++ (vs ++ after)) := by
  rw [mergeAll_append, mergeAll_cons, mergeAll_append, mergeAll_append]

end Verdict

/-! ## The two ways of joining -/

/-- What parts of a formula are joined by. -/
inductive Connective where
  | all
  | any

namespace Connective

def verdict : Connective → List Verdict → Verdict
  | all => Verdict.common
  | any => Verdict.mergeAll

variable {vs ws : List Verdict}

theorem verdict_congr (j : Connective) (h : ∀ v, v ∈ vs ↔ v ∈ ws) :
    j.verdict vs = j.verdict ws := by
  cases j with
  | all => exact Verdict.common_congr h
  | any => exact Verdict.mergeAll_congr h

theorem verdict_singleton (j : Connective) (v : Verdict) : j.verdict [v] = v := by
  cases j with
  | all => rfl
  | any => exact Verdict.neutral_merge v

theorem verdict_splice (j : Connective) (before after : List Verdict) (hvs : vs ≠ []) :
    j.verdict (before ++ j.verdict vs :: after) = j.verdict (before ++ (vs ++ after)) := by
  cases j with
  | all => exact Verdict.common_splice before after hvs
  | any => exact Verdict.mergeAll_splice before after

end Connective

namespace Formula

variable {α : Type}

def join : Connective → List (Formula α) → Formula α
  | .all => all
  | .any => any

theorem verdict_join (j : Connective) (v : α → Verdict) (fs : List (Formula α)) :
    (join j fs).verdict v = j.verdict (fs.map (verdict v)) := by
  cases j with
  | all => exact verdict_all v fs
  | any => exact verdict_any v fs

/-- A thing that the formula is neutral on stays if each part would keep it. -/
theorem keepsByDefault_join (j : Connective) (policy : α → Policy) (fs : List (Formula α)) :
    (join j fs).keepsByDefault policy = fs.all (keepsByDefault policy) := by
  cases j with
  | all => exact keepsByDefault_any policy fs
  | any => exact keepsByDefault_any policy fs

/-! ## Reshaping -/

/-- The one formula becomes the other by steps that may be taken at any place in it: to change the
order of parts that are joined, to give a part twice, to leave out a connective that joins nothing
or to leave out one inside another of the same kind; and by the same steps backwards. -/
inductive Reshapes : Formula α → Formula α → Prop
  | permute (j : Connective) {fs gs : List (Formula α)} (h : fs.Perm gs) :
      Reshapes (join j fs) (join j gs)
  | double (j : Connective) (f : Formula α) (fs : List (Formula α)) :
      Reshapes (join j (f :: fs)) (join j (f :: f :: fs))
  | single (j : Connective) (f : Formula α) : Reshapes (join j [f]) f
  | splice (j : Connective) (before : List (Formula α)) {fs : List (Formula α)}
      (after : List (Formula α)) (h : fs ≠ []) :
      Reshapes (join j (before ++ join j fs :: after)) (join j (before ++ (fs ++ after)))
  | inside (j : Connective) (before : List (Formula α)) {f g : Formula α}
      (after : List (Formula α)) (h : Reshapes f g) :
      Reshapes (join j (before ++ f :: after)) (join j (before ++ g :: after))
  | refl (f : Formula α) : Reshapes f f
  | symm {f g : Formula α} (h : Reshapes f g) : Reshapes g f
  | trans {f g k : Formula α} (h : Reshapes f g) (h' : Reshapes g k) : Reshapes f k

namespace Reshapes

variable {f g : Formula α}

theorem verdict_eq (h : f.Reshapes g) (v : α → Verdict) : f.verdict v = g.verdict v := by
  induction h with
  | permute j hperm =>
      rw [verdict_join, verdict_join]
      exact j.verdict_congr fun u => (hperm.map _).mem_iff
  | double j f fs =>
      rw [verdict_join, verdict_join]
      exact j.verdict_congr fun u => by simp
  | single j f =>
      rw [verdict_join]
      exact j.verdict_singleton _
  | splice j before after hne =>
      rw [verdict_join, verdict_join, List.map_append, List.map_cons, verdict_join,
        j.verdict_splice _ _ (by simpa using hne), List.map_append, List.map_append]
  | inside j before after _ ih =>
      rw [verdict_join, verdict_join, List.map_append, List.map_append, List.map_cons,
        List.map_cons, ih]
  | refl f => rfl
  | symm _ ih => exact ih.symm
  | trans _ _ ih ih' => exact ih.trans ih'

theorem keepsByDefault_eq (h : f.Reshapes g) (policy : α → Policy) :
    f.keepsByDefault policy = g.keepsByDefault policy := by
  induction h with
  | permute j hperm =>
      rw [keepsByDefault_join, keepsByDefault_join]
      exact hperm.all_eq
  | double j f fs => simp [keepsByDefault_join]
  | single j f => simp [keepsByDefault_join]
  | splice j before after _ => simp [keepsByDefault_join]
  | inside j before after _ ih => simp [keepsByDefault_join, ih]
  | refl f => rfl
  | symm _ ih => exact ih.symm
  | trans _ _ ih ih' => exact ih.trans ih'

theorem settle_eq (h : f.Reshapes g) (policy : α → Policy) (u : Verdict) :
    f.settle policy u = g.settle policy u := by
  cases u with
  | neutral => exact h.keepsByDefault_eq policy
  | included => rfl
  | excluded => rfl

theorem keeps_eq (h : f.Reshapes g) (policy : α → Policy) (v : α → Verdict) :
    f.keeps policy v = g.keeps policy v := by
  rw [keeps, keeps, h.verdict_eq v]
  exact h.settle_eq policy _

end Reshapes

/-! ## One rule for two -/

/-- The rule is what the texts `x` and `y` give with a bar between them. -/
def Chooses (rule x y : List Char) : Prop :=
  ∃ x' y', rule = x' ++ '|' :: y' ∧ Text.trim x' = Text.trim x ∧ Text.trim y' = Text.trim y

section

open Text

variable {term : List Char → Except RuleError α} {rule x y : List Char}

theorem pieces_of_chooses (h : Chooses rule x y) : pieces rule = pieces x ++ pieces y := by
  obtain ⟨x', y', rfl, hx, hy⟩ := h
  have hbar (c : Char) (hc : isBlank c = true) : (c == '|') = false := by
    have hmark := isMark_eq_false_of_isBlank c hc
    unfold isMark at hmark
    simpa using (Bool.or_eq_false_iff.mp hmark).1
  have hpieces (s : List Char) : pieces s =
      ((s.splitOn '|').map trim).map fun piece => (piece.splitOn '&').map trim := by
    have htrim : ((trim s).splitOn '|').map trim = (s.splitOn '|').map trim :=
      map_trim_splitOnP_trim hbar s
    rw [← htrim, List.map_map]
    rfl
  have hcut : pieces (x' ++ '|' :: y') = pieces x' ++ pieces y' := by
    rw [hpieces, hpieces, hpieces, List.splitOn_append_cons_self, List.map_append, List.map_append]
  rw [hcut, pieces, pieces, hx, hy]
  rfl

theorem pieces_of_blank (h : trim rule = []) : pieces rule = [[[]]] := by
  unfold pieces
  rw [h]
  rfl

theorem trim_ne_nil_of_chooses (h : Chooses rule x y) : trim rule ≠ [] := by
  intro hblank
  have hlength := congrArg List.length (pieces_of_chooses h)
  have hx := List.length_pos_iff.mpr (pieces_ne_nil x)
  have hy := List.length_pos_iff.mpr (pieces_ne_nil y)
  rw [pieces_of_blank hblank, List.length_append, List.length_singleton] at hlength
  omega

end

/-! ## Shapes of choices -/

theorem anyOf_reshapes (cs : List (List α)) : (anyOf cs).Reshapes (any (cs.map allOf)) := by
  unfold anyOf
  split
  · exact (Reshapes.single .any _).symm
  · exact .refl _

theorem reshapes_clauses (before after : List (Formula α)) {cs : List (List α)} (h : cs ≠ []) :
    (any (before ++ anyOf cs :: after)).Reshapes (any (before ++ (cs.map allOf ++ after))) :=
  (Reshapes.inside .any before after (anyOf_reshapes cs)).trans
    (.splice .any before after (by simpa using h))

theorem reshapes_parts (before after : List (Formula α)) {cs ds : List (List α)} (hcs : cs ≠ [])
    (hds : ds ≠ []) : (any (before ++ anyOf (cs ++ ds) :: after)).Reshapes
      (any (before ++ anyOf cs :: anyOf ds :: after)) := by
  have hne : cs ++ ds ≠ [] := by simp [hcs]
  have hone := reshapes_clauses before after hne
  have hfirst := reshapes_clauses before (anyOf ds :: after) hcs
  have hsecond := reshapes_clauses (before ++ cs.map allOf) after hds
  rw [List.map_append, List.append_assoc, ← List.append_assoc] at hone
  rw [← List.append_assoc] at hfirst
  exact hone.trans (hfirst.trans hsecond).symm

/-! ## Reading one rule and two -/

section

open Text

variable {term : List Char → Except RuleError α} {rule x y : List Char} {f fx fy : Formula α}

/-- The pieces of the rule are terms that stand for the leaves `cs`. -/
def ReadsAs (term : List Char → Except RuleError α) (rule : List Char) (cs : List (List α)) : Prop :=
  List.Forall₂ (List.Forall₂ fun t a => t ≠ [] ∧ term t = .ok a) (pieces rule) cs

theorem ReadsAs.trim_ne_nil {cs : List (List α)} (h : ReadsAs term rule cs) : trim rule ≠ [] := by
  intro hblank
  unfold ReadsAs at h
  rw [pieces_of_blank hblank] at h
  cases h with
  | cons hclause _ =>
      cases hclause with
      | cons hterm _ => exact hterm.1 rfl

theorem ReadsAs.ofRule_eq {cs : List (List α)} (h : ReadsAs term rule cs) :
    ofRule term rule = .ok (anyOf cs) :=
  (ofRule_eq_ok_iff h.trim_ne_nil).mpr ⟨cs, h, rfl⟩

theorem ReadsAs.reshapes {cs ds : List (List α)} (hcs : ReadsAs term x cs)
    (hds : ReadsAs term y ds) (before after : List (Formula α)) :
    (any (before ++ anyOf (cs ++ ds) :: after)).Reshapes
      (any (before ++ anyOf cs :: anyOf ds :: after)) :=
  reshapes_parts before after (ne_nil_of_forall₂_pieces hcs).1 (ne_nil_of_forall₂_pieces hds).1

/-- A rule with a bar is read as two rules, and these may take its place among any others. -/
theorem exists_two_of_ofRule (h : Chooses rule x y) (hf : ofRule term rule = .ok f) :
    ∃ fx fy, ofRule term x = .ok fx ∧ ofRule term y = .ok fy ∧
      ∀ before after, (any (before ++ f :: after)).Reshapes (any (before ++ fx :: fy :: after)) := by
  obtain ⟨as, has, rfl⟩ := (ofRule_eq_ok_iff (trim_ne_nil_of_chooses h)).mp hf
  rw [pieces_of_chooses h] at has
  obtain ⟨cs, ds, hcs, hds, rfl⟩ := forall₂_append_left_iff.mp has
  have hx : ReadsAs term x cs := hcs
  have hy : ReadsAs term y ds := hds
  exact ⟨anyOf cs, anyOf ds, hx.ofRule_eq, hy.ofRule_eq, hx.reshapes hy⟩

/-- Two rules that are not blank are read as one with a bar between them. -/
theorem exists_one_of_ofRule (h : Chooses rule x y) (hx : trim x ≠ []) (hy : trim y ≠ [])
    (hfx : ofRule term x = .ok fx) (hfy : ofRule term y = .ok fy) :
    ∃ f, ofRule term rule = .ok f ∧
      ∀ before after, (any (before ++ f :: after)).Reshapes (any (before ++ fx :: fy :: after)) := by
  obtain ⟨cs, hcs, rfl⟩ := (ofRule_eq_ok_iff hx).mp hfx
  obtain ⟨ds, hds, rfl⟩ := (ofRule_eq_ok_iff hy).mp hfy
  have hx : ReadsAs term x cs := hcs
  have hy : ReadsAs term y ds := hds
  have hrule : ReadsAs term rule (cs ++ ds) := by
    unfold ReadsAs
    rw [pieces_of_chooses h]
    exact forall₂_append_left_iff.mpr ⟨cs, ds, hcs, hds, rfl⟩
  exact ⟨anyOf (cs ++ ds), hrule.ofRule_eq, hx.reshapes hy⟩

end

end Formula

namespace Slice

open Text

variable {s : Slice} {g : Graph}

/-- The texts are read as the formulas, in rules of one polarity. -/
def ReadsAs (s : Slice) (g : Graph) (policy : Policy) : List String → List ProjectRule → Prop :=
  List.Forall₂ fun t f => ProjectRule.ofText g policy s.maxDepth t.toList = .ok f

/-- A slice whose parts are read is read. -/
theorem rule_eq_of_parts {additions removals : List ProjectRule} {ms : List Matcher}
    (hadd : s.ReadsAs g .including s.added additions)
    (hrem : s.ReadsAs g .excluding s.removed removals)
    (hms : List.Forall₂ (fun (t : String) m => Matcher.ofTerm t.toList = .ok m) s.roots ms) :
    s.rule g = .ok (.any (additions ++ (removals ++
      (s.dropped ms).map fun t => ProjectRule.ofTest t .excluding))) := by
  have hroots : ProjectRule.keepRoots s.roots =
      .ok (ProjectRule.ofTest (.not (.group ms)) .excluding) := by
    unfold ProjectRule.keepRoots
    rw [bind_eq_of_eq_ok (mapM_eq_ok_iff.mpr hms)]
    rfl
  unfold rule
  rw [bind_eq_of_eq_ok (mapM_eq_ok_iff.mpr hadd), bind_eq_of_eq_ok (mapM_eq_ok_iff.mpr hrem)]
  dsimp only
  cases hr : s.roots.isEmpty with
  | true =>
      cases hk : s.keepExternal <;>
        simp [dropped, hk, hr, ProjectRule.dropIgnored, ProjectRule.dropExternal] <;> rfl
  | false =>
      cases hk : s.keepExternal <;>
        simp [dropped, hk, hr, hroots, ProjectRule.dropIgnored, ProjectRule.dropExternal]

/-- The formulas may take the place of the others among any. -/
def Replaces (fs fs' : List ProjectRule) : Prop :=
  ∀ left right, (Formula.any (left ++ (fs ++ right))).Reshapes (.any (left ++ (fs' ++ right)))

section

variable {policy : Policy} {rule x y : String} {before after : List String}
  {fs : List ProjectRule} (h : Formula.Chooses rule.toList x.toList y.toList)

include h

theorem exists_two_of_readsAs (hfs : s.ReadsAs g policy (before ++ rule :: after) fs) :
    ∃ fs', s.ReadsAs g policy (before ++ x :: y :: after) fs' ∧ Replaces fs fs' := by
  obtain ⟨first, rest, hfirst, hrest, rfl⟩ := forall₂_append_left_iff.mp hfs
  obtain ⟨f, last, hf, hlast, rfl⟩ := List.forall₂_cons_left_iff.mp hrest
  obtain ⟨fx, fy, hfx, hfy, hreshapes⟩ := Formula.exists_two_of_ofRule h hf
  refine ⟨first ++ fx :: fy :: last, ?_, fun left right => ?_⟩
  · exact forall₂_append_left_iff.mpr ⟨first, _, hfirst, .cons hfx (.cons hfy hlast), rfl⟩
  · simpa using hreshapes (left ++ first) (last ++ right)

theorem exists_one_of_readsAs (hx : trim x.toList ≠ []) (hy : trim y.toList ≠ [])
    (hfs : s.ReadsAs g policy (before ++ x :: y :: after) fs) :
    ∃ fs', s.ReadsAs g policy (before ++ rule :: after) fs' ∧ Replaces fs fs' := by
  obtain ⟨first, rest, hfirst, hrest, rfl⟩ := forall₂_append_left_iff.mp hfs
  obtain ⟨fx, rest, hfx, hlater, rfl⟩ := List.forall₂_cons_left_iff.mp hrest
  obtain ⟨fy, last, hfy, hlast, rfl⟩ := List.forall₂_cons_left_iff.mp hlater
  obtain ⟨f, hf, hreshapes⟩ := Formula.exists_one_of_ofRule h hx hy hfx hfy
  refine ⟨first ++ f :: last, ?_, fun left right => ?_⟩
  · exact forall₂_append_left_iff.mpr ⟨first, _, hfirst, .cons hf hlast, rfl⟩
  · simpa using (hreshapes (left ++ first) (last ++ right)).symm

end

/-- If the one slice is read, then so is the other, and both keep the same. -/
def KeepsAs (g : Graph) (s t : Slice) : Prop :=
  ∀ r, s.rule g = .ok r → ∃ r', t.rule g = .ok r' ∧
    (∀ p, r.keepsProject p = r'.keepsProject p) ∧ ∀ k, r.keepsLink k = r'.keepsLink k

variable {texts texts' : List String}

theorem keepsAs_of_added
    (h : ∀ fs, s.ReadsAs g .including texts fs →
      ∃ fs', s.ReadsAs g .including texts' fs' ∧ Replaces fs fs') :
    KeepsAs g { s with added := texts } { s with added := texts' } := by
  intro r hr
  obtain ⟨additions, removals, ms, hadd, hrem, hms, rfl⟩ := rule_eq_ok hr
  obtain ⟨additions', hadd', hreplaces⟩ := h additions hadd
  refine ⟨_, rule_eq_of_parts hadd' hrem hms, fun p => ?_, fun k => ?_⟩
  · exact (hreplaces [] _).keeps_eq ProjectLeaf.policy (ProjectLeaf.onProject p)
  · exact (hreplaces [] _).keeps_eq ProjectLeaf.policy (ProjectLeaf.onLink k)

theorem keepsAs_of_removed
    (h : ∀ fs, s.ReadsAs g .excluding texts fs →
      ∃ fs', s.ReadsAs g .excluding texts' fs' ∧ Replaces fs fs') :
    KeepsAs g { s with removed := texts } { s with removed := texts' } := by
  intro r hr
  obtain ⟨additions, removals, ms, hadd, hrem, hms, rfl⟩ := rule_eq_ok hr
  obtain ⟨removals', hrem', hreplaces⟩ := h removals hrem
  refine ⟨_, rule_eq_of_parts hadd hrem' hms, fun p => ?_, fun k => ?_⟩
  · exact (hreplaces additions _).keeps_eq ProjectLeaf.policy (ProjectLeaf.onProject p)
  · exact (hreplaces additions _).keeps_eq ProjectLeaf.policy (ProjectLeaf.onLink k)

end Slice

/-- A formula of another shape has the same verdict on everything, settles every verdict alike and
keeps the same. So a rule with a bar, among any others that add to a slice or take away from it,
keeps the same projects and dependencies as the two rules that it is parted into; and these may be
written as one unless one of them is blank. -/
theorem reshapes_keep :
    (∀ (α : Type) (f g : Formula α), f.Reshapes g → ∀ policy v, f.verdict v = g.verdict v ∧
      (∀ u, f.settle policy u = g.settle policy u) ∧ f.keeps policy v = g.keeps policy v) ∧
    ∀ (g : Graph) (s : Slice) (rule x y : String) (before after : List String),
      Formula.Chooses rule.toList x.toList y.toList →
        (Slice.KeepsAs g { s with added := before ++ rule :: after }
            { s with added := before ++ x :: y :: after } ∧
          Slice.KeepsAs g { s with removed := before ++ rule :: after }
            { s with removed := before ++ x :: y :: after }) ∧
        (Text.trim x.toList ≠ [] → Text.trim y.toList ≠ [] →
          Slice.KeepsAs g { s with added := before ++ x :: y :: after }
            { s with added := before ++ rule :: after } ∧
          Slice.KeepsAs g { s with removed := before ++ x :: y :: after }
            { s with removed := before ++ rule :: after }) := by
  refine ⟨fun α f g h policy v => ?_, fun g s rule x y before after h => ⟨⟨?_, ?_⟩, ?_⟩⟩
  · exact ⟨h.verdict_eq v, h.settle_eq policy, h.keeps_eq policy v⟩
  · exact Slice.keepsAs_of_added fun fs => Slice.exists_two_of_readsAs h
  · exact Slice.keepsAs_of_removed fun fs => Slice.exists_two_of_readsAs h
  · intro hx hy
    constructor
    · exact Slice.keepsAs_of_added fun fs => Slice.exists_one_of_readsAs h hx hy
    · exact Slice.keepsAs_of_removed fun fs => Slice.exists_one_of_readsAs h hx hy

/-- A choice that one leaf is nested in a second time, and a rule for two projects beside the two
rules that it is parted into. -/
theorem reshapes_keep_of_names :
    let adds : Formula Policy := .leaf .including
    let drops : Formula Policy := .leaf .excluding
    let one : Slice := { added := ["id:3"] ++ ["id:1 & !id:2 | id:2"] }
    let two : Slice := { added := ["id:3"] ++ ["id:1 & !id:2", "id:2"] }
    ((Formula.any [drops, .any [adds, drops]]).Reshapes (.any [drops, adds]) ∧
      (Formula.any [drops, .any [adds, drops]]).verdict Policy.verdict =
        (Formula.any [drops, adds]).verdict Policy.verdict ∧
      (Formula.any [drops, adds]).verdict Policy.verdict = .excluded) ∧
    (Formula.Chooses "id:1 & !id:2 | id:2".toList "id:1 & !id:2".toList "id:2".toList ∧
      Text.trim "id:1 & !id:2".toList ≠ [] ∧ Text.trim "id:2".toList ≠ []) ∧
    ∃ graph r, Graph.ofRecords [.code "web" ["core"], .code "core" []] = .ok graph ∧
      two.rule graph = .ok r ∧ (graph.allDependencies .all).map r.keepsLink = [false] ∧
      ∃ r', one.rule graph = .ok r' ∧ (∀ p, r.keepsProject p = r'.keepsProject p) ∧
        ∀ k, r.keepsLink k = r'.keepsLink k := by
  intro adds drops one two
  have hsplice : (Formula.any [drops, .any [adds, drops]]).Reshapes (.any [drops, adds, drops]) :=
    .splice .any [drops] [] (List.cons_ne_nil adds [drops])
  have hpermute : (Formula.any [drops, adds, drops]).Reshapes (.any [drops, drops, adds]) :=
    .permute .any (.cons _ (.swap _ _ _))
  have hdouble : (Formula.any [drops, adds]).Reshapes (.any [drops, drops, adds]) :=
    .double .any drops [adds]
  have hreshapes := hsplice.trans (hpermute.trans hdouble.symm)
  have hrule : Formula.Chooses "id:1 & !id:2 | id:2".toList "id:1 & !id:2".toList
      "id:2".toList :=
    ⟨"id:1 & !id:2 ".toList, " id:2".toList, by decide, by decide, by decide⟩
  have hx : Text.trim "id:1 & !id:2".toList ≠ [] := by decide
  have hy : Text.trim "id:2".toList ≠ [] := by decide
  refine ⟨⟨hreshapes, (reshapes_keep.1 _ _ _ hreshapes id _).1, by decide⟩, ⟨hrule, hx, hy⟩, _, _,
    by cbv, by cbv, by cbv, ?_⟩
  refine ((reshapes_keep.2 _ {} _ _ _ ["id:3"] [] hrule).2 hx hy).1 _ ?_
  cbv

end Landscape
