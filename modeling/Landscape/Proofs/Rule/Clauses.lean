import Landscape.Rule.Clauses
import Landscape.Proofs.Rule.Formula
import Landscape.Proofs.Runs
import Mathlib.Data.List.DropRight

namespace Landscape

/-!
# The meaning of clauses

A rule that can be read is a choice of pieces, each a list of terms. Its formula says what
the terms say: in a rule of one polarity it matches where all terms of some piece match, and
is neutral elsewhere.
-/

open Text

namespace Text

theorem trimStart_trimStart (s : List Char) : trimStart (trimStart s) = trimStart s :=
  List.dropWhile_idempotent isBlank s

theorem trimEnd_trimEnd (s : List Char) : trimEnd (trimEnd s) = trimEnd s :=
  List.rdropWhile_idempotent isBlank s

/-- A text that begins with no blank still begins with none when its end is cut. -/
theorem trimStart_trimEnd {s : List Char} (h : trimStart s = s) :
    trimStart (trimEnd s) = trimEnd s := by
  obtain ⟨t, ht⟩ : trimEnd s <+: s := List.rdropWhile_prefix isBlank s
  cases hs : trimEnd s with
  | nil => rfl
  | cons c cs =>
      have hc : isBlank c = false := by
        rw [hs] at ht
        rw [← ht, List.cons_append, trimStart] at h
        by_contra hb
        have hle := (List.dropWhile_sublist isBlank (l := cs ++ t)).length_le
        rw [List.dropWhile_cons_of_pos (by simpa using hb)] at h
        rw [h] at hle
        simp only [List.length_cons, List.length_append] at hle
        omega
      exact List.dropWhile_cons_of_neg (by simp [hc])

@[simp] theorem trim_trim (s : List Char) : trim (trim s) = trim s := by
  unfold trim
  rw [trimStart_trimEnd (trimStart_trimStart s), trimEnd_trimEnd]

/-! ## Blanks at the ends of a text do not count -/

theorem trim_append_left {t : List Char} (ht : ∀ c ∈ t, isBlank c = true) (s : List Char) :
    trim (t ++ s) = trim s := by
  rw [trim, trimStart, List.dropWhile_append_of_pos ht]
  rfl

theorem trimEnd_append_right {t : List Char} (ht : ∀ c ∈ t, isBlank c = true) (s : List Char) :
    trimEnd (s ++ t) = trimEnd s := by
  have hback : ∀ c ∈ t.reverse, isBlank c = true := by simpa using ht
  rw [trimEnd, List.reverse_append, List.dropWhile_append_of_pos hback]
  rfl

theorem trim_append_right {t : List Char} (ht : ∀ c ∈ t, isBlank c = true) (s : List Char) :
    trim (s ++ t) = trim s := by
  unfold trim trimStart
  rw [List.dropWhile_append]
  split
  · rename_i hempty
    rw [List.isEmpty_iff.mp hempty, List.dropWhile_eq_nil_iff.mpr ht]
  · exact trimEnd_append_right ht _

theorem exists_append_trimEnd (s : List Char) :
    ∃ t, (∀ c ∈ t, isBlank c = true) ∧ trimEnd s ++ t = s :=
  ⟨s.rtakeWhile isBlank, fun _ => List.mem_rtakeWhile_imp, List.rdropWhile_append_rtakeWhile⟩

theorem trim_trimStart (s : List Char) : trim (trimStart s) = trim s := by
  rw [trim, trimStart_trimStart]
  rfl

theorem trim_trimEnd (s : List Char) : trim (trimEnd s) = trim s := by
  obtain ⟨t, ht, hs⟩ := exists_append_trimEnd s
  rw [← trim_append_right ht (trimEnd s), hs]

theorem dropWhile_append_cons {p : Char → Bool} {c : Char} (hc : p c = false) (s t : List Char) :
    (s ++ c :: t).dropWhile p = s.dropWhile p ++ c :: t := by
  rw [List.dropWhile_append]
  split
  · rename_i hempty
    rw [List.isEmpty_iff.mp hempty, List.dropWhile_cons_of_neg (by simp [hc]), List.nil_append]
  · rfl

theorem trimStart_append_cons {c : Char} (hc : isBlank c = false) (s t : List Char) :
    trimStart (s ++ c :: t) = trimStart s ++ c :: t :=
  dropWhile_append_cons hc s t

theorem trimEnd_append_cons {c : Char} (hc : isBlank c = false) (s t : List Char) :
    trimEnd (s ++ c :: t) = s ++ c :: trimEnd t := by
  unfold trimEnd
  rw [List.reverse_append, List.reverse_cons, List.append_assoc, List.singleton_append,
    dropWhile_append_cons hc]
  simp

theorem length_splitOnP (p : Char → Bool) (s : List Char) :
    (s.splitOnP p).length = s.countP p + 1 := by
  induction s with
  | nil => rfl
  | cons a s ih =>
      rw [List.splitOnP_cons_eq_if_modifyHead]
      by_cases ha : p a = true
      · simp [ha, ih]
      · simp [ha, ih]

theorem length_splitOn (c : Char) (s : List Char) : (s.splitOn c).length = s.count c + 1 :=
  length_splitOnP (· == c) s

theorem one_lt_length_splitOn {c : Char} {s : List Char} (h : c ∈ s) :
    1 < (s.splitOn c).length := by
  have hcount : 0 < s.count c := List.count_pos_iff.mpr h
  rw [length_splitOn]
  omega

end Text

namespace Formula

variable {α : Type}

/-- The terms of a rule: those of each piece between bars, without blanks at their ends. -/
def pieces (rule : List Char) : List (List (List Char)) :=
  ((trim rule).splitOn '|').map fun piece => ((trim piece).splitOn '&').map trim

/-- A rule applies where all terms of one of its pieces are true. -/
def Applies (term : List Char → Except RuleError α) (hit : α → Bool) (rule : List Char) : Prop :=
  ∃ piece ∈ pieces rule, ∀ t ∈ piece, ∃ a, term t = .ok a ∧ hit a = true

theorem clauses_eq_ok {β : Type} {mark : Char} {read : List Char → Except RuleError β}
    {rule : List Char} {bs : List β} (h : clauses mark read rule = .ok bs) :
    List.Forall₂ (fun piece b => read (trim piece) = .ok b) (rule.splitOn mark) bs := by
  refine (forall₂_of_mapM_eq_ok h).imp fun piece b hb => ?_
  split at hb
  · cases hb
  · exact hb

theorem map_leaf_eq_ok {x : Except RuleError α} {f : Formula α} (h : leaf <$> x = .ok f) :
    ∃ a, x = .ok a ∧ f = leaf a := by
  cases x with
  | error e => cases h
  | ok a =>
      cases h
      exact ⟨a, rfl, rfl⟩

/-- Two readings of a list, member by member, of which the first settles the second. -/
theorem forall₂_split {β γ δ : Type} {R : β → γ → Prop} {S : β → δ → Prop} {T : γ → δ → Prop}
    (hRST : ∀ b c, R b c → ∃ d, S b d ∧ T c d) {bs : List β} {cs : List γ}
    (h : List.Forall₂ R bs cs) : ∃ ds, List.Forall₂ S bs ds ∧ List.Forall₂ T cs ds := by
  induction h with
  | nil => exact ⟨[], .nil, .nil⟩
  | cons hbc _ ih =>
      obtain ⟨d, hS, hT⟩ := hRST _ _ hbc
      obtain ⟨ds, hSs, hTs⟩ := ih
      exact ⟨d :: ds, .cons hS hSs, .cons hT hTs⟩

/-- `f` says what the leaves `as` say together. -/
def Joins (f : Formula α) (as : List α) : Prop :=
  f.leaves = as ∧ ∀ v, f.verdict v = Verdict.common (as.map v)

theorem joins_leaf (a : α) : Joins (leaf a) [a] := ⟨rfl, fun _ => rfl⟩

theorem joins_all {fs : List (Formula α)} {as : List α}
    (h : List.Forall₂ (fun f a => f = leaf a) fs as) : Joins (all fs) as := by
  have hmap : fs = as.map leaf := by
    induction h with
    | nil => rfl
    | cons hfa _ ih => rw [hfa, ih, List.map_cons]
  subst hmap
  refine ⟨?_, fun v => ?_⟩
  · rw [leaves_all, leavesAll_eq_flatMap, List.flatMap_map]
    exact List.flatMap_singleton' as
  · rw [verdict_all, List.map_map]
    rfl

theorem map_eq_of_joins {β : Type} {φ : Formula α → β} {ψ : List α → β}
    (hφψ : ∀ f as, Joins f as → φ f = ψ as) {fs : List (Formula α)} {cs : List (List α)}
    (h : List.Forall₂ Joins fs cs) : fs.map φ = cs.map ψ := by
  induction h with
  | nil => rfl
  | cons hf _ ih => rw [List.map_cons, List.map_cons, hφψ _ _ hf, ih]

theorem ofTerms_eq_ok {term : List Char → Except RuleError α} {piece : List Char}
    {f : Formula α} (hp : trim piece = piece) (h : ofTerms term piece = .ok f) :
    ∃ as, List.Forall₂ (fun t a => term t = .ok a) ((piece.splitOn '&').map trim) as ∧
      f.Joins as := by
  unfold ofTerms at h
  split at h
  · cases hc : clauses '&' (fun piece => leaf <$> term piece) piece with
    | error e => simp [hc] at h
    | ok fs =>
        rw [hc] at h
        cases h
        obtain ⟨as, has, hfs⟩ := forall₂_split (fun t f => map_leaf_eq_ok) (clauses_eq_ok hc)
        exact ⟨as, List.forall₂_map_left_iff.mpr has, joins_all hfs⟩
  · rename_i hno
    obtain ⟨a, ha, rfl⟩ := map_leaf_eq_ok h
    rw [List.splitOn_eq_singleton (by simpa using hno), List.map_singleton, hp]
    exact ⟨[a], .cons ha .nil, joins_leaf a⟩

/-- What a rule reads as: pieces of leaves, one for each term, of which any is to match with
all its leaves. -/
theorem ofRule_eq_ok {term : List Char → Except RuleError α} {rule : List Char} {f : Formula α}
    (h : ofRule term rule = .ok f) :
    ∃ cs, List.Forall₂ (List.Forall₂ fun t a => term t = .ok a) (pieces rule) cs ∧
      f.leaves = cs.flatten ∧
      ∀ v, f.verdict v = Verdict.mergeAll (cs.map fun as => Verdict.common (as.map v)) := by
  unfold ofRule at h
  split at h
  · cases hc : clauses '|' (ofTerms term) (trim rule) with
    | error e => simp [hc] at h
    | ok fs =>
        rw [hc] at h
        cases h
        obtain ⟨cs, hcs, hfs⟩ :=
          forall₂_split (fun piece f => ofTerms_eq_ok (trim_trim piece)) (clauses_eq_ok hc)
        refine ⟨cs, List.forall₂_map_left_iff.mpr hcs, ?_, fun v => ?_⟩
        · rw [leaves_any, leavesAll_eq_flatMap, List.flatMap,
            map_eq_of_joins (fun _ _ hf => hf.1) hfs, List.map_id']
        · rw [verdict_any, map_eq_of_joins (fun _ _ hf => hf.2 v) hfs]
  · rename_i hno
    obtain ⟨as, has, hleaves, hv⟩ := ofTerms_eq_ok (trim_trim rule) h
    refine ⟨[as], ?_, by simp [hleaves], fun v => by simp [hv v]⟩
    rw [pieces, List.splitOn_eq_singleton (by simpa using hno), List.map_singleton, trim_trim]
    exact .cons has .nil

/-! ## Rules of one polarity -/

theorem pieces_ne_nil (rule : List Char) : pieces rule ≠ [] := by
  simp [pieces, List.splitOn_ne_nil]

theorem ne_nil_of_mem_pieces {rule : List Char} {piece : List (List Char)}
    (h : piece ∈ pieces rule) : piece ≠ [] := by
  obtain ⟨p, -, rfl⟩ := List.mem_map.mp h
  simp [List.splitOn_ne_nil]

/-- What holds of every leaf that a term can stand for holds of the leaves of a rule. -/
theorem forall_mem_leaves {term : List Char → Except RuleError α} {rule : List Char}
    {f : Formula α} {P : α → Prop} (hP : ∀ t a, term t = .ok a → P a)
    (h : ofRule term rule = .ok f) : ∀ a ∈ f.leaves, P a := by
  obtain ⟨cs, hcs, hleaves, -⟩ := ofRule_eq_ok h
  have hall : ∀ as ∈ cs, ∀ a ∈ as, P a :=
    forall_mem_of_forall₂ (fun _ _ has => forall_mem_of_forall₂ hP has) hcs
  intro a ha
  rw [hleaves] at ha
  obtain ⟨as, has, ha⟩ := List.mem_flatten.mp ha
  exact hall as has a ha

/-- There is no empty piece among the leaves of a rule. -/
theorem ne_nil_of_forall₂_pieces {rule : List Char} {R : List Char → α → Prop}
    {cs : List (List α)} (h : List.Forall₂ (List.Forall₂ R) (pieces rule) cs) :
    cs ≠ [] ∧ ∀ as ∈ cs, as ≠ [] :=
  ⟨fun hcs => pieces_ne_nil rule ((eq_nil_iff_of_forall₂ h).mpr hcs),
    (forall_congr_of_forall₂ (fun _ _ has => not_congr (eq_nil_iff_of_forall₂ has)) h).mp
      fun _ hpiece => ne_nil_of_mem_pieces hpiece⟩

theorem leaves_ne_nil {term : List Char → Except RuleError α} {rule : List Char} {f : Formula α}
    (h : ofRule term rule = .ok f) : f.leaves ≠ [] := by
  obtain ⟨cs, hcs, hleaves, -⟩ := ofRule_eq_ok h
  obtain ⟨hne, hall⟩ := ne_nil_of_forall₂_pieces hcs
  obtain ⟨as, has⟩ := List.exists_mem_of_ne_nil cs hne
  rw [hleaves]
  intro hnil
  exact hall as has (List.flatten_eq_nil_iff.mp hnil as has)

/-- A rule of one polarity matches where it applies and is neutral elsewhere. -/
theorem verdict_of_policy {term : List Char → Except RuleError α} {rule : List Char}
    {f : Formula α} (h : ofRule term rule = .ok f) {policy : Policy} {v : α → Verdict}
    {hit : α → Bool} (hv : ∀ a ∈ f.leaves, v a = .ofMatch policy (hit a)) :
    ∃ b : Bool, (b = true ↔ Applies term hit rule) ∧ f.verdict v = .ofMatch policy b := by
  obtain ⟨cs, hcs, hleaves, hf⟩ := ofRule_eq_ok h
  have hterm (t : List Char) (a : α) (ha : term t = .ok a) :
      (∃ a, term t = .ok a ∧ hit a = true) ↔ hit a = true := by
    simp [ha]
  have happlies : Applies term hit rule ↔ ∃ as ∈ cs, ∀ a ∈ as, hit a = true :=
    exists_congr_of_forall₂ (fun _ _ has => forall_congr_of_forall₂ hterm has) hcs
  -- an empty piece would have no verdict in common
  have hne : ∀ as ∈ cs, as ≠ [] := (ne_nil_of_forall₂_pieces hcs).2
  have hpiece : ∀ as ∈ cs,
      Verdict.common (as.map v) = .ofMatch policy (as.all hit) := by
    intro as has
    have hmap : as.map v = as.map fun a => .ofMatch policy (hit a) :=
      List.map_congr_left fun a ha => hv a (hleaves ▸ List.mem_flatten_of_mem has ha)
    rw [hmap, Verdict.common_map_ofMatch policy hit (hne as has)]
  refine ⟨cs.any fun as => as.all hit, ?_, ?_⟩
  · rw [happlies]
    simp
  · rw [hf v, List.map_congr_left hpiece, Verdict.mergeAll_map_ofMatch]

theorem keepsByDefault_of_policy {term : List Char → Except RuleError α} {rule : List Char}
    {f : Formula α} (h : ofRule term rule = .ok f) {policyOf : α → Policy} {policy : Policy}
    (hp : ∀ a ∈ f.leaves, policyOf a = policy) :
    f.keepsByDefault policyOf = policy.keepsByDefault := by
  obtain ⟨a, ha⟩ := List.exists_mem_of_ne_nil _ (leaves_ne_nil h)
  rw [Bool.eq_iff_iff, keepsByDefault, List.all_eq_true]
  constructor
  · intro hk
    exact hp a ha ▸ hk a ha
  · intro hk b hb
    rw [hp b hb, hk]

/-- An including rule keeps what it applies to, an excluding rule what it does not apply to. -/
theorem keeps_iff_of_policy {term : List Char → Except RuleError α} {rule : List Char}
    {f : Formula α} (h : ofRule term rule = .ok f) {policyOf : α → Policy} {policy : Policy}
    (hp : ∀ a ∈ f.leaves, policyOf a = policy) {v : α → Verdict} {hit : α → Bool}
    (hv : ∀ a ∈ f.leaves, v a = .ofMatch policy (hit a)) :
    f.keeps policyOf v = true ↔ (policy = .including ↔ Applies term hit rule) := by
  obtain ⟨b, hb, hverdict⟩ := verdict_of_policy h hv
  rw [keeps_eq_true_iff, hverdict, keepsByDefault_of_policy h hp, ← hb]
  cases policy <;> cases b <;> simp [Policy.verdict, Policy.keepsByDefault]

/-! ## Rules whose terms are read anew -/

section

variable {β : Type} (g : α → β)

theorem clauses_map {γ δ : Type} (k : γ → δ) (mark : Char) (read : List Char → Except RuleError γ)
    (rule : List Char) :
    clauses mark (fun piece => k <$> read piece) rule = List.map k <$> clauses mark read rule := by
  unfold clauses
  rw [← mapM_map_ok]
  congr 1
  funext piece
  split
  · rfl
  · rfl

theorem ofTerms_map (term : List Char → Except RuleError α) (piece : List Char) :
    ofTerms (fun t => g <$> term t) piece = map g <$> ofTerms term piece := by
  have hleaf : (fun t => leaf <$> g <$> term t) = fun t => map g <$> leaf <$> term t := by
    funext t
    cases term t <;> rfl
  unfold ofTerms
  split
  · rw [hleaf, clauses_map]
    cases clauses '&' (fun t => leaf <$> term t) piece with
    | error e => rfl
    | ok fs => exact congrArg (Except.ok ∘ all) (mapAll_eq_map g fs).symm
  · exact congrFun hleaf piece

/-- Where the leaves that terms stand for are changed, so are the leaves of the rule. -/
theorem ofRule_map (term : List Char → Except RuleError α) (rule : List Char) :
    ofRule (fun t => g <$> term t) rule = map g <$> ofRule term rule := by
  have hterms : ofTerms (fun t => g <$> term t) = fun piece => map g <$> ofTerms term piece :=
    funext (ofTerms_map g term)
  unfold ofRule
  rw [hterms]
  split
  · rw [clauses_map]
    cases clauses '|' (ofTerms term) (trim rule) with
    | error e => rfl
    | ok fs => exact congrArg (Except.ok ∘ any) (mapAll_eq_map g fs).symm
  · rfl

end

end Formula

end Landscape
