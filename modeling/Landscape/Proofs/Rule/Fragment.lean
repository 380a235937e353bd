import Landscape.Proofs.Route.Grammar
import Landscape.Proofs.Rule.Grammar

namespace Landscape

/-!
# Where a rule goes wrong

What is wrong with a rule is wrong with its first piece that cannot be read: the error names a
part of the text, the rule up to that piece has the same error, and so has any other rule that
begins with the same pieces.
-/

/-! ## Errors of terms -/

/-- The error names a part of the text, which is a term. -/
def RuleError.NamesPart (t : List Char) (e : RuleError) : Prop :=
  e.fragment.toList <:+: t ∧ ∀ list, e ≠ .emptyClause list

section

variable {s t : List Char} {e : RuleError}

theorem RuleError.NamesPart.mono (h : e.NamesPart s) (hst : s <:+: t) : e.NamesPart t :=
  ⟨h.1.trans hst, h.2⟩

theorem RuleError.OfTerm.namesPart (h : e.OfTerm t) : e.NamesPart t := by
  refine ⟨h.fragment_isInfix, ?_⟩
  rintro list rfl
  cases h

theorem RouteText.Carries.isPrefix {left source : List Char} {a : Load}
    (h : Carries left source a) : source <+: left := by
  rcases h with h | ⟨-, rfl, -⟩
  · exact h.2 ▸ List.prefix_append source _
  · exact List.prefix_rfl

theorem RouteText.Carries.digits_isInfix {left source : List Char} {a : Load}
    (h : Carries left source a) : a.digits <:+: left := by
  rcases h with h | ⟨-, -, rfl⟩
  · refine ⟨source ++ ['-'], if a.required then ['R'] else [], ?_⟩
    rw [h.2]
    simp
  · exact List.nil_infix

theorem RouteText.ofText_error {usual : Option Nat} (h : ofText usual t = .error e) :
    e.NamesPart t := by
  by_cases harrow : OneArrow (Text.trim t)
  · obtain ⟨left, right, source, a, hrule, hcarries⟩ := exists_carries harrow
    have hleft : left <:+: t := by
      refine List.IsInfix.trans ?_ (Text.trim_isInfix t)
      exact hrule ▸ (List.prefix_append left _).isInfix
    have hright : right <:+: t := by
      refine List.IsInfix.trans ?_ (Text.trim_isInfix t)
      exact ⟨left ++ ['-', '>'], [], by simp [hrule]⟩
    rcases (ofText_eq_error_iff hrule harrow hcarries).mp h with
      hsource | ⟨-, ⟨-, rfl⟩ | ⟨-, hdest⟩⟩
    · have hterm := (ProjectTest.ofText_error hsource).namesPart
      exact hterm.mono (hcarries.isPrefix.isInfix.trans hleft)
    · refine ⟨?_, by simp⟩
      simpa [RuleError.fragment] using hcarries.digits_isInfix.trans hleft
    · exact (ProjectTest.ofText_error hdest).namesPart.mono hright
  · rw [ofText_of_not_oneArrow harrow] at h
    cases h
    refine ⟨?_, by simp⟩
    simpa [RuleError.fragment] using Text.trim_isInfix t

theorem ProjectLeaf.ofText_error {g : Graph} {policy : Policy} {usual : Option Nat}
    (h : ofText g policy usual t = .error e) : e.NamesPart t := by
  unfold ofText at h
  split at h
  · exact RouteText.ofText_error (map_eq_error_iff.mp (map_eq_error_iff.mp h))
  · exact (ProjectTest.ofText_error (map_eq_error_iff.mp h)).namesPart

end

namespace Formula

open Text

variable {α : Type} {term : List Char → Except RuleError α} {rule : List Char} {e : RuleError}

/-- The list that a piece is blamed on is a part of the rule. -/
theorem list_isInfix {p : Piece} (h : p ∈ (placed rule).flatten) : p.list <:+: rule := by
  obtain ⟨ps, hps, hp⟩ := List.mem_flatten.mp h
  obtain ⟨clause, hclause, rfl⟩ := List.mem_map.mp hps
  unfold placedIn at hp
  split at hp
  · obtain ⟨t, -, rfl⟩ := List.mem_map.mp hp
    exact (trim_isInfix clause).trans ((isInfix_of_mem_splitOnP hclause).trans (trim_isInfix rule))
  · rw [List.mem_singleton.mp hp]
    exact trim_isInfix rule

theorem trim_ne_nil_of_mem {c : List Char} (h : c ∈ rule.splitOnP isMark) (hc : trim c ≠ []) :
    trim rule ≠ [] := by
  intro hrule
  have hflat := map_trim_splitOnP_trim isMark_eq_false_of_isBlank rule
  rw [hrule, List.splitOnP_nil, List.map_singleton, trim_nil] at hflat
  have hmem : trim c ∈ (rule.splitOnP isMark).map trim := List.mem_map_of_mem h
  rw [← hflat] at hmem
  exact hc (List.mem_singleton.mp hmem)

/-- The error of a rule is that of its first piece that is none, whatever comes after it. -/
theorem ofRule_eq_error {before after : List (List Char)} {c : List Char}
    (hrule : rule.splitOnP isMark = before ++ c :: after)
    (hbefore : ∀ q ∈ before, trim q ≠ [] ∧ ∃ a, term (trim q) = .ok a) (hc : trim c ≠ [])
    (h : term (trim c) = .error e) : ofRule term rule = .error e := by
  have hmem : c ∈ rule.splitOnP isMark := by simp [hrule]
  have htexts := map_text_flatten rule
  rw [hrule, List.map_append, List.map_cons, List.map_eq_append_iff] at htexts
  obtain ⟨ps, qs, hplaced, hps, hqs⟩ := htexts
  obtain ⟨q, qs, rfl, hq, -⟩ := List.map_eq_cons_iff.mp hqs
  refine (ofRule_eq_error_iff (trim_ne_nil_of_mem hmem hc)).mpr ⟨ps, q, qs, hplaced, ?_, ?_⟩
  · intro r hr
    have hr' : r.text ∈ before.map trim := hps ▸ List.mem_map_of_mem hr
    obtain ⟨s, hs, hsr⟩ := List.mem_map.mp hr'
    rw [← hsr]
    exact hbefore s hs
  · rw [hq]
    exact .inr ⟨hc, h⟩

/-- A text without marks is a term. -/
theorem ofRule_of_unmarked {s : List Char} (h : ∀ c ∈ s, isMark c = false) :
    ofRule term s = leaf <$> term (trim s) := by
  have hmark (c : Char) (hc : isMark c = true) : c ∉ trim s := by
    intro hmem
    rw [h c ((trim_isInfix s).subset hmem)] at hc
    cases hc
  unfold ofRule ofTerms
  rw [if_neg (by simpa using hmark '|' rfl), if_neg (by simpa using hmark '&' rfl)]

/-- What is wrong with a rule is wrong with the first of its pieces that cannot be read. The error
names a part of the rule. A piece that is blank is blamed on a list; any other piece has the error
as a rule, and so has the rule up to that piece, whatever comes after the next mark. -/
def Pinpoints (read : List Char → Except RuleError α) : Prop :=
  ∀ rule e, read rule = .error e → e.fragment.toList <:+: rule ∧
    ∃ before piece after, Stands isMark rule before piece after ∧
      (∀ q ∈ earlier isMark before, trim q ≠ [] ∧ ∃ f, read q = .ok f) ∧
      (trim piece = [] ∧ (∃ list, e = .emptyClause list) ∨
        trim piece ≠ [] ∧ (∀ list, e ≠ .emptyClause list) ∧ read piece = .error e ∧
          read (before ++ piece) = .error e ∧
          ∀ m text, isMark m = true → read (before ++ piece ++ m :: text) = .error e)

theorem exists_stands_of_ofRule (hrule : trim rule ≠ []) (h : ofRule term rule = .error e) :
    ∃ before piece after, Stands isMark rule before piece after ∧
      (∀ q ∈ earlier isMark before, trim q ≠ [] ∧ ∃ a, term (trim q) = .ok a) ∧
      (trim piece = [] ∧ (∃ list, list <:+: rule ∧ e = .emptyClause (String.ofList list)) ∨
        trim piece ≠ [] ∧ term (trim piece) = .error e) := by
  obtain ⟨ps, p, qs, hplaced, hps, hp⟩ := (ofRule_eq_error_iff hrule).mp h
  have hlist : p.list <:+: rule := list_isInfix (by simp [hplaced])
  -- the same pieces as texts between the marks of the rule
  have htexts := map_text_flatten rule
  rw [hplaced, List.map_append, List.map_cons] at htexts
  obtain ⟨cells, rest, hsplit, hcells, hrest⟩ := List.map_eq_append_iff.mp htexts.symm
  obtain ⟨piece, others, rfl, hpiece, -⟩ := List.map_eq_cons_iff.mp hrest
  obtain ⟨before, after, hstands, rfl⟩ := exists_stands hsplit
  refine ⟨before, piece, after, hstands, fun q hq => ?_, ?_⟩
  · have hmem : trim q ∈ ps.map Piece.text := hcells ▸ List.mem_map_of_mem hq
    obtain ⟨r, hr, hrq⟩ := List.mem_map.mp hmem
    rw [← hrq]
    exact hps r hr
  · rw [hpiece]
    exact hp.imp_left fun hempty => ⟨hempty.1, p.list, hlist, hempty.2⟩

theorem pinpoints_ofRule (hnil : ∃ a, term [] = .ok a)
    (hterm : ∀ t e, term t = .error e → e.NamesPart t) : Pinpoints (ofRule term) := by
  intro rule e h
  have hrule : trim rule ≠ [] := by
    intro hblank
    obtain ⟨a, ha⟩ := hnil
    rw [ofRule_of_trim_eq_nil term hblank, ha] at h
    cases h
  obtain ⟨before, piece, after, hstands, hbefore, hpiece⟩ := exists_stands_of_ofRule hrule h
  have hread : ∀ q ∈ earlier isMark before, trim q ≠ [] ∧ ∃ f, ofRule term q = .ok f := by
    intro q hq
    obtain ⟨hfull, a, ha⟩ := hbefore q hq
    rw [ofRule_of_unmarked (hstands.unmarked_of_mem_earlier hq), ha]
    exact ⟨hfull, leaf a, rfl⟩
  rcases hpiece with ⟨hblank, list, hlist, rfl⟩ | ⟨hfull, herror⟩
  · refine ⟨?_, before, piece, after, hstands, hread, .inl ⟨hblank, _, rfl⟩⟩
    rwa [RuleError.fragment, String.toList_ofList]
  · obtain ⟨hfragment, hclause⟩ := hterm _ _ herror
    refine ⟨(hfragment.trans (trim_isInfix piece)).trans hstands.isInfix, before, piece, after,
      hstands, hread, .inr ⟨hfull, hclause, ?_, ?_, ?_⟩⟩
    · rw [ofRule_of_unmarked hstands.unmarked, herror]
      rfl
    · exact ofRule_eq_error hstands.splitOnP_upto hbefore hfull herror
    · intro m text hm
      have hsplit : (before ++ piece ++ m :: text).splitOnP isMark =
          earlier isMark before ++ piece :: text.splitOnP isMark := by
        rw [List.splitOnP_append_cons _ text hm, hstands.splitOnP_upto, List.append_assoc,
          List.singleton_append]
      exact ofRule_eq_error hsplit hbefore hfull herror

/-- Rules of every kind pinpoint what is wrong with them. -/
theorem pinpoints_of_kinds (g : Graph) (policy : Policy) (usual : Option Nat) :
    Pinpoints (ProjectRule.ofText g policy usual) ∧ Pinpoints (FileRule.ofText policy) ∧
      Pinpoints (CommitRule.ofText policy) := by
  have hproject : ProjectLeaf.ofText g policy usual [] = .ok (.test ⟨.any, policy⟩) := by cbv
  have hfile : FileTest.ofText [] = .ok .any := by cbv
  have hcommit : CommitTest.ofText [] = .ok .any := by cbv
  refine ⟨?_, ?_, ?_⟩
  · exact pinpoints_ofRule ⟨_, hproject⟩ fun t e => ProjectLeaf.ofText_error
  · refine pinpoints_ofRule ⟨⟨.any, policy⟩, by rw [hfile]; rfl⟩ fun t e h => ?_
    exact (FileTest.ofText_error (map_eq_error_iff.mp h)).namesPart
  · refine pinpoints_ofRule ⟨⟨.any, policy⟩, by rw [hcommit]; rfl⟩ fun t e h => ?_
    exact (CommitTest.ofText_error (map_eq_error_iff.mp h)).namesPart

/-- The second piece of the rule is no term, and the third is not looked at. -/
theorem pinpoints_of_kinds_of_id :
    CommitRule.ofText .including "id:1 & id:x | ".toList = .error (.invalidId "id:x") ∧
      ∃ before piece after, Stands isMark "id:1 & id:x | ".toList before piece after ∧
        ∀ m text, isMark m = true →
          CommitRule.ofText .including (before ++ piece ++ m :: text) =
            .error (.invalidId "id:x") := by
  have hread : CommitRule.ofText .including "id:1 & id:x | ".toList =
      .error (.invalidId "id:x") := by cbv
  obtain ⟨-, before, piece, after, hstands, -, hpiece⟩ :=
    (pinpoints_of_kinds .empty .including none).2.2 _ _ hread
  refine ⟨hread, before, piece, after, hstands, ?_⟩
  rcases hpiece with ⟨-, list, hlist⟩ | ⟨-, -, -, -, hafter⟩
  · cases hlist
  · exact hafter

end Formula

end Landscape
