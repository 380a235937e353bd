import Landscape.Proofs.Rule.Parted

namespace Landscape

/-!
# The grammar of rules

A rule that is not blank is read piece by piece, from the left. It can be read if and only if no
piece is blank and each of them is a term; otherwise the answer is what is wrong with the first
piece that fails, and a blank piece is blamed on the innermost list that it stands in.
-/

namespace Formula

open Text

variable {α : Type} {term : List Char → Except RuleError α} {rule : List Char}

/-! ## Pieces where they stand -/

/-- A piece between two marks, without blanks at its ends, and the text of the list that it is
parted from the others in. -/
structure Piece where
  list : List Char
  text : List Char

/-- A blank piece stands for no term. -/
def Piece.read (term : List Char → Except RuleError α) (p : Piece) : Except RuleError α :=
  if p.text.isEmpty then .error (.emptyClause (String.ofList p.list)) else term p.text

/-- The pieces of a clause of the rule. One without `&` is itself a piece of the rule. -/
def placedIn (rule clause : List Char) : List Piece :=
  if clause.contains '&' then (clause.splitOn '&').map fun t => ⟨clause, trim t⟩
  else [⟨rule, clause⟩]

def placed (rule : List Char) : List (List Piece) :=
  ((trim rule).splitOn '|').map fun clause => placedIn (trim rule) (trim clause)

/-! ## The formula of the leaves -/

/-- All of the leaves; a single one stands for itself. -/
def allOf : List α → Formula α
  | [a] => leaf a
  | as => all (as.map leaf)

/-- Any of the clauses; a single one stands for itself. -/
def anyOf : List (List α) → Formula α
  | [as] => allOf as
  | cs => any (cs.map allOf)

theorem allOf_of_one_lt {as : List α} (h : 1 < as.length) : allOf as = all (as.map leaf) := by
  match as, h with
  | _ :: _ :: _, _ => rfl

theorem anyOf_of_one_lt {cs : List (List α)} (h : 1 < cs.length) :
    anyOf cs = any (cs.map allOf) := by
  match cs, h with
  | _ :: _ :: _, _ => rfl

theorem leaves_allOf (as : List α) : (allOf as).leaves = as := by
  unfold allOf
  split
  · rfl
  · rw [leaves_all, leavesAll_eq_flatMap, List.flatMap_map]
    exact List.flatMap_singleton' as

theorem leaves_anyOf (cs : List (List α)) : (anyOf cs).leaves = cs.flatten := by
  unfold anyOf
  split
  · rw [leaves_allOf, List.flatten_singleton]
  · rw [leaves_any, leavesAll_eq_flatMap, List.flatMap_map, List.flatMap_def]
    simp only [leaves_allOf, List.map_id']

/-! ## Reading piece by piece -/

theorem Piece.read_eq_ok_iff {p : Piece} {a : α} :
    p.read term = .ok a ↔ p.text ≠ [] ∧ term p.text = .ok a := by
  unfold Piece.read
  cases hp : p.text <;> simp

theorem Piece.read_eq_error_iff {p : Piece} {e : RuleError} : p.read term = .error e ↔
    p.text = [] ∧ e = .emptyClause (String.ofList p.list) ∨
      p.text ≠ [] ∧ term p.text = .error e := by
  unfold Piece.read
  cases hp : p.text <;> simp [eq_comm]

/-- What is made of a list that `mark` parts may be made in one way where there are two
members or more. -/
theorem map_mapM_splitOn {ε β γ : Type} {mark : Char} {list : List Char} (h : mark ∈ list)
    {read : List Char → Except ε β} {f g : List β → γ} (hfg : ∀ bs, 1 < bs.length → f bs = g bs) :
    f <$> (list.splitOn mark).mapM read = g <$> (list.splitOn mark).mapM read := by
  cases hbs : (list.splitOn mark).mapM read with
  | error e => rfl
  | ok bs =>
      have hlength : bs.length = (list.splitOn mark).length := length_eq_of_mapM_eq_ok hbs
      exact congrArg Except.ok (hfg bs (hlength ▸ one_lt_length_splitOn h))

/-- What a clause reads as, unless it is blank. -/
theorem ofTerms_eq_map (term : List Char → Except RuleError α) (rule clause : List Char) :
    (if clause.isEmpty then .error (.emptyClause (String.ofList rule)) else ofTerms term clause) =
      allOf <$> (placedIn rule clause).mapM (Piece.read term) := by
  unfold ofTerms placedIn
  by_cases hmark : '&' ∈ clause
  · -- a blank clause has no mark
    have hne : clause ≠ [] := List.ne_nil_of_mem hmark
    have hcontains : clause.contains '&' = true := by simpa using hmark
    rw [if_neg (by simpa using hne), if_pos hcontains, if_pos hcontains, clauses_map, List.mapM_map,
      map_mapM_splitOn hmark fun _ => allOf_of_one_lt]
    exact (comp_map (List.map leaf) all (clauses '&' term clause)).symm
  · have hcontains : ¬ clause.contains '&' = true := by simpa using hmark
    rw [if_neg hcontains, if_neg hcontains]
    rw [mapM_singleton, Piece.read]
    split
    · rfl
    · exact comp_map (fun a => [a]) allOf (term clause)

/-- What a rule that is not blank reads as. -/
theorem ofRule_eq_map (h : trim rule ≠ []) : ofRule term rule =
    anyOf <$> (placed rule).mapM fun ps => ps.mapM (Piece.read term) := by
  unfold ofRule placed
  by_cases hmark : '|' ∈ trim rule
  · have hclauses : clauses '|' (ofTerms term) (trim rule) = List.map allOf <$>
        ((trim rule).splitOn '|').mapM fun clause =>
          (placedIn (trim rule) (trim clause)).mapM (Piece.read term) := by
      rw [← mapM_map_ok]
      unfold clauses
      simp only [ofTerms_eq_map]
    rw [if_pos (by simpa using hmark), hclauses, List.mapM_map,
      map_mapM_splitOn hmark fun _ => anyOf_of_one_lt]
    exact (comp_map (List.map allOf) any _).symm
  · rw [if_neg (by simpa using hmark), List.splitOn_eq_singleton hmark, List.map_singleton,
      trim_trim, mapM_singleton]
    -- the rule is its own only clause, which is not blank
    have hclause := ofTerms_eq_map term (trim rule) (trim rule)
    rw [if_neg (by simpa using h)] at hclause
    rw [hclause]
    exact comp_map (fun as => [as]) anyOf _

/-! ## The pieces of a rule -/

theorem map_text_placedIn {clause : List Char} (h : trim clause = clause) :
    (placedIn rule clause).map Piece.text = (clause.splitOn '&').map trim := by
  unfold placedIn
  by_cases hmark : '&' ∈ clause
  · rw [if_pos (by simpa using hmark), List.map_map]
    rfl
  · rw [if_neg (by simpa using hmark), List.splitOn_eq_singleton hmark, List.map_singleton,
      List.map_singleton, h]

theorem map_text_placed (rule : List Char) :
    (placed rule).map (List.map Piece.text) = pieces rule := by
  rw [placed, List.map_map]
  apply List.map_congr_left
  intro clause _
  exact map_text_placedIn (trim_trim clause)

/-- The marks that part the pieces of a rule. -/
def isMark (c : Char) : Bool := c = '|' || c = '&'

theorem isMark_eq_false_of_isBlank (c : Char) (h : isBlank c = true) : isMark c = false := by
  unfold isMark
  rw [Bool.or_eq_false_iff, decide_eq_false_iff_not, decide_eq_false_iff_not]
  constructor
  · rintro rfl
    revert h
    decide
  · rintro rfl
    revert h
    decide

theorem flatten_pieces (rule : List Char) :
    (pieces rule).flatten = (rule.splitOnP isMark).map trim := by
  have hclause (s : List Char) : ((trim s).splitOn '&').map trim = (s.splitOn '&').map trim := by
    refine map_trim_splitOnP_trim (fun c hc => ?_) s
    have hmark := isMark_eq_false_of_isBlank c hc
    unfold isMark at hmark
    simpa using (Bool.or_eq_false_iff.mp hmark).2
  calc (pieces rule).flatten
      = ((trim rule).splitOn '|').flatMap fun clause => (clause.splitOn '&').map trim := by
        rw [pieces, List.flatMap_def]
        simp only [hclause]
    _ = ((trim rule).splitOnP isMark).map trim := by
        rw [← List.map_flatMap, flatMap_splitOn]
        rfl
    _ = (rule.splitOnP isMark).map trim := map_trim_splitOnP_trim isMark_eq_false_of_isBlank rule

/-- Each mark parts one more piece from the others. -/
theorem length_flatten_pieces (rule : List Char) :
    (pieces rule).flatten.length = 1 + rule.count '|' + rule.count '&' := by
  have hcount (s : List Char) : s.countP isMark = s.count '|' + s.count '&' := by
    induction s with
    | nil => rfl
    | cons c s ih =>
        rw [List.countP_cons, List.count_cons, List.count_cons, ih]
        by_cases hbar : c = '|'
        · subst hbar
          simp [isMark]
          omega
        · by_cases hand : c = '&' <;> simp [isMark, hbar, hand]
          omega
  rw [flatten_pieces, List.length_map, Text.length_splitOnP, hcount]
  omega

/-- A rule has as many leaves as it has pieces. -/
theorem leafCount_of_ofRule {f : Formula α} (h : ofRule term rule = .ok f) :
    f.leafCount = 1 + rule.count '|' + rule.count '&' := by
  obtain ⟨cs, hcs, hleaves, -⟩ := ofRule_eq_ok h
  rw [← length_flatten_pieces, leafCount, hleaves]
  exact (List.rel_flatten hcs).length_eq.symm

/-! ## What a rule is read as -/

theorem map_text_flatten_placed (rule : List Char) :
    (placed rule).flatten.map Piece.text = (pieces rule).flatten := by
  rw [List.map_flatten, map_text_placed]

/-- The pieces of a rule where they stand are those that its marks part. -/
theorem map_text_flatten (rule : List Char) :
    (placed rule).flatten.map Piece.text = (rule.splitOnP isMark).map trim := by
  rw [map_text_flatten_placed, flatten_pieces]

theorem ofRule_eq_ok_iff (h : trim rule ≠ []) {f : Formula α} : ofRule term rule = .ok f ↔
    ∃ cs, List.Forall₂ (List.Forall₂ fun t a => t ≠ [] ∧ term t = .ok a) (pieces rule) cs ∧
      anyOf cs = f := by
  rw [ofRule_eq_map h, map_eq_ok_iff]
  simp only [mapM_eq_ok_iff, Piece.read_eq_ok_iff, ← map_text_placed, List.forall₂_map_left_iff]

/-- A rule is one run over its pieces, from the left. -/
theorem leaves_ofRule (h : trim rule ≠ []) :
    leaves <$> ofRule term rule = (placed rule).flatten.mapM (Piece.read term) := by
  rw [ofRule_eq_map h, ← flatten_mapM_mapM, ← funext leaves_anyOf]
  exact (comp_map anyOf leaves _).symm

theorem exists_ofRule_eq_ok_iff (h : trim rule ≠ []) : (∃ f, ofRule term rule = .ok f) ↔
    ∀ t ∈ (pieces rule).flatten, t ≠ [] ∧ ∃ a, term t = .ok a := by
  have hrun : (∃ f, ofRule term rule = .ok f) ↔
      ∃ as, (placed rule).flatten.mapM (Piece.read term) = .ok as := by
    rw [← leaves_ofRule h]
    cases ofRule term rule <;> simp [Functor.map, Except.map]
  rw [hrun, exists_mapM_eq_ok_iff, ← map_text_flatten_placed, List.forall_mem_map]
  simp only [Piece.read_eq_ok_iff, exists_and_left]

theorem ofRule_eq_error_iff (h : trim rule ≠ []) {e : RuleError} : ofRule term rule = .error e ↔
    ∃ before p after, (placed rule).flatten = before ++ p :: after ∧
      (∀ q ∈ before, q.text ≠ [] ∧ ∃ a, term q.text = .ok a) ∧
      (p.text = [] ∧ e = .emptyClause (String.ofList p.list) ∨
        p.text ≠ [] ∧ term p.text = .error e) := by
  rw [← map_eq_error_iff (f := leaves), leaves_ofRule h, mapM_eq_error_iff]
  simp only [Piece.read_eq_ok_iff, Piece.read_eq_error_iff, exists_and_left]

/-- A blank rule is the empty term. Any other rule is read if and only if each of its pieces is a
term, and stands then for any of its clauses, each of them for all of its terms. Where it is not
read, its error is that of the first piece that is none. -/
theorem ofRule_exact (term : List Char → Except RuleError α) (rule : List Char) :
    (trim rule = [] → ofRule term rule = leaf <$> term []) ∧
      (trim rule ≠ [] →
        ((∃ f, ofRule term rule = .ok f) ↔
          ∀ t ∈ (pieces rule).flatten, t ≠ [] ∧ ∃ a, term t = .ok a) ∧
        (∀ f, ofRule term rule = .ok f ↔ ∃ cs,
          List.Forall₂ (List.Forall₂ fun t a => t ≠ [] ∧ term t = .ok a) (pieces rule) cs ∧
            anyOf cs = f) ∧
        ∀ e, ofRule term rule = .error e ↔ ∃ before p after,
          (placed rule).flatten = before ++ p :: after ∧
            (∀ q ∈ before, q.text ≠ [] ∧ ∃ a, term q.text = .ok a) ∧
            (p.text = [] ∧ e = .emptyClause (String.ofList p.list) ∨
              p.text ≠ [] ∧ term p.text = .error e)) ∧
      (placed rule).map (List.map Piece.text) = pieces rule ∧
      ∀ f, ofRule term rule = .ok f → f.leafCount = 1 + rule.count '|' + rule.count '&' := by
  refine ⟨ofRule_of_trim_eq_nil term, fun h => ?_, map_text_placed rule, fun f hf => ?_⟩
  · exact ⟨exists_ofRule_eq_ok_iff h, fun f => ofRule_eq_ok_iff h, fun e => ofRule_eq_error_iff h⟩
  · exact leafCount_of_ofRule hf

/-- In the second rule both the piece before `db` and the one at the end are blank. -/
theorem ofRule_exact_of_names :
    (trim "core & web | db".toList ≠ [] ∧
      ofRule (fun t => .ok (String.ofList t)) "core & web | db".toList =
        .ok (any [all [leaf "core", leaf "web"], leaf "db"])) ∧
      trim "core | & db | ".toList ≠ [] ∧
      ofRule (fun t => .ok (String.ofList t)) "core | & db | ".toList =
        .error (.emptyClause "& db") := by
  have hread : trim "core & web | db".toList ≠ [] := by decide
  have hblank : trim "core | & db | ".toList ≠ [] := by decide
  have hpieces : pieces "core & web | db".toList =
      [["core".toList, "web".toList], ["db".toList]] := by decide
  refine ⟨⟨hread, ?_⟩, hblank, ?_⟩
  · refine ((ofRule_exact _ _).2.1 hread).2.1 _ |>.mpr ⟨[["core", "web"], ["db"]], ?_, rfl⟩
    rw [hpieces]
    simp
  · refine ((ofRule_exact _ _).2.1 hblank).2.2 _ |>.mpr
      ⟨[⟨"core | & db |".toList, "core".toList⟩], ⟨"& db".toList, []⟩, _, rfl, ?_, .inl ⟨rfl, rfl⟩⟩
    simp

end Formula

end Landscape
