import Mathlib
import Landscape.Pattern.OfExpr
import Landscape.Proofs.Pattern.Capture
import Landscape.Proofs.Pattern.Footprint
import Landscape.Proofs.Rule.Clauses
import Landscape.Route.Basic

namespace Landscape

/-!
# The form of a route

A regular expression says what a route looks like. It is found in a text with one greater sign,
which ends an arrow, and in no other. Its first group is lazy, so it leaves to the arrow all that an
arrow can carry; the groups are then fixed by the text.
-/

open Text Pattern Attempt Spot

namespace RouteText

/-! ## Reading the form -/

/-- The expression that `formText` writes. -/
def formExpr : Expr :=
  let side (lazy : Bool) : Expr :=
    .group true [] (.times (.bracketed true (.literal ⟨'>', false⟩)) 0 none lazy)
  let blanks : Expr := .times (.short .space false) 0 none false
  let digits : Expr := .group true [] (.times (.short .digit false) 1 none false)
  let mark : Expr := .group true [] (.literal ⟨'R', false⟩)
  let load : Expr := .seq (.literal ⟨'-', false⟩)
    (.seq (.times digits 0 (some 1) false) (.times mark 0 (some 1) false))
  .seq .lineStart (.seq (side true) (.seq blanks
    (.seq (.times (.group false [] load) 0 (some 1) false)
      (.seq (.literal ⟨'-', false⟩) (.seq (.literal ⟨'>', false⟩)
        (.seq blanks (.seq (side false) .lineEnd)))))))

theorem exprOfText_formText : Expr.ofText formText.toList = .ok formExpr := by cbv

theorem pattern_formExpr : formExpr.pattern .start = .ok (form, .start) := rfl

/-- The form with other sets in it. -/
def formOver (side blank hyphen digit mark greater : CharSet) : Pattern :=
  .sequence [.place .textStart, .group (.times (.one side) 0 none true), .run blank,
    .times (.sequence [.one hyphen,
      .times (.group (.times (.one digit) 1 none false)) 0 (some 1) false,
      .times (.group (.one mark)) 0 (some 1) false]) 0 (some 1) false,
    .one hyphen, .one greater, .run blank, .group (.run side), .place .textEnd]

theorem form_eq_formOver : form =
    formOver notGreater .space (.single '-') .digit (.single 'R') (.single '>') := rfl

/-- Only the sets of the form are simplified. -/
theorem simplified_formOver (a b h d m g : CharSet) : (formOver a b h d m g).simplified =
    formOver (.ranges a.extent) (.ranges b.extent) (.ranges h.extent) (.ranges d.extent)
      (.ranges m.extent) (.ranges g.extent) := by
  simp [formOver, Pattern.sequence, run, simplified, simpleBranches, factored, parts, repetition,
    takesNone, branches]

theorem extent_notGreater : notGreater.extent = [(0, 0x3D), (0x3F, 0x10FFFF)] := by cbv

/-- The form is as large as its sets, each as often as it stands there, and what connects them. -/
theorem size_formOver {a b : CharSet} (h d m g : CharSet) (ha : a.extent ≠ [])
    (hb : b.extent ≠ []) : (formOver a b h d m g).size false =
      .copies 2 (.ofRanges a.extent) + .copies 2 (.ofRanges b.extent) +
        .copies 2 (.ofRanges h.extent) + .ofRanges d.extent + .ofRanges m.extent +
          .ofRanges g.extent + ⟨736, 480⟩ := by
  simp only [formOver, Pattern.sequence, run, size, timesFootprint_one ha, timesFootprint_one hb]
  rcases Footprint.ofRanges a.extent with ⟨af, ab⟩
  rcases Footprint.ofRanges b.extent with ⟨bf, bb⟩
  rcases Footprint.ofRanges h.extent with ⟨hf, hb'⟩
  rcases Footprint.ofRanges d.extent with ⟨df, db⟩
  rcases Footprint.ofRanges m.extent with ⟨mf, mb⟩
  rcases Footprint.ofRanges g.extent with ⟨gf, gb⟩
  simp [timesFootprint, Footprint.both, Footprint.copies, loopSize, Footprint.state,
    Footprint.branch]
  constructor <;> omega

theorem simplified_form : form.simplified =
    formOver (.ranges [(0, 0x3D), (0x3F, 0x10FFFF)]) (.ranges CharSet.spaceRanges) (.single '-')
      (.ranges Category.decimalNumberRanges) (.single 'R') (.single '>') := by
  rw [form_eq_formOver, simplified_formOver, extent_notGreater, CharSet.extent_space,
    CharSet.extent_digit, CharSet.extent_single, CharSet.extent_single, CharSet.extent_single]
  rfl

theorem fits_form : form.footprint.fits = true := by
  have hside : (CharSet.ranges [(0, 0x3D), (0x3F, 0x10FFFF)]).extent =
      [(0, 0x3D), (0x3F, 0x10FFFF)] := by
    rw [CharSet.extent, Ranges.normal_of_pairwise (by decide) (by decide)]
  have hblank : (CharSet.ranges CharSet.spaceRanges).extent = CharSet.spaceRanges := by
    rw [CharSet.extent, Ranges.normal_of_pairwise (by decide) (by decide)]
  have hdigit : (CharSet.ranges Category.decimalNumberRanges).extent =
      Category.decimalNumberRanges := by rw [CharSet.extent, Ranges.normal_decimalNumber]
  have hsize : Footprint.ofRanges Category.decimalNumberRanges = ⟨1584, 5116⟩ := by
    rw [Category.decimalNumberRanges, Ranges.ofText_ofList rfl]
    decide +kernel
  have hstart : form.simplified.fixedAtStart = true := by
    rw [simplified_form]
    rfl
  have hend : form.simplified.fixedAtEnd = true := by
    rw [simplified_form]
    rfl
  rw [footprint, hstart, hend, simplified_form, size_formOver _ _ _ _ (hside.trans_ne (by decide))
    (hblank.trans_ne (by decide)), hside, hblank, hdigit, hsize, CharSet.extent_single,
    CharSet.extent_single, CharSet.extent_single]
  decide +kernel

theorem ofText_formText : Pattern.ofText formText.toList = .ok form := by
  unfold Pattern.ofText
  rw [bind_eq_of_eq_ok exprOfText_formText, bind_eq_of_eq_ok pattern_formExpr]
  exact if_pos fits_form

/-! ## What an arrow carries -/

/-- What stands before an arrow: the digits of its bound and whether it has the mark `R`. -/
structure Load where
  digits : List Char
  required : Bool
  deriving DecidableEq, Repr

theorem digit_hyphen : CharSet.digit.mem '-' = false := CharSet.digit_mem_of_lt (by decide)

theorem digit_mark : CharSet.digit.mem 'R' = false := CharSet.digit_mem_of_lt (by decide)

theorem digit_greater : CharSet.digit.mem '>' = false := CharSet.digit_mem_of_lt (by decide)

/-- The text ends in a hyphen, decimal digits of any script and the mark or none. -/
def EndsIn (left source : List Char) (a : Load) : Prop :=
  (∀ c ∈ a.digits, CharSet.digit.mem c = true) ∧
    left = source ++ '-' :: (a.digits ++ if a.required then ['R'] else [])

/-- What the text before an arrow is left with, and what the arrow carries. -/
def Carries (left source : List Char) (a : Load) : Prop :=
  EndsIn left source a ∨ (∀ source a, ¬ EndsIn left source a) ∧ source = left ∧ a = ⟨[], false⟩

theorem exists_load (left : List Char) : ∃ source a, Carries left source a := by
  by_cases h : ∃ source a, EndsIn left source a
  · obtain ⟨source, a, h⟩ := h
    exact ⟨source, a, .inl h⟩
  · exact ⟨left, ⟨[], false⟩, .inr ⟨fun source a hends => h ⟨source, a, hends⟩, rfl, rfl⟩⟩

section

variable {source source' digits digits' left : List Char} {a a' : Load}

section

variable (source) (hdigits : ∀ c ∈ digits, CharSet.digit.mem c = true)

include hdigits

theorem dropWhile_reverse_append : (source ++ '-' :: digits).reverse.dropWhile CharSet.digit.mem =
    '-' :: source.reverse := by
  rw [List.reverse_append, List.reverse_cons, List.append_assoc, List.singleton_append,
    dropWhile_append_cons digit_hyphen, List.dropWhile_eq_nil_iff.mpr (by simpa using hdigits),
    List.nil_append]

theorem takeWhile_reverse_append : (source ++ '-' :: digits).reverse.takeWhile CharSet.digit.mem =
    digits.reverse := by
  rw [List.reverse_append, List.reverse_cons, List.append_assoc, List.singleton_append,
    List.takeWhile_append_of_pos (by simpa using hdigits),
    List.takeWhile_cons_of_neg (by simp [digit_hyphen]), List.append_nil]

end

/-- Digits are read back from the end of a text. -/
theorem digits_inj (hdigits : ∀ c ∈ digits, CharSet.digit.mem c = true)
    (hdigits' : ∀ c ∈ digits', CharSet.digit.mem c = true)
    (h : source ++ '-' :: digits = source' ++ '-' :: digits') :
    source = source' ∧ digits = digits' := by
  have hdrop := dropWhile_reverse_append source hdigits
  have htake := takeWhile_reverse_append source hdigits
  rw [h, dropWhile_reverse_append source' hdigits'] at hdrop
  rw [h, takeWhile_reverse_append source' hdigits'] at htake
  exact ⟨List.reverse_injective (List.cons.inj hdrop).2.symm, List.reverse_injective htake.symm⟩

/-- No text ends both in digits and in the mark. -/
theorem append_mark_ne (hdigits : ∀ c ∈ digits, CharSet.digit.mem c = true) (s : List Char) :
    s ++ ['R'] ≠ source ++ '-' :: digits := by
  intro h
  have hdrop := dropWhile_reverse_append source hdigits
  rw [← h, List.reverse_append, List.reverse_singleton, List.singleton_append,
    List.dropWhile_cons_of_neg (by simp [digit_mark])] at hdrop
  cases hdrop

theorem EndsIn.eq_append (h : EndsIn left source a) :
    left = (source ++ '-' :: a.digits) ++ if a.required then ['R'] else [] := by
  rw [h.2, List.append_assoc, List.cons_append]

theorem EndsIn.inj (h : EndsIn left source a) (h' : EndsIn left source' a') :
    source = source' ∧ a = a' := by
  have heq := h.eq_append.symm.trans h'.eq_append
  obtain ⟨digits, required⟩ := a
  obtain ⟨digits', required'⟩ := a'
  cases required <;> cases required'
  · simp only [Bool.false_eq_true, if_false, List.append_nil] at heq
    obtain ⟨rfl, rfl⟩ := digits_inj h.1 h'.1 heq
    exact ⟨rfl, rfl⟩
  · simp only [Bool.false_eq_true, if_false, List.append_nil, if_true] at heq
    exact absurd heq.symm (append_mark_ne h.1 _)
  · simp only [Bool.false_eq_true, if_false, List.append_nil, if_true] at heq
    exact absurd heq (append_mark_ne h'.1 _)
  · obtain ⟨rfl, rfl⟩ := digits_inj h.1 h'.1 (List.append_cancel_right heq)
    exact ⟨rfl, rfl⟩

/-- What an arrow carries does not end in a blank. -/
theorem EndsIn.trimEnd_eq (h : EndsIn left source a) : trimEnd left = left := by
  have hlast (s : List Char) {c : Char} (hc : isBlank c = false) :
      trimEnd (s ++ [c]) = s ++ [c] :=
    List.rdropWhile_concat_neg isBlank s c (by simp [hc])
  rw [h.eq_append]
  obtain ⟨digits, required⟩ := a
  cases required with
  | true => exact hlast _ (by decide)
  | false =>
      rcases List.eq_nil_or_concat digits with rfl | ⟨ds, d, rfl⟩
      · simpa using hlast source (c := '-') (by decide)
      · have hd := CharSet.isBlank_of_digit (h.1 d (by simp))
        simpa using hlast (source ++ '-' :: ds) hd

end

/-! ## One arrow -/

/-- The text has one greater sign, and it stands right behind a hyphen. -/
def OneArrow (rule : List Char) : Prop := rule.count '>' = 1 ∧ ['-', '>'] <:+: rule

instance {rule : List Char} : Decidable (OneArrow rule) := inferInstanceAs (Decidable (_ ∧ _))

theorem OneArrow.not_mem {left right : List Char} (h : OneArrow (left ++ '-' :: '>' :: right)) :
    '>' ∉ left ∧ '>' ∉ right := by
  have hcount := h.1
  rw [List.count_append, List.count_cons_of_ne (by decide), List.count_cons_self] at hcount
  rw [← List.count_eq_zero, ← List.count_eq_zero]
  omega

theorem oneArrow_iff {rule : List Char} : OneArrow rule ↔
    ∃ left right, rule = left ++ '-' :: '>' :: right ∧ '>' ∉ left ∧ '>' ∉ right := by
  constructor
  · intro h
    obtain ⟨left, right, hrule⟩ := h.2
    rw [List.append_assoc] at hrule
    exact ⟨left, right, hrule.symm, (hrule ▸ h).not_mem⟩
  · rintro ⟨left, right, rfl, hleft, hright⟩
    refine ⟨?_, left, right, by simp⟩
    rw [List.count_append, List.count_eq_zero.mpr hleft, List.count_cons_of_ne (by decide),
      List.count_cons_self, List.count_eq_zero.mpr hright]

/-- The arrow stands at one place. -/
theorem arrow_inj {left right left' right' : List Char} (hleft : '>' ∉ left) (hright : '>' ∉ right)
    (h : left ++ '-' :: '>' :: right = left' ++ '-' :: '>' :: right') :
    left = left' ∧ right = right' := by
  have hparts : (left ++ ['-']) ++ '>' :: right = (left' ++ ['-']) ++ '>' :: right' := by
    simpa using h
  obtain ⟨hsides, -, hright⟩ :=
    (List.append_cons_inj_of_notMem (by simpa using hleft) hright).mp hparts
  exact ⟨List.append_cancel_right hsides, hright⟩

/-! ## What the form takes -/

def digitsForm : Pattern := .times (.group (.times (.one .digit) 1 none false)) 0 (some 1) false

def markForm : Pattern := .times (.group (.one (.single 'R'))) 0 (some 1) false

/-- The form behind the arrow. -/
def goalForm : Pattern := .sequence [.run .space, .group (.run notGreater), .place .textEnd]

def arrowForm : Pattern := .seq (.one (.single '-')) (.seq (.one (.single '>')) goalForm)

/-- The form behind the source. -/
def restForm : Pattern := .seq (.run .space) (.seq (.times load 0 (some 1) false) arrowForm)

theorem wellCounted_form : form.WellCounted := by
  simp [form, load, Pattern.sequence, run, WellCounted]

theorem wellCounted_restForm : restForm.WellCounted := wellCounted_form.2.2

theorem notGreater_mem_iff {c : Char} : notGreater.mem c = true ↔ c ≠ '>' := by
  rw [notGreater, CharSet.mem_compl, Bool.not_eq_true', ← Bool.not_eq_true, CharSet.mem_single]

variable {prev next : Option Char} {s : List Char}

theorem takes_single_iff {c : Char} :
    (one (.single c)).Takes prev s next ↔ s = [c] := by
  simp only [Takes, CharSet.mem_single]
  constructor
  · rintro ⟨d, rfl, rfl⟩
    rfl
  · rintro rfl
    exact ⟨c, rfl, rfl⟩

theorem takes_load_iff : load.Takes prev s next ↔ ∃ a, EndsIn s [] a := by
  constructor
  · rintro ⟨hyphen, _, rfl, hhyphen, digits, mark, rfl, hdigits, hmark⟩
    obtain rfl := takes_single_iff.mp hhyphen
    have hall : ∀ c ∈ digits, CharSet.digit.mem c = true := by
      rcases takes_optional_iff.mp hdigits with rfl | hdigits
      · simp
      · exact (takes_times_one_iff.mp (takes_group_iff.mp hdigits)).2
    rcases takes_optional_iff.mp hmark with rfl | hmark
    · exact ⟨⟨digits, false⟩, hall, rfl⟩
    · rw [takes_group_iff, takes_single_iff] at hmark
      subst hmark
      exact ⟨⟨digits, true⟩, hall, rfl⟩
  · rintro ⟨⟨digits, required⟩, hall, rfl⟩
    refine ⟨['-'], _, rfl, takes_single_iff.mpr rfl, digits, _, rfl, ?_, ?_⟩
    · refine takes_optional_iff.mpr ?_
      cases digits with
      | nil => exact .inl rfl
      | cons d digits =>
          refine .inr (takes_group_iff.mpr ?_)
          exact takes_times_one_iff.mpr ⟨Nat.le_add_left 1 _, hall⟩
    · refine takes_optional_iff.mpr ?_
      cases required with
      | false => exact .inl rfl
      | true => exact .inr (takes_group_iff.mpr (takes_single_iff.mpr rfl))

theorem takes_restForm (h : restForm.Takes prev s next) : next = none ∧
    ∃ blanks carried right, s = blanks ++ carried ++ '-' :: '>' :: right ∧
      (∀ c ∈ blanks, isBlank c = true) ∧ (carried = [] ∨ ∃ a, EndsIn carried [] a) ∧
        '>' ∉ right := by
  obtain ⟨blanks, _, rfl, hblanks, carried, _, rfl, hcarried, hyphen, _, rfl, hhyphen,
    greater, _, rfl, hgreater, gap, _, rfl, hgap, goal, last, rfl, hgoal, rfl, hlast⟩ := h
  obtain rfl := takes_single_iff.mp hhyphen
  obtain rfl := takes_single_iff.mp hgreater
  have hgap : ∀ c ∈ gap, c ≠ '>' := by
    rw [takes_run_iff, CharSet.space_mem_eq] at hgap
    rintro c hc rfl
    exact absurd (hgap _ hc) (by decide)
  have hgoal : ∀ c ∈ goal, c ≠ '>' := fun c hc =>
    notGreater_mem_iff.mp (takes_run_iff.mp hgoal c hc)
  rw [takes_run_iff, CharSet.space_mem_eq] at hblanks
  refine ⟨Option.isNone_iff_eq_none.mp hlast, blanks, carried, gap ++ goal, by simp, hblanks,
    (takes_optional_iff.mp hcarried).imp_right takes_load_iff.mp, ?_⟩
  rw [List.mem_append, not_or]
  exact ⟨fun h => hgap _ h rfl, fun h => hgoal _ h rfl⟩

theorem EndsIn.not_mem_greater {carried : List Char} {a : Load} (h : EndsIn carried [] a) :
    '>' ∉ carried := by
  have hdigits : '>' ∉ a.digits := by
    intro hmem
    exact Bool.false_ne_true (digit_greater.symm.trans (h.1 _ hmem))
  rw [h.2]
  cases a.required <;> simpa using hdigits

/-- The form is found in texts of one arrow only. -/
theorem oneArrow_of_isSome_captures {rule : List Char} (h : (form.captures rule).isSome = true) :
    OneArrow rule := by
  rw [isSome_captures wellCounted_form, occursIn_iff wellCounted_form] at h
  obtain ⟨before, _, after, rfl, start, _, rfl, ⟨rfl, hstart⟩, source, rest, rfl, hsource,
    hrest⟩ := h
  obtain ⟨hafter, blanks, carried, right, rfl, hblanks, hcarried, hright⟩ := takes_restForm hrest
  have hbefore : before = [] := by simpa [Anchor.holds] using hstart
  have hafter : after = [] := by simpa using hafter
  rw [takes_group_iff, takes_times_one_iff] at hsource
  have hsource : '>' ∉ source := fun h => notGreater_mem_iff.mp (hsource.2 _ h) rfl
  have hblanks : '>' ∉ blanks := fun h => absurd (hblanks _ h) (by decide)
  have hcarried : '>' ∉ carried := by
    rcases hcarried with rfl | ⟨a, ha⟩
    · exact List.not_mem_nil
    · exact ha.not_mem_greater
  refine oneArrow_iff.mpr ⟨source ++ blanks ++ carried, right, ?_, ?_, hright⟩
  · simp [hbefore, hafter]
  · simp [hsource, hblanks, hcarried]

/-! ## What the groups take -/

/-- What the groups of a load take, the last first. -/
def Load.groups (a : Load) : List (Nat × List Char) :=
  (if a.required then [(3, ['R'])] else []) ++ if a.digits = [] then [] else [(2, a.digits)]

theorem Load.lookup_groups (a : Load) (goal source : List Char) :
    let groups := (4, goal) :: (a.groups ++ [(1, source)])
    groups.lookup 1 = some source ∧
      groups.lookup 2 = (if a.digits = [] then none else some a.digits) ∧
        (groups.lookup 3).isSome = a.required ∧ groups.lookup 4 = some goal := by
  obtain ⟨digits, required⟩ := a
  cases required <;> by_cases hdigits : digits = [] <;> simp [groups, hdigits, List.lookup]

section

variable {right : List Char} {taken : List (Nat × List Char)} {z : Spot}

theorem attempt_goalForm (prev : Option Char) (hright : '>' ∉ right)
    (taken : List (Nat × List Char)) : ∃ z, goalForm.attempt 4 some ⟨prev, right, taken⟩ = some z ∧
      z.taken = (4, trimStart right) :: taken := by
  have hgroup (prev : Option Char) {s : List Char} (hs : '>' ∉ s) :
      (group (run notGreater)).attempt 4 ((place .textEnd).attempt 4 some) ⟨prev, s, taken⟩ =
        some ⟨s.getLast?.or prev, [], (4, s) :: taken⟩ := by
    have hall : ∀ c ∈ s, notGreater.mem c = true := fun c hc =>
      notGreater_mem_iff.mpr (ne_of_mem_of_not_mem hc hs)
    have hpast : past notGreater ⟨prev, s ++ [], taken⟩ = ⟨s.getLast?.or prev, [], taken⟩ :=
      past_append hall (by simp)
    have hkeep : keep ⟨prev, s, taken⟩ 4 ⟨s.getLast?.or prev, [], taken⟩ =
        ⟨s.getLast?.or prev, [], (4, s) :: taken⟩ := by
      simp [keep, stretch]
    refine attempt_run ?_
    rw [List.append_nil] at hpast
    rw [hpast, hkeep]
    rfl
  have hpast : past .space ⟨prev, right, taken⟩ =
      ⟨(right.takeWhile isBlank).getLast?.or prev, trimStart right, taken⟩ := by
    rw [past, CharSet.space_mem_eq]
    rfl
  have htrim : '>' ∉ trimStart right := fun h => hright ((List.dropWhile_sublist isBlank).subset h)
  have hlast := hgroup ((right.takeWhile isBlank).getLast?.or prev) htrim
  rw [← hpast] at hlast
  exact ⟨_, attempt_run hlast, rfl⟩

theorem attempt_mark (prev : Option Char) {required : Bool}
    (h : goalForm.attempt 4 some
      ⟨some '>', right, (if required then [(3, ['R'])] else []) ++ taken⟩ = some z) :
    markForm.attempt 3 (arrowForm.attempt 4 some)
      ⟨prev, (if required then ['R'] else []) ++ '-' :: '>' :: right, taken⟩ = some z := by
  cases required with
  | false => exact (attempt_optional_of_eq_none rfl).trans h
  | true =>
      have hkeep : keep ⟨prev, 'R' :: '-' :: '>' :: right, taken⟩ 3
          ⟨some 'R', '-' :: '>' :: right, taken⟩ =
            ⟨some 'R', '-' :: '>' :: right, (3, ['R']) :: taken⟩ := by
        simp [keep, stretch]
      have hgroup : (group (one (.single 'R'))).attempt 3 (arrowForm.attempt 4 some)
          ⟨prev, 'R' :: '-' :: '>' :: right, taken⟩ =
            arrowForm.attempt 4 some ⟨some 'R', '-' :: '>' :: right, (3, ['R']) :: taken⟩ := by
        rw [← hkeep]
        rfl
      exact attempt_optional_of_eq_some (hgroup.trans h)

theorem attempt_digits {next : Attempt} {digits s : List Char} (prev : Option Char)
    (hdigits : ∀ c ∈ digits, CharSet.digit.mem c = true)
    (hs : ∀ c ∈ s.head?, CharSet.digit.mem c = false)
    (h : next ⟨digits.getLast?.or prev, s,
      (if digits = [] then [] else [(2, digits)]) ++ taken⟩ = some z) :
    digitsForm.attempt 2 next ⟨prev, digits ++ s, taken⟩ = some z := by
  cases digits with
  | nil =>
      have hnone : (group (times (one .digit) 1 none false)).attempt 2 next ⟨prev, s, taken⟩ =
          none := by
        rw [attempt_group, attempt_some_of_head? hs]
      exact (attempt_optional_of_eq_none hnone).trans h
  | cons d ds =>
      obtain ⟨hd, hds⟩ := List.forall_mem_cons.mp hdigits
      have hkeep (prev' : Option Char) : keep ⟨prev, d :: ds ++ s, taken⟩ 2 ⟨prev', s, taken⟩ =
          ⟨prev', s, (2, d :: ds) :: taken⟩ := by
        rw [keep, stretch_append]
      have hgroup : (group (times (one .digit) 1 none false)).attempt 2 next
          ⟨prev, d :: ds ++ s, taken⟩ = some z := by
        rw [attempt_group, List.cons_append, attempt_some_cons hd]
        refine attempt_run ?_
        rw [past_append hds hs, ← List.cons_append, hkeep, ← getLast?_cons_or d ds prev]
        exact h
      exact attempt_optional_of_eq_some hgroup

theorem attempt_load {carried : List Char} {a : Load} (prev : Option Char)
    (ha : EndsIn carried [] a)
    (h : goalForm.attempt 4 some ⟨some '>', right, a.groups ++ taken⟩ = some z) :
    (seq (times load 0 (some 1) false) arrowForm).attempt 2 some
      ⟨prev, carried ++ '-' :: '>' :: right, taken⟩ = some z := by
  obtain ⟨digits, required⟩ := a
  obtain ⟨hdigits, rfl⟩ := ha
  rw [Load.groups, List.append_assoc] at h
  have hhead : ∀ c ∈ ((if required then ['R'] else []) ++ '-' :: '>' :: right).head?,
      CharSet.digit.mem c = false := by
    cases required <;> simp [digit_hyphen, digit_mark]
  have hload := attempt_digits (some '-') hdigits hhead (attempt_mark _ h)
  rw [← List.append_assoc] at hload
  exact attempt_optional_of_eq_some hload

/-- An arrow that carries nothing has its hyphen to itself. -/
theorem attempt_arrow (prev : Option Char) (taken : List (Nat × List Char)) :
    (seq (times load 0 (some 1) false) arrowForm).attempt 2 some
      ⟨prev, '-' :: '>' :: right, taken⟩ =
        goalForm.attempt 4 some ⟨some '>', right, taken⟩ := by
  have hgroup : (group (times (one .digit) 1 none false)).attempt 2
      (markForm.attempt 3 (arrowForm.attempt 4 some)) ⟨some '-', '>' :: right, taken⟩ = none := by
    rw [attempt_group, attempt_some_of_head? (by simp [digit_greater])]
  have hdigits : digitsForm.attempt 2 (markForm.attempt 3 (arrowForm.attempt 4 some))
      ⟨some '-', '>' :: right, taken⟩ = none := attempt_optional_of_eq_none hgroup
  have hload : load.attempt 2 (arrowForm.attempt 4 some) ⟨prev, '-' :: '>' :: right, taken⟩ =
      none := hdigits
  exact attempt_optional_of_eq_none hload

theorem attempt_restForm {blanks carried : List Char} {a : Load} (prev : Option Char)
    (hblanks : ∀ c ∈ blanks, isBlank c = true)
    (ha : EndsIn carried [] a ∨ carried = [] ∧ a = ⟨[], false⟩)
    (h : goalForm.attempt 4 some ⟨some '>', right, a.groups ++ taken⟩ = some z) :
    restForm.attempt 2 some ⟨prev, blanks ++ (carried ++ '-' :: '>' :: right), taken⟩ = some z := by
  have hhead : ∀ c ∈ (carried ++ '-' :: '>' :: right).head?, isBlank c = false := by
    rcases ha with ha | ⟨rfl, -⟩
    · rw [ha.2]
      simp
      decide
    · simp
      decide
  refine attempt_run ?_
  rw [past_append (by rwa [CharSet.space_mem_eq]) (by rwa [CharSet.space_mem_eq])]
  rcases ha with ha | ⟨rfl, rfl⟩
  · exact attempt_load _ ha h
  · exact (attempt_arrow _ _).trans h

end

theorem exists_of_restForm {x z : Spot} (h : restForm.attempt 2 some x = some z) :
    ∃ blanks carried right, x.rest = blanks ++ carried ++ '-' :: '>' :: right ∧
      (∀ c ∈ blanks, isBlank c = true) ∧ (carried = [] ∨ ∃ a, EndsIn carried [] a) := by
  obtain ⟨y, ⟨s, hrest, -, htakes⟩, -⟩ := exists_of_attempt wellCounted_restForm h
  obtain ⟨hend, blanks, carried, right, rfl, hblanks, hcarried, -⟩ := takes_restForm htakes
  rw [List.head?_eq_none_iff.mp hend, List.append_nil] at hrest
  exact ⟨blanks, carried, right, hrest, hblanks, hcarried⟩

/-- However an arrow is read off a text, what it leaves is no shorter than the source. -/
theorem Carries.length_trimEnd_le {left source s blanks carried : List Char} {a : Load}
    (h : Carries left source a) (hleft : left = s ++ blanks ++ carried)
    (hblanks : ∀ c ∈ blanks, isBlank c = true)
    (hcarried : carried = [] ∨ ∃ a, EndsIn carried [] a) :
    (trimEnd source).length ≤ s.length := by
  have hlength (t : List Char) : (trimEnd t).length ≤ t.length :=
    (List.rdropWhile_prefix isBlank t).length_le
  have hshort : (trimEnd (s ++ blanks)).length ≤ s.length := by
    rw [trimEnd_append_right hblanks]
    exact hlength s
  rcases hcarried with rfl | ⟨a', ha'⟩
  · rw [List.append_nil] at hleft
    rw [← hleft] at hshort
    rcases h with h | ⟨-, rfl, -⟩
    · rw [h.trimEnd_eq, h.2, List.length_append] at hshort
      exact (hlength source).trans ((Nat.le_add_right _ _).trans hshort)
    · exact hshort
  · have hends : EndsIn left (s ++ blanks) a' := by
      refine ⟨ha'.1, ?_⟩
      rw [hleft, ha'.2, List.nil_append]
    rcases h with h | ⟨hnone, -⟩
    · rwa [(h.inj hends).1]
    · exact absurd hends (hnone _ _)

/-- Behind less than the source no arrow is read, since it would carry more than one can. -/
theorem attempt_restForm_eq_none {left right source s : List Char} {a : Load} {x : Spot}
    (h : Carries left source a) (hgreater : '>' ∉ left) (hright : '>' ∉ right)
    (hrest : left ++ '-' :: '>' :: right = s ++ x.rest)
    (hlt : s.length < (trimEnd source).length) : restForm.attempt 2 some x = none := by
  refine Option.eq_none_iff_forall_ne_some.mpr fun z hz => ?_
  obtain ⟨blanks, carried, right', hx, hblanks, hcarried⟩ := exists_of_restForm hz
  have hrule : left ++ '-' :: '>' :: right =
      (s ++ blanks ++ carried) ++ '-' :: '>' :: right' := by
    rw [hrest, hx, List.append_assoc, List.append_assoc, List.append_assoc]
  have hleft : left = s ++ blanks ++ carried := (arrow_inj hgreater hright hrule).1
  exact absurd (h.length_trimEnd_le hleft hblanks hcarried) (Nat.not_le_of_lt hlt)

/-- The groups of the form are fixed by the text: the source without the blanks at its end, what the
arrow carries and the goal without the blanks before it. -/
theorem captures_form {rule left right source : List Char} {a : Load}
    (hrule : rule = left ++ '-' :: '>' :: right) (harrow : OneArrow rule)
    (hleft : Carries left source a) : ∃ z, form.captures rule = some z ∧
      z.taken = (4, trimStart right) :: (a.groups ++ [(1, trimEnd source)]) := by
  obtain ⟨hgreater, hright⟩ := (hrule ▸ harrow).not_mem
  obtain ⟨blanks, hblanks, hsource⟩ := exists_append_trimEnd source
  obtain ⟨carried, hcarried, hparts⟩ : ∃ carried,
      (EndsIn carried [] a ∨ carried = [] ∧ a = ⟨[], false⟩) ∧ left = source ++ carried := by
    rcases hleft with h | ⟨-, rfl, rfl⟩
    · exact ⟨_, .inl ⟨h.1, rfl⟩, h.2⟩
    · exact ⟨[], .inr ⟨rfl, rfl⟩, (List.append_nil _).symm⟩
  have htext : rule = trimEnd source ++ (blanks ++ (carried ++ '-' :: '>' :: right)) := by
    rw [← List.append_assoc, hsource, ← List.append_assoc, ← hparts, hrule]
  obtain ⟨z, hz, htaken⟩ :=
    attempt_goalForm (some '>') hright (a.groups ++ [(1, trimEnd source)])
  refine ⟨z, captures_of_attempt ?_, htaken⟩
  have hside : ∀ c ∈ trimEnd source, notGreater.mem c = true := by
    intro c hc
    refine notGreater_mem_iff.mpr (ne_of_mem_of_not_mem ?_ hgreater)
    rw [hparts, ← hsource]
    exact List.mem_append_left _ (List.mem_append_left _ hc)
  have hkeep (prev : Option Char) (s t : List Char) : keep ⟨none, s ++ t, []⟩ 1 ⟨prev, t, []⟩ =
      ⟨prev, t, [(1, s)]⟩ := by
    rw [keep, stretch_append]
  have hgroup : (group (times (one notGreater) 0 none true)).attempt 1 (restForm.attempt 2 some)
      ⟨none, rule, []⟩ = some z := by
    rw [attempt_group, htext]
    refine attempt_lazy hside (fun s₁ s₂ heq hne => ?_) ?_
    · have hrest : left ++ '-' :: '>' :: right =
          s₁ ++ (s₂ ++ (blanks ++ (carried ++ '-' :: '>' :: right))) := by
        rw [← hrule, htext, heq, List.append_assoc]
      refine attempt_restForm_eq_none hleft hgreater hright hrest ?_
      rw [heq, List.length_append]
      exact Nat.lt_add_of_pos_right (List.length_pos_of_ne_nil hne)
    · rw [hkeep]
      exact attempt_restForm _ hblanks hcarried hz
  exact hgroup

theorem isSome_captures_form_iff {rule : List Char} :
    (form.captures rule).isSome = true ↔ OneArrow rule := by
  refine ⟨oneArrow_of_isSome_captures, fun h => ?_⟩
  obtain ⟨left, right, hrule, -⟩ := oneArrow_iff.mp h
  obtain ⟨source, a, hleft⟩ := exists_load left
  obtain ⟨z, hz, -⟩ := captures_form hrule h hleft
  rw [hz]
  rfl

end RouteText

end Landscape
