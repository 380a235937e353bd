import Landscape.Proofs.Route.Form
import Landscape.Proofs.Rule.Blame

namespace Landscape

/-!
# The grammar of routes

The text of a route has one greater sign, which ends an arrow. The text before the arrow may end in
a bound and the mark `R` behind a hyphen; what is left of it is the test of the source, and the
text behind the arrow is the test of the goal. The parts are read in the order of the text, and the
first that cannot be read is what is wrong with the route.
-/

open Text

namespace Text

/-! ## Numbers -/

theorem digit?_eq_ite (c : Char) :
    digit? c = if c.isDigit then some (c.toNat - '0'.toNat) else none := rfl

theorem le_ofDigitChars (n : Nat) (cs : List Char) : n ≤ Nat.ofDigitChars 10 cs n := by
  induction cs generalizing n with
  | nil => exact Nat.le_refl n
  | cons c cs ih =>
      rw [Nat.ofDigitChars_cons]
      have hle := ih (10 * n + (c.toNat - '0'.toNat))
      omega

/-- Digits are read if and only if they are those of ASCII and their value stays below the bound. -/
theorem readDigits_eq_ok_iff {bound n v : Nat} {cs : List Char} (hn : n < bound) :
    readDigits bound n cs = .ok v ↔
      (∀ c ∈ cs, c.isDigit = true) ∧ Nat.ofDigitChars 10 cs n < bound ∧
        Nat.ofDigitChars 10 cs n = v := by
  induction cs generalizing n with
  | nil => simp [readDigits, hn]
  | cons c cs ih =>
      rw [readDigits, digit?_eq_ite, Nat.ofDigitChars_cons, List.forall_mem_cons]
      cases hc : c.isDigit with
      | false => simp
      | true =>
          simp only [if_true, true_and]
          split_ifs with hlt
          · exact ih hlt
          · have hle := le_ofDigitChars (10 * n + (c.toNat - '0'.toNat)) cs
            simp only [false_iff]
            rintro ⟨-, hbound, -⟩
            omega

theorem readNumeral_of_ne {bound : Nat} {c : Char} (hc : c ≠ '+') (cs : List Char) :
    readNumeral bound (c :: cs) = readDigits bound 0 (c :: cs) := by
  unfold readNumeral
  split
  · rename_i heq
    cases heq
  · rename_i heq
    exact absurd (List.cons.inj heq).1 hc
  · rename_i heq
    exact absurd (List.cons.inj heq).1 hc
  · rfl

end Text

/-- Blanks at the ends of a term do not count. -/
theorem Term.ofText_congr {α : Type} (turn : α → α) (test : List Char → Except RuleError α)
    {s t : List Char} (h : trim s = trim t) : ofText turn test s = ofText turn test t := by
  rw [ofText, ofText, h]

theorem ProjectTest.ofText_congr {s t : List Char} (h : trim s = trim t) :
    ofText s = ofText t :=
  Term.ofText_congr _ _ h

namespace RouteText

/-! ## Blanks around an arrow -/

theorem trim_arrow (left right : List Char) :
    trim (left ++ '-' :: '>' :: right) = trimStart left ++ '-' :: '>' :: trimEnd right := by
  have hend : trimEnd ('>' :: right) = '>' :: trimEnd right :=
    trimEnd_append_cons (by decide) [] right
  rw [trim, trimStart_append_cons (by decide), trimEnd_append_cons (by decide), hend]

/-! ## The bound -/

/-- The digits are those of ASCII and write a number of 64 bits. -/
def Fits (digits : List Char) : Prop :=
  (∀ c ∈ digits, c.isDigit = true) ∧ Nat.ofDigitChars 10 digits 0 < UInt64.size

instance {digits : List Char} : Decidable (Fits digits) :=
  inferInstanceAs (Decidable (_ ∧ _))

/-- The bound that the digits stand for. -/
def boundOf (usual : Option Nat) (digits : List Char) : Option Nat :=
  if digits = [] then usual else some (Nat.ofDigitChars 10 digits 0)

theorem readBound_eq_ite {rule digits : List Char} {usual : Option Nat}
    (hdigits : ∀ c ∈ digits, CharSet.digit.mem c = true) :
    readBound rule usual (if digits = [] then none else some digits) =
      if Fits digits then .ok (boundOf usual digits)
      else .error (.invalidDepth (String.ofList rule) (String.ofList digits)) := by
  unfold readBound boundOf
  cases digits with
  | nil => simp [Fits]
  | cons c cs =>
      have hplus : c ≠ '+' := by
        rintro rfl
        have hdigit := hdigits _ List.mem_cons_self
        rw [CharSet.digit_mem_of_lt (by decide)] at hdigit
        cases hdigit
      have hread (v : Nat) : readNumeral boundLimit (c :: cs) = .ok v ↔
          (∀ d ∈ c :: cs, d.isDigit = true) ∧ Nat.ofDigitChars 10 (c :: cs) 0 < boundLimit ∧
            Nat.ofDigitChars 10 (c :: cs) 0 = v := by
        rw [readNumeral_of_ne hplus]
        exact readDigits_eq_ok_iff (by decide)
      simp only [reduceCtorEq, if_false]
      by_cases hfits : Fits (c :: cs)
      · rw [if_pos hfits, (hread _).mpr ⟨hfits.1, hfits.2, rfl⟩]
      · rw [if_neg hfits]
        cases hv : readNumeral boundLimit (c :: cs) with
        | error _ => rfl
        | ok v =>
            obtain ⟨hascii, hlt, -⟩ := (hread v).mp hv
            exact absurd ⟨hascii, hlt⟩ hfits

/-! ## The parts of a route in their order -/

theorem ofText_of_not_oneArrow {rule : List Char} {usual : Option Nat}
    (h : ¬ OneArrow (trim rule)) :
    ofText usual rule = .error (.malformedRoute (String.ofList (trim rule))) := by
  have hnone : form.captures (trim rule) = none := by
    rw [← Option.not_isSome_iff_eq_none, isSome_captures_form_iff]
    exact h
  unfold ofText
  simp only [hnone]

section

variable {rule left right source : List Char} {a : Load} {usual : Option Nat}
  (hrule : trim rule = left ++ '-' :: '>' :: right) (harrow : OneArrow (trim rule))
  (hleft : Carries left source a)

include hrule harrow hleft

theorem ofText_of_carries : ofText usual rule =
    (do
      let s ← ProjectTest.ofText source
      let bound ← (if Fits a.digits then .ok (boundOf usual a.digits)
        else .error (.invalidDepth (String.ofList (trim rule)) (String.ofList a.digits)))
      let d ← ProjectTest.ofText right
      return ⟨s, bound, a.required, d⟩) := by
  obtain ⟨z, hz, htaken⟩ := captures_form hrule harrow hleft
  have hdigits : ∀ c ∈ a.digits, CharSet.digit.mem c = true := by
    rcases hleft with h | ⟨-, -, rfl⟩
    · exact h.1
    · simp
  have hgroups : z.group? 1 = some (trimEnd source) ∧
      z.group? 2 = (if a.digits = [] then none else some a.digits) ∧
        (z.group? 3).isSome = a.required ∧ z.group? 4 = some (trimStart right) := by
    rw [Spot.group?, Spot.group?, Spot.group?, Spot.group?, htaken]
    exact a.lookup_groups _ _
  obtain ⟨hfirst, hsecond, hthird, hfourth⟩ := hgroups
  unfold ofText
  simp only [hz, hfirst, hsecond, hthird, hfourth, Option.getD_some, readBound_eq_ite hdigits,
    ProjectTest.ofText_congr (trim_trimEnd source), ProjectTest.ofText_congr (trim_trimStart right)]

theorem ofText_eq_ok_iff {t : RouteText} : ofText usual rule = .ok t ↔
    ProjectTest.ofText source = .ok t.source ∧ Fits a.digits ∧
      t.bound = boundOf usual a.digits ∧ t.required = a.required ∧
        ProjectTest.ofText right = .ok t.dest := by
  obtain ⟨s, bound, required, d⟩ := t
  rw [ofText_of_carries hrule harrow hleft]
  by_cases hfits : Fits a.digits
  · rw [if_pos hfits]
    cases ProjectTest.ofText source <;> cases ProjectTest.ofText right <;>
      simp [bind, Except.bind, pure, Except.pure, hfits, eq_comm]
  · rw [if_neg hfits]
    cases ProjectTest.ofText source <;> simp [bind, Except.bind, hfits]

theorem ofText_eq_error_iff {e : RuleError} : ofText usual rule = .error e ↔
    ProjectTest.ofText source = .error e ∨ (∃ s, ProjectTest.ofText source = .ok s) ∧
      (¬ Fits a.digits ∧
          e = .invalidDepth (String.ofList (trim rule)) (String.ofList a.digits) ∨
        Fits a.digits ∧ ProjectTest.ofText right = .error e) := by
  rw [ofText_of_carries hrule harrow hleft]
  by_cases hfits : Fits a.digits
  · rw [if_pos hfits]
    cases ProjectTest.ofText source <;> cases ProjectTest.ofText right <;>
      simp [bind, Except.bind, pure, Except.pure, hfits]
  · rw [if_neg hfits]
    cases ProjectTest.ofText source <;> simp [bind, Except.bind, hfits, eq_comm]

end

theorem exists_carries {rule : List Char} (h : OneArrow rule) : ∃ left right source a,
    rule = left ++ '-' :: '>' :: right ∧ Carries left source a := by
  obtain ⟨left, right, hrule, -⟩ := oneArrow_iff.mp h
  obtain ⟨source, a, hcarries⟩ := exists_load left
  exact ⟨left, right, source, a, hrule, hcarries⟩

theorem ofText_eq_malformed_iff {rule : List Char} {usual : Option Nat} {m : String} :
    ofText usual rule = .error (.malformedRoute m) ↔
      ¬ OneArrow (trim rule) ∧ m = String.ofList (trim rule) := by
  by_cases harrow : OneArrow (trim rule)
  · -- what is wrong with a term is not the form of a route
    obtain ⟨left, right, source, a, hrule, hcarries⟩ := exists_carries harrow
    rw [ofText_eq_error_iff hrule harrow hcarries]
    refine iff_of_false ?_ fun h => h.1 harrow
    rintro (hsource | ⟨-, ⟨-, hdepth⟩ | ⟨-, hdest⟩⟩)
    · cases ProjectTest.ofText_error hsource
    · cases hdepth
    · cases ProjectTest.ofText_error hdest
  · rw [ofText_of_not_oneArrow harrow]
    simp [harrow, eq_comm]

/-! ## A route as it is written -/

theorem digit_of_isDigit {c : Char} (h : c.isDigit = true) : CharSet.digit.mem c = true := by
  have hle : c.toNat ≤ 57 := by
    simp only [Char.isDigit, Bool.and_eq_true, decide_eq_true_eq, ge_iff_le,
      UInt32.le_iff_toNat_le] at h
    exact h.2
  rw [CharSet.digit_mem_of_lt (by omega), h]

/-- The digits of a bound, none if there is none. -/
def digitsOf (bound : Option Nat) : List Char := bound.elim [] (Nat.toDigits 10)

theorem isDigit_of_mem_digitsOf {bound : Option Nat} {c : Char} (h : c ∈ digitsOf bound) :
    c.isDigit = true := by
  cases bound with
  | none => cases h
  | some n => exact Nat.isDigit_of_mem_toDigits (by decide) (by decide) h

theorem fits_digitsOf {bound : Option Nat} (h : ∀ n ∈ bound, n < UInt64.size) :
    Fits (digitsOf bound) := by
  refine ⟨fun c hc => isDigit_of_mem_digitsOf hc, ?_⟩
  cases bound with
  | none => decide
  | some n =>
      rw [digitsOf, Option.elim_some, Nat.ofDigitChars_ten_toDigits]
      exact h n rfl

theorem boundOf_digitsOf (usual bound : Option Nat) :
    boundOf usual (digitsOf bound) = bound.or usual := by
  cases bound with
  | none => rfl
  | some n =>
      rw [boundOf, digitsOf, Option.elim_some, if_neg Nat.toDigits_ne_nil,
        Nat.ofDigitChars_ten_toDigits, Option.some_or]

/-- A route with a blank before what the arrow carries. -/
def write (source dest : List Char) (bound : Option Nat) (required : Bool) : List Char :=
  source ++ ' ' :: '-' :: (digitsOf bound ++ if required then ['R'] else []) ++
    '-' :: '>' :: ' ' :: dest

theorem trim_write (source dest : List Char) (bound : Option Nat) (required : Bool) :
    trim (write source dest bound required) =
      (trimStart (source ++ [' ']) ++ '-' :: (digitsOf bound ++ if required then ['R'] else [])) ++
        '-' :: '>' :: trimEnd (' ' :: dest) := by
  have hleft : write source dest bound required =
      ((source ++ [' ']) ++ '-' :: (digitsOf bound ++ if required then ['R'] else [])) ++
        '-' :: '>' :: ' ' :: dest := by
    simp [write]
  rw [hleft, trim_arrow, trimStart_append_cons (by decide)]

theorem not_mem_digitsOf {bound : Option Nat} {c : Char} (h : c.isDigit = false) :
    c ∉ digitsOf bound := by
  intro hmem
  rw [isDigit_of_mem_digitsOf hmem] at h
  cases h

theorem oneArrow_trim_write {source dest : List Char} (hsource : '>' ∉ source)
    (hdest : '>' ∉ dest) (bound : Option Nat) (required : Bool) :
    OneArrow (trim (write source dest bound required)) := by
  rw [trim_write, oneArrow_iff]
  refine ⟨_, _, rfl, fun hmem => ?_, fun hmem => ?_⟩
  · have hstart : '>' ∉ trimStart (source ++ [' ']) := fun h =>
      hsource (by simpa using (List.dropWhile_sublist isBlank).subset h)
    have hdigits : '>' ∉ digitsOf bound := not_mem_digitsOf (by decide)
    cases required <;> simp_all
  · have hmem' : '>' ∈ ' ' :: dest := (List.rdropWhile_prefix isBlank _).subset hmem
    exact hdest (by simpa using hmem')

/-- What was written is read, each part as it would be read alone. -/
theorem ofText_write {source dest : List Char} {bound : Option Nat} (hs : '>' ∉ source)
    (hd : '>' ∉ dest) (hbound : ∀ n ∈ bound, n < UInt64.size) (usual : Option Nat)
    (required : Bool) : ofText usual (write source dest bound required) =
      (do
        let s ← ProjectTest.ofText source
        let d ← ProjectTest.ofText dest
        return ⟨s, bound.or usual, required, d⟩) := by
  have hcarries : Carries
      (trimStart (source ++ [' ']) ++ '-' :: (digitsOf bound ++ if required then ['R'] else []))
      (trimStart (source ++ [' '])) ⟨digitsOf bound, required⟩ :=
    .inl ⟨fun c hc => digit_of_isDigit (isDigit_of_mem_digitsOf hc), rfl⟩
  have hspace : ∀ c ∈ [' '], isBlank c = true := List.forall_mem_singleton.mpr (by decide)
  have hsource : trim (trimStart (source ++ [' '])) = trim source := by
    rw [trim_trimStart, trim_append_right hspace]
  have hdest : trim (trimEnd (' ' :: dest)) = trim dest := by
    rw [trim_trimEnd]
    exact trim_append_left hspace dest
  rw [ofText_of_carries (trim_write ..) (oneArrow_trim_write hs hd bound required) hcarries,
    if_pos (fits_digitsOf hbound), boundOf_digitsOf,
    ProjectTest.ofText_congr hsource, ProjectTest.ofText_congr hdest]
  rfl

/-- An arrow and a goal are a route from anywhere. -/
theorem ofText_goal {dest : List Char} (h : '>' ∉ dest) (usual : Option Nat) :
    ofText usual ('-' :: '>' :: dest) =
      (fun d => ⟨.any, usual, false, d⟩) <$> ProjectTest.ofText dest := by
  have hcarries : Carries [] [] ⟨[], false⟩ :=
    .inr ⟨fun _ _ hends => by simpa using hends.2, rfl, rfl⟩
  have hrule : trim ('-' :: '>' :: dest) = [] ++ '-' :: '>' :: trimEnd dest := trim_arrow [] dest
  have harrow : OneArrow (trim ('-' :: '>' :: dest)) :=
    oneArrow_iff.mpr ⟨[], _, hrule, List.not_mem_nil,
      fun hmem => h ((List.rdropWhile_prefix isBlank dest).subset hmem)⟩
  have hsource : ProjectTest.ofText [] = .ok .any := by cbv
  have hfits : Fits [] := by simp [Fits, UInt64.size]
  rw [ofText_of_carries hrule harrow hcarries, hsource, if_pos hfits,
    ProjectTest.ofText_congr (trim_trimEnd dest)]
  cases ProjectTest.ofText dest <;> rfl

end RouteText

namespace Route

open RouteText

/-- The grammar of routes. The form is the pattern that its regular expression reads as, and it is
found in a text if and only if that has one greater sign, right behind a hyphen. The groups, and so
the parts of a route, are then fixed by the text: the first of the source, the bound and the goal
that cannot be read is what is wrong with it, and otherwise it is searched for what they say. A
route written from a source, a bound, the mark and a goal reads as these. -/
theorem ofText_exact (g : Graph) (policy : Policy) (usual : Option Nat) (rule : List Char) :
    Pattern.ofText formText.toList = .ok form ∧
    (∀ m, ofText g policy usual rule = .error (.malformedRoute m) ↔
      ¬ OneArrow (trim rule) ∧ m = String.ofList (trim rule)) ∧
    (OneArrow (trim rule) → ∃ left right source a,
      trim rule = left ++ '-' :: '>' :: right ∧ Carries left source a ∧
      (∀ r, ofText g policy usual rule = .ok r ↔ ∃ s d, ProjectTest.ofText source = .ok s ∧
        Fits a.digits ∧ ProjectTest.ofText right = .ok d ∧
          r = resolve g policy (String.ofList (trim rule))
            ⟨s, boundOf usual a.digits, a.required, d⟩) ∧
      ∀ e, ofText g policy usual rule = .error e ↔
        ProjectTest.ofText source = .error e ∨ (∃ s, ProjectTest.ofText source = .ok s) ∧
          (¬ Fits a.digits ∧
              e = .invalidDepth (String.ofList (trim rule)) (String.ofList a.digits) ∨
            Fits a.digits ∧ ProjectTest.ofText right = .error e)) ∧
    ∀ source dest bound required, '>' ∉ source → '>' ∉ dest → (∀ n ∈ bound, n < UInt64.size) →
        ofText g policy usual (write source dest bound required) =
          (do
            let s ← ProjectTest.ofText source
            let d ← ProjectTest.ofText dest
            return resolve g policy (String.ofList (trim (write source dest bound required)))
              ⟨s, bound.or usual, required, d⟩) := by
  refine ⟨ofText_formText, fun m => map_eq_error_iff.trans ofText_eq_malformed_iff,
    fun harrow => ?_, ?_⟩
  · obtain ⟨left, right, source, a, hrule, hcarries⟩ := exists_carries harrow
    refine ⟨left, right, source, a, hrule, hcarries, fun r => ?_, fun e => ?_⟩
    · unfold ofText
      rw [map_eq_ok_iff]
      simp only [ofText_eq_ok_iff hrule harrow hcarries]
      constructor
      · rintro ⟨⟨s, bound, required, d⟩, ⟨hs, hfits, rfl, rfl, hd⟩, rfl⟩
        exact ⟨s, d, hs, hfits, hd, rfl⟩
      · rintro ⟨s, d, hs, hfits, hd, rfl⟩
        exact ⟨⟨s, _, _, d⟩, ⟨hs, hfits, rfl, rfl, hd⟩, rfl⟩
    · exact map_eq_error_iff.trans (ofText_eq_error_iff hrule harrow hcarries)
  · intro source dest bound required hs hd hbound
    unfold ofText
    rw [ofText_write hs hd hbound]
    cases ProjectTest.ofText source with
    | error e => rfl
    | ok s => cases ProjectTest.ofText dest <;> rfl

/-- The route from `id:1` to `id:2` of at most three edges and with the mark, as it is written. -/
theorem ofText_exact_of_bound_and_mark :
    OneArrow (trim "id:1 -3R-> id:2".toList) ∧
      (∃ left right source a, trim "id:1 -3R-> id:2".toList = left ++ '-' :: '>' :: right ∧
        Carries left source a) ∧
      ofText .empty .including none "id:1 -3R-> id:2".toList =
        .ok (resolve .empty .including "id:1 -3R-> id:2" ⟨.id ⟨1⟩, some 3, true, .id ⟨2⟩⟩) := by
  have htext : "id:1 -3R-> id:2".toList = write "id:1".toList "id:2".toList (some 3) true := by
    simp [write, digitsOf, Nat.toDigits_of_lt_base]
  have harrow : OneArrow (trim "id:1 -3R-> id:2".toList) := by
    rw [htext]
    exact oneArrow_trim_write (by decide) (by decide) (some 3) true
  obtain ⟨-, -, hparts, hwritten⟩ := ofText_exact .empty .including none "id:1 -3R-> id:2".toList
  refine ⟨harrow, ?_, ?_⟩
  · obtain ⟨left, right, source, a, hrule, hcarries, -⟩ := hparts harrow
    exact ⟨left, right, source, a, hrule, hcarries⟩
  · have hread := hwritten "id:1".toList "id:2".toList (some 3) true (by decide) (by decide)
      (by simp [UInt64.size])
    have hsource : ProjectTest.ofText "id:1".toList = .ok (.id ⟨1⟩) := by cbv
    have hdest : ProjectTest.ofText "id:2".toList = .ok (.id ⟨2⟩) := by cbv
    have htrim : String.ofList (trim "id:1 -3R-> id:2".toList) = "id:1 -3R-> id:2" := by cbv
    rw [← htext, hsource, hdest, htrim] at hread
    exact hread

end Route

end Landscape
