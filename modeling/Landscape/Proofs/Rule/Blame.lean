import Landscape.Proofs.Rule.Clauses
import Landscape.Rule.CommitRule
import Landscape.Rule.FileRule
import Landscape.Rule.ProjectRule

namespace Landscape

/-!
# What is wrong with a term

A term that cannot be read has an id, a regular expression or a glob that cannot be read. The
error names a part of the text of the term.
-/

open Text

namespace Text

theorem trim_isInfix (s : List Char) : trim s <:+: s := by
  have hend : trimEnd (trimStart s) <+: trimStart s := List.rdropWhile_prefix isBlank _
  exact hend.isInfix.trans (List.dropWhile_suffix isBlank).isInfix

theorem isInfix_of_after? {mark s rest : List Char} (h : after? mark s = some rest) :
    rest <:+: s := by
  rw [after?_eq_some] at h
  exact h ▸ (List.suffix_append mark rest).isInfix

end Text

/-- The error is that of a term, and names a part of its text. -/
inductive RuleError.OfTerm (t : List Char) : RuleError → Prop
  | regex {part : List Char} {cause : String} : part <:+: t →
      OfTerm t (.invalidRegex (String.ofList part) cause)
  | glob {part : List Char} {cause : String} : part <:+: t →
      OfTerm t (.invalidGlob (String.ofList part) cause)
  | id {part : List Char} : part <:+: t → OfTerm t (.invalidId (String.ofList part))

namespace RuleError.OfTerm

variable {s t : List Char} {e : RuleError}

theorem mono (h : OfTerm s e) (hst : s <:+: t) : OfTerm t e := by
  cases h with
  | regex hpart => exact .regex (hpart.trans hst)
  | glob hpart => exact .glob (hpart.trans hst)
  | id hpart => exact .id (hpart.trans hst)

theorem fragment_isInfix (h : OfTerm t e) : e.fragment.toList <:+: t := by
  cases h with
  | regex hpart => simpa [fragment] using hpart
  | glob hpart => simpa [fragment] using hpart
  | id hpart => simpa [fragment] using hpart

end RuleError.OfTerm

section

variable {t : List Char} {e : RuleError}

theorem Pattern.ofTerm_error (h : Pattern.ofTerm t = .error e) : e.OfTerm t := by
  unfold Pattern.ofTerm at h
  split at h
  · cases h
  · cases h
    exact .regex List.infix_rfl

theorem Pattern.ofGlob_error (h : Pattern.ofGlob t = .error e) : e.OfTerm t := by
  unfold Pattern.ofGlob at h
  split at h
  · cases h
  · cases h
    exact .glob List.infix_rfl

theorem Matcher.ofTerm_error (h : Matcher.ofTerm t = .error e) : e.OfTerm t := by
  unfold Matcher.ofTerm at h
  simp only at h
  split at h
  · cases h
  · split at h
    · rename_i rest hrest
      have hpattern : Pattern.ofTerm rest = .error e := map_eq_error_iff.mp h
      exact (Pattern.ofTerm_error hpattern).mono ((isInfix_of_after? hrest).trans (trim_isInfix t))
    · split at h
      · have hpattern : Pattern.ofGlob (trim t) = .error e := map_eq_error_iff.mp h
        exact (Pattern.ofGlob_error hpattern).mono (trim_isInfix t)
      · cases h

theorem Term.readId_error {k : Kind} {value : List Char}
    (h : (readId t value : Except RuleError (Id k)) = .error e) : e.OfTerm t := by
  unfold readId at h
  split at h
  · cases h
  · cases h
    exact .id List.infix_rfl

/-- What is wrong behind marks `!` is wrong with the term. -/
theorem Term.ofText_error {α : Type} {turn : α → α} {test : List Char → Except RuleError α}
    (htest : ∀ t e, test t = .error e → e.OfTerm t) (h : Term.ofText turn test t = .error e) :
    e.OfTerm t := by
  fun_induction Term.ofText turn test t with
  | case1 t rest htrim ih =>
      have hrest : rest <:+: t := (List.suffix_cons '!' rest).isInfix.trans (htrim ▸ trim_isInfix t)
      exact (ih (map_eq_error_iff.mp h)).mono hrest
  | case2 t _ => exact (htest _ _ h).mono (trim_isInfix t)

theorem ProjectTest.ofAtom_error (h : ProjectTest.ofAtom t = .error e) : e.OfTerm t := by
  unfold ProjectTest.ofAtom at h
  split at h
  · cases h
  · split at h
    · exact Term.readId_error (map_eq_error_iff.mp h)
    · rename_i hrest
      exact (Matcher.ofTerm_error (map_eq_error_iff.mp h)).mono (isInfix_of_after? hrest)
    · exact Matcher.ofTerm_error (map_eq_error_iff.mp h)

theorem FileTest.ofAtom_error (h : FileTest.ofAtom t = .error e) : e.OfTerm t := by
  unfold FileTest.ofAtom at h
  split at h
  · cases h
  · split at h
    · exact Term.readId_error (map_eq_error_iff.mp h)
    · rename_i rest _ hrest
      have hpattern : Pattern.ofTerm rest = .error e := map_eq_error_iff.mp h
      exact (Pattern.ofTerm_error hpattern).mono (isInfix_of_after? hrest)
    · simp only at h
      split at h
      · cases h
      · cases h
        exact .glob List.infix_rfl

theorem CommitTest.ofAtom_error (h : CommitTest.ofAtom t = .error e) : e.OfTerm t := by
  unfold CommitTest.ofAtom at h
  split at h
  · cases h
  · split at h
    · exact Term.readId_error (map_eq_error_iff.mp h)
    · exact Matcher.ofTerm_error (map_eq_error_iff.mp h)

theorem ProjectTest.ofText_error (h : ProjectTest.ofText t = .error e) : e.OfTerm t :=
  Term.ofText_error (fun _ _ => ProjectTest.ofAtom_error) h

theorem FileTest.ofText_error (h : FileTest.ofText t = .error e) : e.OfTerm t :=
  Term.ofText_error (fun _ _ => FileTest.ofAtom_error) h

theorem CommitTest.ofText_error (h : CommitTest.ofText t = .error e) : e.OfTerm t :=
  Term.ofText_error (fun _ _ => CommitTest.ofAtom_error) h

end

end Landscape
