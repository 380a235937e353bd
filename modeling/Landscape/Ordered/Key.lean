namespace Landscape

/-!
# Keys

A key type has a strict order in which any two different keys compare. Numbers are
ordered by size, texts by code points, which is also the order of their UTF-8 bytes.
-/

/-- Keys with a strict order in which any two different keys compare. -/
class Key (κ : Type) where
  before : κ → κ → Bool
  before_irrefl : ∀ a, before a a = false
  before_trans : ∀ {a b c}, before a b = true → before b c = true → before a c = true
  eq_of_not_before : ∀ {a b}, before a b = false → before b a = false → a = b

namespace Key

variable {κ : Type} [Key κ]

theorem ne_of_before {a b : κ} (h : before a b = true) : a ≠ b := by
  rintro rfl
  rw [before_irrefl] at h
  cases h

theorem before_asymm {a b : κ} (h : before a b = true) : before b a = false := by
  cases hb : before b a with
  | false => rfl
  | true =>
      have := before_trans h hb
      rw [before_irrefl] at this
      cases this

theorem not_before_trans {a b c : κ} (h₁ : before b a = false) (h₂ : before c b = false) :
    before c a = false := by
  cases hca : before c a with
  | false => rfl
  | true =>
      cases hab : before a b with
      | true => exact (before_trans hca hab).symm.trans h₂
      | false => exact hca.symm.trans (eq_of_not_before hab h₁ ▸ h₂)

end Key

instance : Key Nat where
  before a b := decide (a < b)
  before_irrefl a := by simp
  before_trans h₁ h₂ := by simp only [decide_eq_true_eq] at *; omega
  eq_of_not_before h₁ h₂ := by simp only [decide_eq_false_iff_not] at *; omega

namespace Text

/-! ## Texts by code points -/

/-- The order of a dictionary whose letters stand in code point order; a beginning comes first. -/
def before : List Char → List Char → Bool
  | _, [] => false
  | [], _ :: _ => true
  | a :: as, b :: bs => a.toNat < b.toNat || (a.toNat == b.toNat && before as bs)

@[simp] theorem before_nil (as : List Char) : before as [] = false := by cases as <;> rfl

@[simp] theorem nil_before_cons (b : Char) (bs : List Char) : before [] (b :: bs) = true := rfl

theorem before_cons (a b : Char) (as bs : List Char) :
    before (a :: as) (b :: bs) =
      (decide (a.toNat < b.toNat) || (a.toNat == b.toNat && before as bs)) :=
  rfl

theorem before_irrefl (as : List Char) : before as as = false := by
  induction as with
  | nil => rfl
  | cons a as ih => simp [before_cons, ih]

theorem before_trans {as bs cs : List Char} (h₁ : before as bs = true) (h₂ : before bs cs = true) :
    before as cs = true := by
  induction as generalizing bs cs with
  | nil =>
      cases cs with
      | nil => simp at h₂
      | cons c cs => rfl
  | cons a as ih =>
      cases bs with
      | nil => simp at h₁
      | cons b bs =>
          cases cs with
          | nil => simp at h₂
          | cons c cs =>
              simp only [before_cons, Bool.or_eq_true, Bool.and_eq_true, decide_eq_true_eq,
                beq_iff_eq] at *
              rcases h₁ with h₁ | ⟨h₁, h₁'⟩ <;> rcases h₂ with h₂ | ⟨h₂, h₂'⟩
              · exact Or.inl (by omega)
              · exact Or.inl (by omega)
              · exact Or.inl (by omega)
              · exact Or.inr ⟨by omega, ih h₁' h₂'⟩

theorem eq_of_not_before {as bs : List Char} (h₁ : before as bs = false)
    (h₂ : before bs as = false) : as = bs := by
  induction as generalizing bs with
  | nil =>
      cases bs with
      | nil => rfl
      | cons b bs => simp at h₁
  | cons a as ih =>
      cases bs with
      | nil => simp at h₂
      | cons b bs =>
          simp only [before_cons, Bool.or_eq_false_iff, Bool.and_eq_false_iff,
            decide_eq_false_iff_not, beq_eq_false_iff_ne] at *
          have hn : a.toNat = b.toNat := by omega
          have hab : a = b := Char.toNat_inj.mp hn
          rcases h₁.2 with h | h
          · exact absurd hn h
          · rcases h₂.2 with h' | h'
            · exact absurd hn.symm h'
            · rw [hab, ih h h']

end Text

instance : Key String where
  before a b := Text.before a.toList b.toList
  before_irrefl a := Text.before_irrefl a.toList
  before_trans h₁ h₂ := Text.before_trans h₁ h₂
  eq_of_not_before h₁ h₂ := String.toList_inj.mp (Text.eq_of_not_before h₁ h₂)

end Landscape
