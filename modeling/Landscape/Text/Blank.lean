namespace Landscape.Text

/-!
# Blank characters

The characters with the property White_Space, and texts without them at their ends.
-/

/-- The characters of the property White_Space. -/
def isBlank (c : Char) : Bool :=
  let n := c.toNat
  (0x9 ≤ n && n ≤ 0xD) || n == 0x20 || n == 0x85 || n == 0xA0 || n == 0x1680 ||
    (0x2000 ≤ n && n ≤ 0x200A) || n == 0x2028 || n == 0x2029 || n == 0x202F || n == 0x205F ||
    n == 0x3000

def trimStart (s : List Char) : List Char := s.dropWhile isBlank

def trimEnd (s : List Char) : List Char := (s.reverse.dropWhile isBlank).reverse

/-- The text without the blank characters at its two ends. -/
def trim (s : List Char) : List Char := trimEnd (trimStart s)

@[simp] theorem trim_nil : trim [] = [] := rfl

theorem length_trim_le (s : List Char) : (trim s).length ≤ s.length := by
  have h (s : List Char) : (s.dropWhile isBlank).length ≤ s.length :=
    (List.dropWhile_sublist isBlank).length_le
  have h₁ := h (trimStart s).reverse
  have h₂ := h s
  simp only [trim, trimEnd, List.length_reverse] at h₁ ⊢
  exact Nat.le_trans h₁ h₂

/-- What follows `mark`, if the text begins with it. -/
def after? (mark : List Char) (s : List Char) : Option (List Char) :=
  match mark, s with
  | [], s => some s
  | _ :: _, [] => none
  | m :: ms, c :: cs => if m = c then after? ms cs else none

theorem after?_eq_some {mark s rest : List Char} :
    after? mark s = some rest ↔ s = mark ++ rest := by
  induction mark generalizing s with
  | nil => simp [after?, eq_comm]
  | cons m ms ih =>
      cases s with
      | nil => simp [after?]
      | cons c cs =>
          by_cases h : m = c
          · simp [after?, h, ih]
          · simp [after?, h, Ne.symm h]

end Landscape.Text
