import Landscape.Proofs.Rule.Clauses

namespace Landscape

/-!
# Texts parted at marks

A piece of a text that is parted stands between two marks. What comes before it is parted into the
pieces before it, whatever comes after it; and blanks at the ends of the text are blanks at the
ends of its pieces.
-/

namespace Text

section

variable {p : Char → Bool}

/-- The text stands between two marks, `before` and `after` it. -/
structure Stands (p : Char → Bool) (s before piece after : List Char) : Prop where
  eq : s = before ++ piece ++ after
  unmarked : ∀ c ∈ piece, p c = false
  left : before = [] ∨ ∃ b m, p m = true ∧ before = b ++ [m]
  right : after = [] ∨ ∃ m a, p m = true ∧ after = m :: a

/-- The pieces of a text that ends behind a mark. -/
def earlier (p : Char → Bool) (s : List Char) : List (List Char) := (s.splitOnP p).dropLast

@[simp] theorem earlier_nil : earlier p [] = [] := rfl

theorem earlier_append_mark (s : List Char) {m : Char} (hm : p m = true) :
    earlier p (s ++ [m]) = s.splitOnP p := by
  rw [earlier, List.splitOnP_append_cons s [] hm, List.splitOnP_nil, List.dropLast_concat]

theorem earlier_cons_mark {a : Char} (ha : p a = true) {s : List Char}
    (hs : s = [] ∨ ∃ b m, p m = true ∧ s = b ++ [m]) :
    earlier p (a :: s) = [] :: earlier p s := by
  rcases hs with rfl | ⟨b, m, hm, rfl⟩
  · exact earlier_append_mark [] ha
  · rw [← List.cons_append, earlier_append_mark _ hm, earlier_append_mark _ hm,
      List.splitOnP_cons_eq_if_modifyHead, if_pos ha]

theorem earlier_cons {a : Char} (ha : p a = false) {s x : List Char} {xs : List (List Char)}
    (hs : s = [] ∨ ∃ b m, p m = true ∧ s = b ++ [m]) (hx : earlier p s = x :: xs) :
    earlier p (a :: s) = (a :: x) :: xs := by
  rcases hs with rfl | ⟨b, m, hm, rfl⟩
  · cases hx
  · rw [earlier_append_mark _ hm] at hx
    rw [← List.cons_append, earlier_append_mark _ hm, List.splitOnP_cons_eq_if_modifyHead,
      if_neg (by simp [ha]), hx, List.modifyHead_cons]

theorem earlier_eq_nil_iff {s : List Char} (hs : s = [] ∨ ∃ b m, p m = true ∧ s = b ++ [m]) :
    earlier p s = [] ↔ s = [] := by
  rcases hs with rfl | ⟨b, m, hm, rfl⟩
  · simp
  · rw [earlier_append_mark _ hm]
    simp [List.splitOnP_ne_nil]

theorem Stands.cons {a : Char} {s before piece after : List Char}
    (h : Stands p s before piece after) (ha : p a = true ∨ before ≠ []) :
    Stands p (a :: s) (a :: before) piece after where
  eq := by rw [h.eq, List.cons_append, List.cons_append]
  unmarked := h.unmarked
  left := by
    rcases h.left with hnil | ⟨b, m, hm, hbefore⟩
    · exact .inr ⟨[], a, ha.resolve_right (not_not_intro hnil), by rw [hnil]; rfl⟩
    · exact .inr ⟨a :: b, m, hm, by rw [hbefore]; rfl⟩
  right := h.right

/-- A piece of a text that is parted stands behind the pieces before it. -/
theorem exists_stands {s c : List Char} {before after : List (List Char)}
    (h : s.splitOnP p = before ++ c :: after) :
    ∃ head tail, Stands p s head c tail ∧ earlier p head = before := by
  induction s generalizing before c with
  | nil =>
      rw [List.splitOnP_nil] at h
      cases before with
      | nil =>
          cases h
          exact ⟨[], [], ⟨rfl, by simp, .inl rfl, .inl rfl⟩, rfl⟩
      | cons x before => simp at h
  | cons a s ih =>
      rw [List.splitOnP_cons_eq_if_modifyHead] at h
      by_cases ha : p a = true
      · rw [if_pos ha] at h
        cases before with
        | nil =>
            cases h
            exact ⟨[], a :: s, ⟨rfl, by simp, .inl rfl, .inr ⟨a, s, ha, rfl⟩⟩, rfl⟩
        | cons x before =>
            rw [List.cons_append] at h
            obtain ⟨rfl, hrest⟩ := List.cons.inj h
            obtain ⟨head, tail, hstands, hhead⟩ := ih hrest
            refine ⟨a :: head, tail, hstands.cons ?_, ?_⟩
            · exact .inl ha
            · rw [earlier_cons_mark ha hstands.left, hhead]
      · have ha' : p a = false := by simpa using ha
        obtain ⟨x, xs, hx⟩ := List.exists_cons_of_ne_nil (List.splitOnP_ne_nil p s)
        rw [if_neg ha, hx, List.modifyHead_cons] at h
        cases before with
        | nil =>
            obtain ⟨rfl, rfl⟩ := List.cons.inj h
            have hfirst : s.splitOnP p = [] ++ x :: xs := hx
            obtain ⟨head, tail, hstands, hhead⟩ := ih hfirst
            obtain rfl : head = [] := (earlier_eq_nil_iff hstands.left).mp hhead
            refine ⟨[], tail, ⟨?_, ?_, .inl rfl, hstands.right⟩, rfl⟩
            · rw [hstands.eq]
              rfl
            · exact List.forall_mem_cons.mpr ⟨ha', hstands.unmarked⟩
        | cons y before =>
            rw [List.cons_append] at h
            obtain ⟨rfl, rfl⟩ := List.cons.inj h
            have hlater : s.splitOnP p = (x :: before) ++ c :: after := hx
            obtain ⟨head, tail, hstands, hhead⟩ := ih hlater
            refine ⟨a :: head, tail, hstands.cons (.inr ?_), ?_⟩
            · rintro rfl
              cases hhead
            · exact earlier_cons ha' hstands.left hhead

theorem Stands.isInfix {s before piece after : List Char} (h : Stands p s before piece after) :
    piece <:+: s := ⟨before, after, h.eq.symm⟩

theorem Stands.splitOnP_upto {s before piece after : List Char}
    (h : Stands p s before piece after) :
    (before ++ piece).splitOnP p = earlier p before ++ [piece] := by
  have hpiece : piece.splitOnP p = [piece] := List.splitOnP_eq_singleton h.unmarked
  rcases h.left with rfl | ⟨b, m, hm, rfl⟩
  · exact hpiece
  · rw [List.append_assoc, List.singleton_append, List.splitOnP_append_cons b piece hm, hpiece,
      earlier_append_mark b hm]

theorem unmarked_of_mem_splitOnP {s c : List Char} (h : c ∈ s.splitOnP p) :
    ∀ a ∈ c, p a = false := by
  obtain ⟨before, after, hsplit⟩ := List.append_of_mem h
  obtain ⟨head, tail, hstands, -⟩ := exists_stands hsplit
  exact hstands.unmarked

theorem isInfix_of_mem_splitOnP {s c : List Char} (h : c ∈ s.splitOnP p) : c <:+: s := by
  obtain ⟨before, after, hsplit⟩ := List.append_of_mem h
  obtain ⟨head, tail, hstands, -⟩ := exists_stands hsplit
  exact hstands.isInfix

theorem Stands.unmarked_of_mem_earlier {s before piece after q : List Char}
    (h : Stands p s before piece after) (hq : q ∈ earlier p before) : ∀ c ∈ q, p c = false := by
  apply unmarked_of_mem_splitOnP (s := before ++ piece)
  rw [h.splitOnP_upto]
  exact List.mem_append_left _ hq

/-- What has no mark joins the last piece. -/
theorem exists_splitOnP_append {t : List Char} (ht : ∀ c ∈ t, p c = false) (s : List Char) :
    ∃ init last, s.splitOnP p = init ++ [last] ∧ (s ++ t).splitOnP p = init ++ [last ++ t] := by
  induction s with
  | nil => exact ⟨[], [], rfl, List.splitOnP_eq_singleton ht⟩
  | cons a s ih =>
      obtain ⟨init, last, hs, happend⟩ := ih
      rw [List.cons_append, List.splitOnP_cons_eq_if_modifyHead,
        List.splitOnP_cons_eq_if_modifyHead, hs, happend]
      split_ifs with ha
      · exact ⟨[] :: init, last, rfl, rfl⟩
      · cases init with
        | nil => exact ⟨[], a :: last, rfl, rfl⟩
        | cons x init => exact ⟨(a :: x) :: init, last, rfl, rfl⟩

/-! ## Blanks at the ends of a text that is parted -/

variable (hp : ∀ c, isBlank c = true → p c = false)

include hp

theorem map_trim_splitOnP_trimStart (s : List Char) :
    ((trimStart s).splitOnP p).map trim = (s.splitOnP p).map trim := by
  induction s with
  | nil => rfl
  | cons a s ih =>
      by_cases ha : isBlank a = true
      · obtain ⟨x, xs, hx⟩ := List.exists_cons_of_ne_nil (List.splitOnP_ne_nil p s)
        have htrim : trim (a :: x) = trim x := trim_append_left (t := [a]) (by simpa using ha) x
        rw [trimStart, List.dropWhile_cons_of_pos ha, List.splitOnP_cons_eq_if_modifyHead,
          if_neg (by simp [hp a ha]), hx, List.modifyHead_cons, List.map_cons, htrim,
          ← List.map_cons, ← hx]
        exact ih
      · rw [trimStart, List.dropWhile_cons_of_neg ha]

theorem map_trim_splitOnP_append {t : List Char} (ht : ∀ c ∈ t, isBlank c = true)
    (s : List Char) : ((s ++ t).splitOnP p).map trim = (s.splitOnP p).map trim := by
  obtain ⟨init, last, hs, happend⟩ := exists_splitOnP_append (fun c hc => hp c (ht c hc)) s
  rw [hs, happend, List.map_append, List.map_append, List.map_singleton, List.map_singleton,
    trim_append_right ht]

theorem map_trim_splitOnP_trim (s : List Char) :
    ((trim s).splitOnP p).map trim = (s.splitOnP p).map trim := by
  obtain ⟨t, ht, hs⟩ := exists_append_trimEnd (trimStart s)
  rw [← map_trim_splitOnP_trimStart hp s]
  conv_rhs => rw [← hs, map_trim_splitOnP_append hp ht]
  rfl

end

/-- To part a text at one mark and its pieces at another is to part it at both. -/
theorem flatMap_splitOn (a b : Char) (s : List Char) :
    ((s.splitOn a).flatMap fun piece => piece.splitOn b) = s.splitOnP fun c => c = a || c = b := by
  induction s with
  | nil => rfl
  | cons c s ih =>
      obtain ⟨x, xs, hx⟩ := List.exists_cons_of_ne_nil (List.splitOn_ne_nil a s)
      obtain ⟨y, ys, hy⟩ := List.exists_cons_of_ne_nil (List.splitOn_ne_nil b x)
      rw [List.splitOn_cons_eq_if_modifyHead, List.splitOnP_cons_eq_if_modifyHead]
      by_cases ha : c = a
      · simp [ha, ih]
      · rw [hx, List.flatMap_cons, hy, List.cons_append] at ih
        rw [if_neg (by simpa using ha), hx, List.modifyHead_cons, List.flatMap_cons,
          List.splitOn_cons_eq_if_modifyHead, hy, ← ih]
        by_cases hb : c = b <;> simp [ha, hb]

end Text

end Landscape
