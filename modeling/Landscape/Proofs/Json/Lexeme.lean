import Landscape.Json.Reader
import Landscape.Json.Value
import Landscape.Proofs.Runs
import Mathlib.Tactic.SplitIfs

namespace Landscape.Json

/-!
# Texts and numbers read back

A character is written by itself or behind a backslash, and either way it is read as one piece.
A whole number is written in decimal without a needless zero.
-/

/-! ## Texts -/

/-- Every control character has four digits of base sixteen that are read back. -/
theorem fourDigits?_hexDigit : ∀ n < 32,
    fourDigits? '0' '0' (Text.hexDigit (n / 16)) (Text.hexDigit (n % 16)) = some n := by
  decide

theorem joinPieces_unit {n : Nat} (hn : n < 32) (after : Nat) (last : Option Failure)
    (ps : List Piece) :
    joinPieces last (.unit n after :: ps) = (Char.ofNat n :: ·) <$> joinPieces last ps := by
  have hlow : isLowSurrogate n = false := by
    simp only [isLowSurrogate, Bool.and_eq_false_iff, decide_eq_false_iff_not]
    omega
  have hhigh : isHighSurrogate n = false := by
    simp only [isHighSurrogate, Bool.and_eq_false_iff, decide_eq_false_iff_not]
    omega
  rw [joinPieces.eq_def]
  simp [hlow, hhigh]

/-- A written character is one piece, which stands for it. -/
theorem pieces_escapeChar (c : Char) (place : Nat) :
    ∃ piece place', (∀ cs, pieces place (Text.escapeChar c ++ cs) =
        (piece :: (pieces place' cs).1, (pieces place' cs).2)) ∧
      ∀ last ps, joinPieces last (piece :: ps) = (c :: ·) <$> joinPieces last ps := by
  unfold Text.escapeChar
  split_ifs with hquote hslash hline hreturn htab h8 h12 hcontrol
  · subst hquote
    exact ⟨.escaped '"', place + 2, fun cs => rfl, fun last ps => rfl⟩
  · subst hslash
    exact ⟨.escaped '\\', place + 2, fun cs => rfl, fun last ps => rfl⟩
  · subst hline
    exact ⟨.escaped '\n', place + 2, fun cs => rfl, fun last ps => rfl⟩
  · subst hreturn
    exact ⟨.escaped '\r', place + 2, fun cs => rfl, fun last ps => rfl⟩
  · subst htab
    exact ⟨.escaped '\t', place + 2, fun cs => rfl, fun last ps => rfl⟩
  · rw [show c = Char.ofNat 8 from Char.toNat_inj.mp h8]
    exact ⟨.escaped (Char.ofNat 8), place + 2, fun cs => rfl, fun last ps => rfl⟩
  · rw [show c = Char.ofNat 12 from Char.toNat_inj.mp h12]
    exact ⟨.escaped (Char.ofNat 12), place + 2, fun cs => rfl, fun last ps => rfl⟩
  · refine ⟨.unit c.toNat (place + 6), place + 6, fun cs => ?_, fun last ps => ?_⟩
    · simp only [List.cons_append, List.nil_append, pieces, fourDigits?_hexDigit _ hcontrol]
    · rw [joinPieces_unit hcontrol, Char.ofNat_toNat]
  · refine ⟨.plain c, place + c.utf8Size, fun cs => ?_, fun last ps => rfl⟩
    rw [List.singleton_append, pieces.eq_def]
    split <;> simp_all

/-- What follows the opening quote of a text. -/
def behindQuote (s : String) (rest : List Char) : List Char :=
  s.toList.flatMap Text.escapeChar ++ '"' :: rest

theorem inDocument_append (s : String) (rest : List Char) :
    Text.inDocument s ++ rest = '"' :: behindQuote s rest := by
  simp [Text.inDocument, behindQuote]

/-- A text is read back, wherever it stands. -/
theorem readText_behindQuote (s : String) (rest : List Char) (place : Nat) :
    ∃ place', readText ⟨behindQuote s rest, place⟩ = .ok (.ok s, ⟨rest, place'⟩) := by
  have hpieces (cs : List Char) (place : Nat) :
      ∃ ps place', pieces place (cs.flatMap Text.escapeChar ++ '"' :: rest) =
        (ps, .ok ⟨rest, place'⟩) ∧ joinPieces none ps = .ok cs := by
    induction cs generalizing place with
    | nil => exact ⟨[], place + 1, rfl, rfl⟩
    | cons c cs ih =>
        obtain ⟨piece, next, hpiece, hjoin⟩ := pieces_escapeChar c place
        obtain ⟨ps, place', hps, hcs⟩ := ih next
        refine ⟨piece :: ps, place', ?_, ?_⟩
        · rw [List.flatMap_cons, List.append_assoc, hpiece, hps]
        · rw [hjoin, hcs]
          rfl
  obtain ⟨ps, place', hps, hcs⟩ := hpieces s.toList place
  refine ⟨place', ?_⟩
  unfold readText behindQuote
  simp only [hps, hcs]
  exact congrArg (fun t => Except.ok (Except.ok t, _)) String.ofList_toList

/-! ## Numbers -/

theorem digit?_digitChar : ∀ d < 10, Text.digit? (Nat.digitChar d) = some d := by decide

/-- A comma or a line feed follows, and either ends a number. -/
def Closed (rest : List Char) : Prop := ∃ c cs, rest = c :: cs ∧ (c = ',' ∨ c = '\n')

/-- The value of digits. -/
def valueOf (ds : List Nat) : Nat := ds.foldl (fun n d => 10 * n + d) 0

/-- A number is written with digits of its value, the first no zero unless it is the only one. -/
theorem exists_toDigits (n : Nat) : ∃ d ds, Nat.toDigits 10 n = (d :: ds).map Nat.digitChar ∧
    (∀ x ∈ d :: ds, x < 10) ∧ (d = 0 → ds = []) ∧ valueOf (d :: ds) = n := by
  induction n using Nat.strongRecOn with
  | _ n ih =>
      by_cases hn : n < 10
      · refine ⟨n, [], ?_, ?_, fun _ => rfl, ?_⟩
        · rw [Nat.toDigits_of_lt_base hn]
          rfl
        · simpa using hn
        · simp [valueOf]
      · obtain ⟨d, ds, hdigits, hlt, hzero, hvalue⟩ := ih (n / 10) (by omega)
        refine ⟨d, ds ++ [n % 10], ?_, ?_, ?_, ?_⟩
        · rw [Nat.toDigits_of_base_le (by decide) (by omega), hdigits]
          simp
        · intro x hx
          rw [← List.cons_append, List.mem_append, List.mem_singleton] at hx
          rcases hx with hx | rfl
          · exact hlt x hx
          · omega
        · -- a leading zero would be all of the digits of a number that is not zero
          rintro rfl
          rw [hzero rfl] at hvalue
          simp only [valueOf, List.foldl_cons, List.foldl_nil] at hvalue
          omega
        · rw [valueOf, ← List.cons_append, List.foldl_append, ← valueOf, hvalue]
          simp only [List.foldl_cons, List.foldl_nil]
          omega

theorem digitsOf_map {ds : List Nat} (hds : ∀ d ∈ ds, d < 10) {rest : List Char}
    (hrest : Closed rest) : digitsOf (ds.map Nat.digitChar ++ rest) = ds := by
  induction ds with
  | nil =>
      obtain ⟨c, cs, rfl, rfl | rfl⟩ := hrest <;> rfl
  | cons d ds ih =>
      have hd := digit?_digitChar d (hds d List.mem_cons_self)
      have htail := ih fun x hx => hds x (List.mem_cons_of_mem d hx)
      unfold digitsOf at htail ⊢
      rw [List.map_cons, List.cons_append, List.takeWhile_cons_of_pos (by simp [hd]),
        List.filterMap_cons_some hd, htail]

theorem takeDigits_map {ds : List Nat} (hds : ∀ d ∈ ds, d < 10) {rest : List Char}
    (hrest : Closed rest) (place : Nat) :
    takeDigits ⟨ds.map Nat.digitChar ++ rest, place⟩ = (ds, ⟨rest, place + ds.length⟩) := by
  unfold takeDigits
  simp only [digitsOf_map hds hrest]
  rw [List.drop_left' (by simp)]

theorem le_foldl (n : Nat) (ds : List Nat) : n ≤ ds.foldl (fun n d => 10 * n + d) n := by
  induction ds generalizing n with
  | nil => exact Nat.le_refl n
  | cons d ds ih => exact Nat.le_trans (by omega) (ih (10 * n + d))

theorem takeDigits_of_lt {n : Nat} {ds : List Nat}
    (h : ds.foldl (fun n d => 10 * n + d) n < Literal.wordLimit) :
    Literal.takeDigits n ds = (ds.foldl (fun n d => 10 * n + d) n, 0) := by
  induction ds generalizing n with
  | nil => rfl
  | cons d ds ih =>
      rw [List.foldl_cons] at h ⊢
      rw [Literal.takeDigits, if_pos (Nat.lt_of_le_of_lt (le_foldl _ ds) h), ih h]

theorem number?_eq_natural {l : Literal} (hplain : l.plain = true) (hsign : l.negative = false)
    (h : valueOf l.whole < Literal.wordLimit) : l.number? = some (.natural (valueOf l.whole)) := by
  unfold Literal.number?
  rw [takeDigits_of_lt h]
  simp [hplain, hsign, valueOf]

/-- A number that fits a word is read back, wherever it stands. -/
theorem readNumber_toDigits {n : Nat} (hn : n < Literal.wordLimit) {rest : List Char}
    (hrest : Closed rest) (place : Nat) :
    ∃ l place', readNumber ⟨Nat.toDigits 10 n ++ rest, place⟩ = .ok (l, ⟨rest, place'⟩) ∧
      l.number? = some (.natural n) := by
  obtain ⟨d, ds, hdigits, hlt, hzero, hvalue⟩ := exists_toDigits n
  have hwhole : readWhole ⟨Nat.toDigits 10 n ++ rest, place⟩ =
      .ok (d :: ds, ⟨rest, place + (d :: ds).length⟩) := by
    unfold readWhole
    rw [hdigits, takeDigits_map hlt hrest]
    split
    · rename_i heq
      cases heq
    · rename_i heq
      cases heq
      cases hzero rfl
    · rfl
  have hfraction (place' : Nat) : readFraction ⟨rest, place'⟩ = .ok ([], ⟨rest, place'⟩) := by
    obtain ⟨c, cs, rfl, rfl | rfl⟩ := hrest <;> rfl
  have hexponent (place' : Nat) : readExponent ⟨rest, place'⟩ = .ok (none, ⟨rest, place'⟩) := by
    obtain ⟨c, cs, rfl, rfl | rfl⟩ := hrest <;> rfl
  refine ⟨⟨false, d :: ds, [], 0, true⟩, place + (d :: ds).length, ?_,
    hvalue ▸ number?_eq_natural rfl rfl (hvalue ▸ hn)⟩
  unfold readNumber
  split
  rename_i negative c hsign
  split at hsign
  · -- no digit is a sign
    rename_i hcs
    rw [hdigits, List.map_cons, List.cons_append] at hcs
    have hd := digit?_digitChar d (hlt d List.mem_cons_self)
    rw [(List.cons.inj hcs).1] at hd
    cases hd
  · cases hsign
    exact (bind_eq_of_eq_ok hwhole).trans <| (bind_eq_of_eq_ok (hfraction _)).trans <|
      bind_eq_of_eq_ok (hexponent _)

end Landscape.Json
