import Landscape.Pattern.Search

namespace Landscape.Pattern

/-!
# What a search finds

A pattern takes some of the stretches of a text. Whether it takes one depends on the characters
around it, since a place looks at both of its sides. A search succeeds if and only if the pattern
takes a stretch of the text.
-/

/-- A property of stretches, given with the characters before and after them. -/
abbrev Stretch := Option Char → List Char → Option Char → Prop

/-- The stretch is in two parts. The characters around each are those around the whole, unless the
other part has one. -/
def Joined (P Q : Stretch) : Stretch := fun prev s next =>
  ∃ s₁ s₂, s = s₁ ++ s₂ ∧ P prev s₁ (s₂.head?.or next) ∧ Q (s₁.getLast?.or prev) s₂ next

def Repeated (P : Stretch) : Nat → Stretch
  | 0 => fun _ s _ => s = []
  | n + 1 => Joined P (Repeated P n)

/-- The stretches that a pattern takes. -/
def Takes : Pattern → Stretch
  | empty => fun _ s _ => s = []
  | one set => fun _ s _ => ∃ c, s = [c] ∧ set.mem c = true
  | place a => fun prev s next => s = [] ∧ a.holds prev next = true
  | seq p q => Joined (Takes p) (Takes q)
  | alt p q => fun prev s next => Takes p prev s next ∨ Takes q prev s next
  | times p least most _ => fun prev s next =>
      ∃ n, least ≤ n ∧ (∀ m ∈ most, n ≤ m) ∧ Repeated (Takes p) n prev s next
  | group p => Takes p

/-- No repetition has a lower count above its upper one. -/
def WellCounted : Pattern → Prop
  | empty | one _ | place _ => True
  | seq p q | alt p q => WellCounted p ∧ WellCounted q
  | times p least most _ => (∀ m ∈ most, least ≤ m) ∧ WellCounted p
  | group p => WellCounted p

variable {P Q : Stretch} {p q r : Pattern} {prev next : Option Char} {c : Char} {s : List Char}

theorem takes_times_iff {least : Nat} {most : Option Nat} {lazy : Bool} :
    (times p least most lazy).Takes prev s next ↔
      ∃ n, least ≤ n ∧ (∀ m ∈ most, n ≤ m) ∧ Repeated p.Takes n prev s next := Iff.rfl

theorem takes_group_iff : (group p).Takes prev s next ↔ p.Takes prev s next := Iff.rfl

/-! ## Parts -/

theorem joined_nil_iff : Joined P Q prev [] next ↔ P prev [] next ∧ Q prev [] next := by
  constructor
  · rintro ⟨s₁, s₂, heq, hP, hQ⟩
    obtain ⟨rfl, rfl⟩ := List.append_eq_nil_iff.mp heq.symm
    exact ⟨hP, hQ⟩
  · rintro ⟨hP, hQ⟩
    exact ⟨[], [], rfl, hP, hQ⟩

theorem getLast?_cons_or (c : Char) (s : List Char) (prev : Option Char) :
    (c :: s).getLast?.or prev = s.getLast?.or (some c) := by
  cases s with
  | nil => rfl
  | cons d s => rfl

/-- The first character belongs to the second part if the first one is empty, and to the first part
if not. -/
theorem joined_cons_iff : Joined P Q prev (c :: s) next ↔
    (P prev [] (some c) ∧ Q prev (c :: s) next) ∨
      Joined (fun _ t after => P prev (c :: t) after) Q (some c) s next := by
  constructor
  · rintro ⟨s₁, s₂, heq, hP, hQ⟩
    cases s₁ with
    | nil =>
        obtain rfl : c :: s = s₂ := heq
        exact .inl ⟨hP, hQ⟩
    | cons d s₁ =>
        obtain ⟨rfl, rfl⟩ := List.cons.inj heq
        rw [getLast?_cons_or] at hQ
        exact .inr ⟨s₁, s₂, rfl, hP, hQ⟩
  · rintro (⟨hP, hQ⟩ | ⟨s₁, s₂, rfl, hP, hQ⟩)
    · exact ⟨[], c :: s, rfl, hP, hQ⟩
    · refine ⟨c :: s₁, s₂, rfl, hP, ?_⟩
      rwa [getLast?_cons_or]

theorem joined_empty_left : Joined (Takes empty) Q = Q := by
  funext prev s next
  refine propext ⟨?_, fun h => ⟨[], s, rfl, rfl, h⟩⟩
  rintro ⟨s₁, s₂, rfl, rfl, h⟩
  exact h

theorem joined_empty_right : Joined P (Takes empty) = P := by
  funext prev s next
  refine propext ⟨?_, fun h => ⟨s, [], (List.append_nil s).symm, h, rfl⟩⟩
  rintro ⟨s₁, s₂, rfl, h, rfl⟩
  rwa [List.append_nil]

theorem joined_times_iff {least : Nat} {most : Option Nat} {lazy : Bool} :
    Joined P (times p least most lazy).Takes prev s next ↔
      ∃ n, least ≤ n ∧ (∀ m ∈ most, n ≤ m) ∧ Joined P (Repeated p.Takes n) prev s next := by
  constructor
  · rintro ⟨s₁, s₂, heq, hP, n, hleast, hmost, h⟩
    exact ⟨n, hleast, hmost, s₁, s₂, heq, hP, h⟩
  · rintro ⟨n, hleast, hmost, s₁, s₂, heq, hP, h⟩
    exact ⟨s₁, s₂, heq, hP, n, hleast, hmost, h⟩

theorem repeated_nil_iff {n : Nat} :
    Repeated P n prev [] next ↔ n = 0 ∨ P prev [] next := by
  induction n with
  | zero => simp [Repeated]
  | succ n ih =>
      rw [Repeated, joined_nil_iff, ih]
      constructor
      · exact fun h => .inr h.1
      · rintro (h | h)
        · cases h
        · exact ⟨h, .inr h⟩

/-- Some times nothing is taken, then the part with the first character and then the others. -/
theorem repeated_cons_iff {n : Nat} : Repeated P n prev (c :: s) next ↔
    ∃ k m, n = k + 1 + m ∧ (k = 0 ∨ P prev [] (some c)) ∧
      Joined (fun _ t after => P prev (c :: t) after) (Repeated P m) (some c) s next := by
  induction n with
  | zero =>
      constructor
      · intro h
        cases h
      · rintro ⟨k, m, h, -⟩
        omega
  | succ n ih =>
      rw [Repeated, joined_cons_iff, ih]
      constructor
      · rintro (⟨hP, k, m, rfl, -, h⟩ | h)
        · exact ⟨k + 1, m, by omega, .inr hP, h⟩
        · exact ⟨0, n, by omega, .inl rfl, h⟩
      · rintro ⟨k, m, hn, hP, h⟩
        cases k with
        | zero =>
            obtain rfl : n = m := by omega
            exact .inr h
        | succ k =>
            have hP : P prev [] (some c) := hP.resolve_left (Nat.succ_ne_zero k)
            exact .inl ⟨hP, k, m, by omega, .inr hP, h⟩

/-! ## Runs and optional parts -/

theorem repeated_one_iff {set : CharSet} {n : Nat} :
    Repeated (one set).Takes n prev s next ↔ s.length = n ∧ ∀ c ∈ s, set.mem c = true := by
  induction n generalizing prev s with
  | zero =>
      rw [Repeated, List.length_eq_zero_iff]
      exact ⟨fun h => ⟨h, by simp [h]⟩, fun h => h.1⟩
  | succ n ih =>
      rw [Repeated]
      constructor
      · rintro ⟨s₁, s₂, rfl, ⟨c, rfl, hc⟩, h⟩
        obtain ⟨hlength, hall⟩ := ih.mp h
        exact ⟨by simp [hlength], List.forall_mem_cons.mpr ⟨hc, hall⟩⟩
      · rintro ⟨hlength, hall⟩
        cases s with
        | nil => cases hlength
        | cons c s =>
            obtain ⟨hc, hall⟩ := List.forall_mem_cons.mp hall
            exact ⟨[c], s, rfl, ⟨c, rfl, hc⟩, ih.mpr ⟨Nat.succ.inj hlength, hall⟩⟩

theorem takes_times_one_iff {set : CharSet} {least : Nat} {lazy : Bool} :
    (times (one set) least none lazy).Takes prev s next ↔
      least ≤ s.length ∧ ∀ c ∈ s, set.mem c = true := by
  rw [takes_times_iff]
  simp only [repeated_one_iff]
  constructor
  · rintro ⟨n, hleast, -, rfl, h⟩
    exact ⟨hleast, h⟩
  · rintro ⟨hleast, h⟩
    exact ⟨s.length, hleast, by simp, rfl, h⟩

theorem takes_run_iff {set : CharSet} :
    (run set).Takes prev s next ↔ ∀ c ∈ s, set.mem c = true :=
  takes_times_one_iff.trans (and_iff_right (Nat.zero_le _))

theorem takes_optional_iff {lazy : Bool} :
    (times p 0 (some 1) lazy).Takes prev s next ↔ s = [] ∨ p.Takes prev s next := by
  have hone : Repeated p.Takes 1 = p.Takes := joined_empty_right
  rw [takes_times_iff]
  constructor
  · rintro ⟨n, -, hn, h⟩
    obtain rfl | rfl := Nat.le_one_iff_eq_zero_or_eq_one.mp (hn 1 rfl)
    · exact .inl h
    · exact .inr (by rwa [hone] at h)
  · rintro (h | h)
    · exact ⟨0, Nat.le_refl 0, by simp, h⟩
    · exact ⟨1, Nat.zero_le 1, by simp, by rwa [hone]⟩

/-! ## The empty stretch -/

theorem nullable_iff (hp : p.WellCounted) :
    nullable prev next p = true ↔ p.Takes prev [] next := by
  induction p with
  | empty => simp [nullable, Takes]
  | one set => simp [nullable, Takes]
  | place a => simp [nullable, Takes]
  | seq p q ihp ihq =>
      rw [nullable, Bool.and_eq_true, ihp hp.1, ihq hp.2, Takes, joined_nil_iff]
  | alt p q ihp ihq => rw [nullable, Bool.or_eq_true, ihp hp.1, ihq hp.2, Takes]
  | times p least most lazy ih =>
      rw [nullable, Bool.or_eq_true, ih hp.2, beq_iff_eq, takes_times_iff]
      simp only [repeated_nil_iff]
      constructor
      · rintro (rfl | h)
        · exact ⟨0, Nat.le_refl 0, fun m _ => Nat.zero_le m, .inl rfl⟩
        · exact ⟨least, Nat.le_refl least, hp.1, .inr h⟩
      · rintro ⟨n, hleast, -, rfl | h⟩
        · exact .inl (Nat.le_zero.mp hleast)
        · exact .inr h
  | group p ih => exact ih hp

/-! ## One character -/

theorem takes_followedBy : (followedBy p q).Takes = Joined p.Takes q.Takes := by
  unfold followedBy
  split
  · exact joined_empty_left.symm
  · rfl

theorem WellCounted.followedBy (hp : p.WellCounted) (hq : q.WellCounted) :
    (followedBy p q).WellCounted := by
  unfold Pattern.followedBy
  split
  · exact hq
  · exact ⟨hp, hq⟩

/-- What is left of a sequence while its first part is read. -/
theorem exists_mem_map_followedBy_iff (h : ∀ t after, p.Takes prev (c :: t) after ↔
      ∃ r ∈ residuals prev c p, r.Takes (some c) t after) :
    (∃ r ∈ (residuals prev c p).map (followedBy · q), r.Takes (some c) s next) ↔
      Joined (fun _ t after => p.Takes prev (c :: t) after) q.Takes (some c) s next := by
  constructor
  · rintro ⟨_, hmem, htakes⟩
    obtain ⟨r, hr, rfl⟩ := List.mem_map.mp hmem
    rw [takes_followedBy] at htakes
    obtain ⟨s₁, s₂, heq, hfirst, hq⟩ := htakes
    exact ⟨s₁, s₂, heq, (h _ _).mpr ⟨r, hr, hfirst⟩, hq⟩
  · rintro ⟨s₁, s₂, heq, hfirst, hq⟩
    obtain ⟨r, hr, hfirst⟩ := (h _ _).mp hfirst
    refine ⟨_, List.mem_map_of_mem hr, ?_⟩
    rw [takes_followedBy]
    exact ⟨s₁, s₂, heq, hfirst, hq⟩

section

variable {least : Nat} {most : Option Nat} {now : Bool}

theorem le_of_countsLeft (h : ∀ m ∈ most, least ≤ m) :
    ∀ m ∈ most.map (· - 1), (if now then 0 else least - 1) ≤ m := by
  intro m hm
  obtain ⟨m', hm', rfl⟩ := Option.map_eq_some_iff.mp hm
  have := h m' hm'
  split <;> omega

/-- The counts that are left after one part. Where a part may be empty, empty parts make up what the
lower count asks for. -/
theorem exists_counts_iff {J : Nat → Prop} {A : Prop} (hnow : now = true ↔ A)
    (hcounts : ∀ m ∈ most, least ≤ m) (hmost : most ≠ some 0) :
    (∃ n, least ≤ n ∧ (∀ m ∈ most, n ≤ m) ∧ ∃ k j, n = k + 1 + j ∧ (k = 0 ∨ A) ∧ J j) ↔
      ∃ j, (if now then 0 else least - 1) ≤ j ∧ (∀ m ∈ most.map (· - 1), j ≤ m) ∧ J j := by
  have hbelow (j : Nat) : (∀ m ∈ most.map (· - 1), j ≤ m) ↔ ∀ m ∈ most, j + 1 ≤ m := by
    cases most with
    | none => simp
    | some m =>
        have : m ≠ 0 := fun h => hmost (congrArg some h)
        simp only [Option.map_some, Option.mem_def, Option.some.injEq, forall_eq']
        omega
  constructor
  · rintro ⟨n, hleast, hn, k, j, rfl, hk, hJ⟩
    refine ⟨j, ?_, (hbelow j).mpr fun m hm => ?_, hJ⟩
    · split
      · exact Nat.zero_le j
      · rename_i hnot
        have hk : k = 0 := hk.resolve_right fun hA => hnot (hnow.mpr hA)
        omega
    · have := hn m hm
      omega
  · rintro ⟨j, hleast, hj, hJ⟩
    rw [hbelow] at hj
    split at hleast
    · rename_i hempty
      refine ⟨max least (j + 1), Nat.le_max_left _ _, fun m hm => ?_, max least (j + 1) - 1 - j, j,
        ?_, .inr (hnow.mp hempty), hJ⟩
      · exact Nat.max_le.mpr ⟨hcounts m hm, hj m hm⟩
      · omega
    · exact ⟨j + 1, by omega, hj, 0, j, by omega, .inl rfl, hJ⟩

end

theorem WellCounted.residuals (hp : p.WellCounted) :
    ∀ r ∈ residuals prev c p, r.WellCounted := by
  induction p with
  | empty => simp [Pattern.residuals]
  | one set =>
      intro r hr
      unfold Pattern.residuals at hr
      split at hr
      · obtain rfl := List.mem_singleton.mp hr
        trivial
      · cases hr
  | place a => simp [Pattern.residuals]
  | seq p q ihp ihq =>
      intro r hr
      unfold Pattern.residuals at hr
      rcases List.mem_append.mp hr with hr | hr
      · obtain ⟨r', hr', rfl⟩ := List.mem_map.mp hr
        exact (ihp hp.1 r' hr').followedBy hp.2
      · split at hr
        · exact ihq hp.2 r hr
        · cases hr
  | alt p q ihp ihq =>
      intro r hr
      rcases List.mem_append.mp hr with hr | hr
      · exact ihp hp.1 r hr
      · exact ihq hp.2 r hr
  | times p least most lazy ih =>
      intro r hr
      unfold Pattern.residuals at hr
      split at hr
      · cases hr
      · obtain ⟨r', hr', rfl⟩ := List.mem_map.mp hr
        exact (ih hp.2 r' hr').followedBy ⟨le_of_countsLeft hp.1, hp.2⟩
  | group p ih => exact ih hp

/-- A pattern takes a character and then a stretch if and only if something that it leaves over
after the character takes the stretch. -/
theorem residuals_iff (hp : p.WellCounted) : p.Takes prev (c :: s) next ↔
    ∃ r ∈ residuals prev c p, r.Takes (some c) s next := by
  induction p generalizing s next with
  | empty => simp [residuals, Takes]
  | one set =>
      cases hc : set.mem c with
      | true => simp +contextual [residuals, Takes, hc, and_assoc]
      | false =>
          simp only [residuals, Takes, hc, Bool.false_eq_true, reduceIte, List.not_mem_nil,
            false_and, exists_false, iff_false]
          rintro ⟨d, hd, hmem⟩
          obtain ⟨rfl, -⟩ := List.cons.inj hd
          rw [hc] at hmem
          cases hmem
  | place a => simp [residuals, Takes]
  | seq p q ihp ihq =>
      rw [residuals]
      simp only [List.mem_append, or_and_right, exists_or]
      rw [exists_mem_map_followedBy_iff fun t after => ihp hp.1, Takes, joined_cons_iff, or_comm]
      refine or_congr_right ?_
      rw [← nullable_iff hp.1, ihq hp.2]
      cases nullable prev (some c) p <;> simp
  | alt p q ihp ihq =>
      have hsplit : (p.alt q).Takes prev (c :: s) next ↔
        p.Takes prev (c :: s) next ∨ q.Takes prev (c :: s) next := Iff.rfl
      rw [hsplit, ihp hp.1, ihq hp.2, residuals]
      simp only [List.mem_append, or_and_right, exists_or]
  | times p least most lazy ih =>
      rw [residuals]
      split
      · rename_i hnone
        simp only [List.not_mem_nil, false_and, exists_false, iff_false]
        rintro ⟨n, -, hmost, h⟩
        obtain rfl : n = 0 := Nat.le_zero.mp (hmost 0 hnone)
        cases h
      · rename_i hsome
        dsimp only
        -- parts before the one with the character are empty, and any number of them may be
        rw [exists_mem_map_followedBy_iff fun t after => ih hp.2, joined_times_iff,
          ← exists_counts_iff (nullable_iff hp.2) hp.1 hsome, takes_times_iff]
        simp only [repeated_cons_iff]
  | group p ih => exact ih hp

/-! ## A search -/

/-- One of the patterns takes a beginning of the text, which stands after `prev`. -/
def Begins (ps : List Pattern) (prev : Option Char) (s : List Char) : Prop :=
  ∃ taken after, s = taken ++ after ∧ ∃ q ∈ ps, q.Takes prev taken after.head?

/-- The pattern takes a stretch of the text that does not begin where the text begins. -/
def Follows (p : Pattern) (s : List Char) : Prop :=
  ∃ d before taken after, s = d :: before ++ taken ++ after ∧
    p.Takes (d :: before).getLast? taken after.head?

variable {ps : List Pattern}

theorem begins_nil_iff : Begins ps prev [] ↔ ∃ q ∈ ps, q.Takes prev [] none := by
  constructor
  · rintro ⟨taken, after, heq, h⟩
    obtain ⟨rfl, rfl⟩ := List.append_eq_nil_iff.mp heq.symm
    exact h
  · exact fun h => ⟨[], [], rfl, h⟩

theorem begins_cons_iff (hps : ∀ q ∈ ps, q.WellCounted) : Begins ps prev (c :: s) ↔
    (∃ q ∈ ps, q.Takes prev [] (some c)) ∨
      Begins (ps.flatMap (residuals prev c)) (some c) s := by
  constructor
  · rintro ⟨taken, after, heq, q, hq, h⟩
    cases taken with
    | nil =>
        obtain rfl : c :: s = after := heq
        exact .inl ⟨q, hq, h⟩
    | cons d taken =>
        obtain ⟨rfl, rfl⟩ := List.cons.inj heq
        obtain ⟨r, hr, h⟩ := (residuals_iff (hps q hq)).mp h
        exact .inr ⟨taken, after, rfl, r, List.mem_flatMap.mpr ⟨q, hq, hr⟩, h⟩
  · rintro (⟨q, hq, h⟩ | ⟨taken, after, rfl, r, hr, h⟩)
    · exact ⟨[], c :: s, rfl, q, hq, h⟩
    · obtain ⟨q, hq, hr⟩ := List.mem_flatMap.mp hr
      exact ⟨c :: taken, after, rfl, q, hq, (residuals_iff (hps q hq)).mpr ⟨r, hr, h⟩⟩

theorem follows_cons_iff : Follows p (c :: s) ↔ Begins [p] (some c) s ∨ Follows p s := by
  constructor
  · rintro ⟨d, before, taken, after, heq, h⟩
    obtain ⟨rfl, rfl⟩ := List.cons.inj heq
    cases before with
    | nil => exact .inl ⟨taken, after, rfl, p, List.mem_singleton_self p, h⟩
    | cons d before => exact .inr ⟨d, before, taken, after, rfl, h⟩
  · rintro (⟨taken, after, rfl, q, hq, h⟩ | ⟨d, before, taken, after, rfl, h⟩)
    · obtain rfl := List.mem_singleton.mp hq
      exact ⟨c, [], taken, after, rfl, h⟩
    · exact ⟨c, d :: before, taken, after, rfl, h⟩

theorem begins_eraseDups_cons_iff :
    Begins (p :: ps).eraseDups prev s ↔ Begins [p] prev s ∨ Begins ps prev s := by
  simp only [Begins, List.mem_eraseDups, List.mem_cons, List.not_mem_nil, or_false,
    or_and_right, exists_or, and_or_left]

theorem any_nullable_iff (hps : ∀ q ∈ ps, q.WellCounted) :
    ps.any (nullable prev next) = true ↔ ∃ q ∈ ps, q.Takes prev [] next := by
  rw [List.any_eq_true]
  exact exists_congr fun q => and_congr_right fun hq => nullable_iff (hps q hq)

theorem scan_iff (hp : p.WellCounted) (hps : ∀ q ∈ ps, q.WellCounted) :
    scan p ps prev s = true ↔ Begins ps prev s ∨ Follows p s := by
  induction s generalizing ps prev with
  | nil =>
      have hnot : ¬ Follows p [] := by
        rintro ⟨d, before, taken, after, heq, -⟩
        cases heq
      rw [scan_nil, any_nullable_iff hps, begins_nil_iff, or_iff_left hnot]
  | cons c s ih =>
      have hmore : ∀ q ∈ (p :: ps.flatMap (residuals prev c)).eraseDups, q.WellCounted := by
        intro q hq
        rcases List.mem_cons.mp (List.mem_eraseDups.mp hq) with rfl | hq
        · exact hp
        · obtain ⟨q', hq', hq⟩ := List.mem_flatMap.mp hq
          exact (hps q' hq').residuals q hq
      -- after `c` the attempts that have begun go on with their residuals, and a new one begins
      rw [scan_cons, Bool.or_eq_true, any_nullable_iff hps, ih hmore, begins_eraseDups_cons_iff,
        begins_cons_iff hps, follows_cons_iff, or_assoc, ← or_assoc, or_or_or_comm]

/-- A search succeeds if and only if the pattern takes a stretch of the text. -/
theorem occursIn_iff (hp : p.WellCounted) : p.occursIn s = true ↔
    ∃ before taken after, s = before ++ taken ++ after ∧
      p.Takes before.getLast? taken after.head? := by
  rw [occursIn, scan_iff hp (by simpa using hp)]
  constructor
  · rintro (⟨taken, after, rfl, q, hq, h⟩ | ⟨d, before, taken, after, rfl, h⟩)
    · obtain rfl := List.mem_singleton.mp hq
      exact ⟨[], taken, after, rfl, h⟩
    · exact ⟨d :: before, taken, after, rfl, h⟩
  · rintro ⟨before, taken, after, rfl, h⟩
    cases before with
    | nil => exact .inl ⟨taken, after, rfl, p, List.mem_singleton_self p, h⟩
    | cons d before => exact .inr ⟨d, before, taken, after, rfl, h⟩

end Landscape.Pattern
