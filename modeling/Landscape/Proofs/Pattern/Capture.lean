import Landscape.Pattern.Capture
import Landscape.Proofs.Pattern.Search

namespace Landscape

/-!
# What a match with groups finds

An attempt succeeds only where the pattern takes a stretch, and it does where what follows succeeds
behind the stretch. So a text has a match if and only if a search of it succeeds. What the groups
take depends on which stretch is the best, and is read off step by step.
-/

open Pattern

variable {P Q : Stretch} {p q : Pattern} {next : Attempt} {x y z : Spot}

namespace Attempt

theorem choose_eq_some {lazy : Bool} {stop more : Option Spot}
    (h : choose lazy stop more = some z) : stop = some z ∨ more = some z := by
  unfold choose at h
  split at h
  · exact (Option.or_eq_some_iff.mp h).imp_right And.right
  · exact ((Option.or_eq_some_iff.mp h).imp_right And.right).symm

theorem isSome_choose {lazy : Bool} {stop more : Option Spot} :
    (choose lazy stop more).isSome = true ↔ stop.isSome = true ∨ more.isSome = true := by
  unfold choose
  split
  · rw [Option.isSome_or, Bool.or_eq_true]
  · rw [Option.isSome_or, Bool.or_eq_true, or_comm]

end Attempt

namespace Spot

/-- From one spot to the other there is a stretch with the property. -/
def Reaches (P : Stretch) (x y : Spot) : Prop :=
  ∃ s, x.rest = s ++ y.rest ∧ y.prev = s.getLast?.or x.prev ∧ P x.prev s y.rest.head?

theorem reaches_nil_iff :
    Reaches (fun _ s _ => s = []) x y ↔ x.prev = y.prev ∧ x.rest = y.rest := by
  constructor
  · rintro ⟨s, hrest, hprev, rfl⟩
    exact ⟨hprev.symm, hrest⟩
  · rintro ⟨hprev, hrest⟩
    exact ⟨[], hrest, hprev.symm, rfl⟩

theorem Reaches.length_le (h : Reaches P x y) : y.rest.length ≤ x.rest.length := by
  obtain ⟨s, hrest, -, -⟩ := h
  rw [hrest, List.length_append]
  exact Nat.le_add_left _ _

/-- Where nothing is left to take, no place lies between the two spots. -/
theorem Reaches.eq_of_length_le (h : Reaches P x y) (hle : x.rest.length ≤ y.rest.length) :
    x.prev = y.prev ∧ x.rest = y.rest := by
  obtain ⟨s, hrest, hprev, -⟩ := h
  have hs : s = [] := by
    rw [hrest, List.length_append] at hle
    exact List.length_eq_zero_iff.mp (by omega)
  subst hs
  exact ⟨hprev.symm, hrest⟩

theorem Reaches.joined (hP : Reaches P x y) (hQ : Reaches Q y z) : Reaches (Joined P Q) x z := by
  obtain ⟨s, hs, hprev, hP⟩ := hP
  obtain ⟨t, ht, hprev', hQ⟩ := hQ
  refine ⟨s ++ t, ?_, ?_, s, t, rfl, ?_, ?_⟩
  · rw [hs, ht, List.append_assoc]
  · rw [hprev', hprev, List.getLast?_append, Option.or_assoc]
  · rwa [ht, List.head?_append] at hP
  · rwa [hprev] at hQ

/-- Between two joined stretches lies a spot. -/
theorem Reaches.split (h : Reaches (Joined P Q) x z) : ∃ y, Reaches P x y ∧ Reaches Q y z := by
  obtain ⟨_, hrest, hprev, s, t, rfl, hP, hQ⟩ := h
  refine ⟨⟨s.getLast?.or x.prev, t ++ z.rest, []⟩, ⟨s, ?_, rfl, ?_⟩, t, rfl, ?_, hQ⟩
  · rw [hrest, List.append_assoc]
  · rwa [List.head?_append]
  · rw [hprev, List.getLast?_append, Option.or_assoc]

end Spot

open Spot

/-! ## Every success ends a stretch -/

namespace Attempt

variable {body : Attempt → Attempt} {n : Nat} {lazy : Bool}

section

variable (hbody : ∀ {next x z}, body next x = some z → ∃ y, Reaches P x y ∧ next y = some z)

include hbody

theorem exists_of_exactly (h : exactly body n next x = some z) :
    ∃ y, Reaches (Repeated P n) x y ∧ next y = some z := by
  induction n generalizing x with
  | zero => exact ⟨x, reaches_nil_iff.mpr ⟨rfl, rfl⟩, h⟩
  | succ n ih =>
      obtain ⟨m, hfirst, hrest⟩ := hbody h
      obtain ⟨y, hreach, hy⟩ := ih hrest
      exact ⟨y, hfirst.joined hreach, hy⟩

theorem exists_of_atMost (h : atMost body lazy next n x = some z) :
    ∃ k ≤ n, ∃ y, Reaches (Repeated P k) x y ∧ next y = some z := by
  induction n generalizing x with
  | zero => exact ⟨0, Nat.le_refl 0, x, reaches_nil_iff.mpr ⟨rfl, rfl⟩, h⟩
  | succ n ih =>
      rcases choose_eq_some h with h | h
      · exact ⟨0, Nat.zero_le _, x, reaches_nil_iff.mpr ⟨rfl, rfl⟩, h⟩
      · obtain ⟨m, hfirst, hrest⟩ := hbody h
        obtain ⟨k, hk, y, hreach, hy⟩ := ih hrest
        exact ⟨k + 1, Nat.succ_le_succ hk, y, hfirst.joined hreach, hy⟩

theorem exists_of_anyTimes (h : anyTimes body lazy next x = some z) :
    ∃ k y, Reaches (Repeated P k) x y ∧ next y = some z := by
  fun_induction anyTimes body lazy next x with
  | case1 x ih =>
      rcases choose_eq_some h with h | h
      · exact ⟨0, x, reaches_nil_iff.mpr ⟨rfl, rfl⟩, h⟩
      · obtain ⟨m, hfirst, hrest⟩ := hbody h
        split at hrest
        · rename_i hlt
          obtain ⟨k, y, hreach, hy⟩ := ih m hlt hrest
          exact ⟨k + 1, y, hfirst.joined hreach, hy⟩
        · exact ⟨1, m, hfirst.joined (reaches_nil_iff.mpr ⟨rfl, rfl⟩), hrest⟩

end

/-! ## Every stretch leads to a success -/

/-- The attempt succeeds at the place of `y`, whatever the groups took before. -/
def SucceedsAt (next : Attempt) (y : Spot) : Prop :=
  ∀ taken, (next { y with taken := taken }).isSome = true

theorem SucceedsAt.isSome (h : SucceedsAt next y) (hprev : x.prev = y.prev)
    (hrest : x.rest = y.rest) : (next x).isSome = true := by
  have hx := h x.taken
  rwa [← hprev, ← hrest] at hx

section

variable (hbody : ∀ {next x y}, Reaches P x y → SucceedsAt next y → (body next x).isSome = true)

include hbody

theorem isSome_exactly (h : Reaches (Repeated P n) x y) (hy : SucceedsAt next y) :
    (exactly body n next x).isSome = true := by
  induction n generalizing x with
  | zero =>
      obtain ⟨hprev, hrest⟩ := reaches_nil_iff.mp h
      exact hy.isSome hprev hrest
  | succ n ih =>
      obtain ⟨m, hfirst, hrest⟩ := h.split
      exact hbody hfirst fun taken => ih (x := { m with taken := taken }) hrest

theorem isSome_atMost {k : Nat} (hk : k ≤ n) (h : Reaches (Repeated P k) x y)
    (hy : SucceedsAt next y) : (atMost body lazy next n x).isSome = true := by
  induction n generalizing x k with
  | zero =>
      obtain rfl := Nat.le_zero.mp hk
      obtain ⟨hprev, hrest⟩ := reaches_nil_iff.mp h
      exact hy.isSome hprev hrest
  | succ n ih =>
      refine isSome_choose.mpr ?_
      cases k with
      | zero =>
          obtain ⟨hprev, hrest⟩ := reaches_nil_iff.mp h
          exact .inl (hy.isSome hprev hrest)
      | succ k =>
          obtain ⟨m, hfirst, hrest⟩ := h.split
          exact .inr (hbody hfirst fun taken =>
            ih (x := { m with taken := taken }) (Nat.le_of_succ_le_succ hk) hrest)

/-- Steps that take nothing can be left out. -/
theorem isSome_anyTimes (h : Reaches (Repeated P n) x y) (hy : SucceedsAt next y) :
    (anyTimes body lazy next x).isSome = true := by
  induction n generalizing x with
  | zero =>
      obtain ⟨hprev, hrest⟩ := reaches_nil_iff.mp h
      rw [anyTimes]
      exact isSome_choose.mpr (.inl (hy.isSome hprev hrest))
  | succ n ih =>
      obtain ⟨m, hfirst, hrest⟩ := h.split
      by_cases hlt : m.rest.length < x.rest.length
      · rw [anyTimes]
        refine isSome_choose.mpr (.inr (hbody hfirst fun taken => ?_))
        rw [if_pos hlt]
        exact ih (x := { m with taken := taken }) hrest
      · obtain ⟨hprev, hsame⟩ := hfirst.eq_of_length_le (Nat.le_of_not_lt hlt)
        refine ih ?_
        unfold Reaches at hrest ⊢
        rwa [hprev, hsame]

end

end Attempt

open Attempt

/-! ## Attempts at a pattern -/

namespace Pattern

theorem repeated_add {m n : Nat} (hm : Reaches (Repeated P m) x y)
    (hn : Reaches (Repeated P n) y z) : Reaches (Repeated P (m + n)) x z := by
  induction m generalizing x with
  | zero =>
      obtain ⟨hprev, hrest⟩ := reaches_nil_iff.mp hm
      rw [Nat.zero_add]
      unfold Reaches at hn ⊢
      rwa [hprev, hrest]
  | succ m ih =>
      obtain ⟨y', hfirst, hm⟩ := hm.split
      rw [Nat.succ_add]
      exact hfirst.joined (ih hm)

theorem exists_of_repeated_add {m n : Nat} (h : Reaches (Repeated P (m + n)) x z) :
    ∃ y, Reaches (Repeated P m) x y ∧ Reaches (Repeated P n) y z := by
  induction m generalizing x with
  | zero =>
      rw [Nat.zero_add] at h
      exact ⟨x, reaches_nil_iff.mpr ⟨rfl, rfl⟩, h⟩
  | succ m ih =>
      rw [Nat.succ_add] at h
      obtain ⟨y', hfirst, h⟩ := h.split
      obtain ⟨y, hm, hn⟩ := ih h
      exact ⟨y, hfirst.joined hm, hn⟩

theorem reaches_times_iff {least : Nat} {most : Option Nat} {lazy : Bool} :
    Reaches (times p least most lazy).Takes x y ↔
      ∃ n, least ≤ n ∧ (∀ m ∈ most, n ≤ m) ∧ Reaches (Repeated p.Takes n) x y := by
  constructor
  · rintro ⟨s, hrest, hprev, n, hleast, hmost, hs⟩
    exact ⟨n, hleast, hmost, s, hrest, hprev, hs⟩
  · rintro ⟨n, hleast, hmost, s, hrest, hprev, hs⟩
    exact ⟨s, hrest, hprev, n, hleast, hmost, hs⟩

/-- An attempt that succeeds does so behind a stretch that the pattern takes. -/
theorem exists_of_attempt {k : Nat} (hp : p.WellCounted) (h : p.attempt k next x = some z) :
    ∃ y, Reaches p.Takes x y ∧ next y = some z := by
  induction p generalizing k next x z with
  | empty => exact ⟨x, reaches_nil_iff.mpr ⟨rfl, rfl⟩, h⟩
  | one set =>
      obtain ⟨prev, rest, taken⟩ := x
      cases rest with
      | nil => cases h
      | cons c cs =>
          dsimp only [attempt] at h
          split at h
          · rename_i hc
            exact ⟨_, ⟨[c], rfl, rfl, c, rfl, hc⟩, h⟩
          · cases h
  | place a =>
      rw [attempt] at h
      split at h
      · rename_i ha
        exact ⟨x, ⟨[], rfl, rfl, rfl, ha⟩, h⟩
      · cases h
  | seq p q ihp ihq =>
      obtain ⟨m, hfirst, h⟩ := ihp hp.1 h
      obtain ⟨y, hrest, hy⟩ := ihq hp.2 h
      exact ⟨y, hfirst.joined hrest, hy⟩
  | alt p q ihp ihq =>
      rcases Option.or_eq_some_iff.mp h with h | ⟨-, h⟩
      · obtain ⟨y, ⟨s, hrest, hprev, hs⟩, hy⟩ := ihp hp.1 h
        exact ⟨y, ⟨s, hrest, hprev, .inl hs⟩, hy⟩
      · obtain ⟨y, ⟨s, hrest, hprev, hs⟩, hy⟩ := ihq hp.2 h
        exact ⟨y, ⟨s, hrest, hprev, .inr hs⟩, hy⟩
  | times p least most lazy ih =>
      obtain ⟨m, hleast, h⟩ := exists_of_exactly (ih hp.2) h
      cases most with
      | none =>
          obtain ⟨n, y, hmore, hy⟩ := exists_of_anyTimes (ih hp.2) h
          refine ⟨y, reaches_times_iff.mpr ⟨_, Nat.le_add_right least n, ?_,
            repeated_add hleast hmore⟩, hy⟩
          simp
      | some most =>
          obtain ⟨n, hn, y, hmore, hy⟩ := exists_of_atMost (ih hp.2) h
          have hcounts : least ≤ most := hp.1 most rfl
          refine ⟨y, reaches_times_iff.mpr ⟨_, Nat.le_add_right least n, ?_,
            repeated_add hleast hmore⟩, hy⟩
          rintro m ⟨⟩
          omega
  | group p ih =>
      obtain ⟨y, hreach, hy⟩ := ih hp h
      exact ⟨x.keep k y, hreach, hy⟩

/-- An attempt succeeds if what follows does behind some stretch that the pattern takes. -/
theorem isSome_attempt {k : Nat} (h : Reaches p.Takes x y) (hy : SucceedsAt next y) :
    (p.attempt k next x).isSome = true := by
  induction p generalizing k next x y with
  | empty =>
      obtain ⟨hprev, hrest⟩ := reaches_nil_iff.mp h
      exact hy.isSome hprev hrest
  | one set =>
      obtain ⟨prev, rest, taken⟩ := x
      obtain ⟨_, rfl, hprev, c, rfl, hc⟩ := h
      have hnext := hy taken
      rw [hprev] at hnext
      have hattempt : (one set).attempt k next ⟨prev, c :: y.rest, taken⟩ =
          next ⟨some c, y.rest, taken⟩ := if_pos hc
      exact (congrArg _ hattempt).trans hnext
  | place a =>
      obtain ⟨s, hrest, hprev, rfl, ha⟩ := h
      have hx : a.holds x.prev x.rest.head? = true := by rwa [hrest]
      rw [attempt, if_pos hx]
      exact hy.isSome hprev.symm hrest
  | seq p q ihp ihq =>
      obtain ⟨m, hfirst, hrest⟩ := h.split
      exact ihp hfirst fun taken => ihq (x := { m with taken := taken }) hrest hy
  | alt p q ihp ihq =>
      rw [attempt, Option.isSome_or, Bool.or_eq_true]
      obtain ⟨s, hrest, hprev, hs | hs⟩ := h
      · exact .inl (ihp ⟨s, hrest, hprev, hs⟩ hy)
      · exact .inr (ihq ⟨s, hrest, hprev, hs⟩ hy)
  | times p least most lazy ih =>
      obtain ⟨n, hleast, hmost, h⟩ := reaches_times_iff.mp h
      obtain ⟨n, rfl⟩ := Nat.exists_eq_add_of_le hleast
      obtain ⟨m, hleast, hmore⟩ := exists_of_repeated_add h
      refine isSome_exactly ih hleast fun taken => ?_
      cases most with
      | none => exact isSome_anyTimes ih (x := { m with taken := taken }) hmore hy
      | some most =>
          have hn : n ≤ most - least := by
            have := hmost most rfl
            omega
          exact isSome_atMost ih hn (x := { m with taken := taken }) hmore hy
  | group p ih => exact ih h fun taken => hy _

theorem isSome_attempt_iff {k : Nat} (hp : p.WellCounted) :
    (p.attempt k some x).isSome = true ↔ ∃ y, Reaches p.Takes x y := by
  constructor
  · intro h
    obtain ⟨z, hz⟩ := Option.isSome_iff_exists.mp h
    obtain ⟨y, hreach, -⟩ := exists_of_attempt hp hz
    exact ⟨y, hreach⟩
  · rintro ⟨y, hreach⟩
    exact isSome_attempt hreach fun _ => rfl

/-! ## Matches -/

theorem firstMatch_nil (p : Pattern) (prev : Option Char) :
    p.firstMatch prev [] = p.attempt 1 some ⟨prev, [], []⟩ := by
  rw [firstMatch]
  split <;> simp_all

theorem firstMatch_cons (p : Pattern) (prev : Option Char) (c : Char) (cs : List Char) :
    p.firstMatch prev (c :: cs) =
      (p.attempt 1 some ⟨prev, c :: cs, []⟩).or (p.firstMatch (some c) cs) := by
  rw [firstMatch]
  split <;> simp_all

theorem isSome_firstMatch_iff {prev : Option Char} {s : List Char} :
    (p.firstMatch prev s).isSome = true ↔ ∃ before after, s = before ++ after ∧
      (p.attempt 1 some ⟨before.getLast?.or prev, after, []⟩).isSome = true := by
  induction s generalizing prev with
  | nil =>
      rw [firstMatch_nil]
      constructor
      · exact fun h => ⟨[], [], rfl, h⟩
      · rintro ⟨before, after, heq, h⟩
        obtain ⟨rfl, rfl⟩ := List.append_eq_nil_iff.mp heq.symm
        exact h
  | cons c s ih =>
      rw [firstMatch_cons, Option.isSome_or, Bool.or_eq_true, ih]
      constructor
      · rintro (h | ⟨before, after, rfl, h⟩)
        · exact ⟨[], c :: s, rfl, h⟩
        · refine ⟨c :: before, after, rfl, ?_⟩
          rwa [getLast?_cons_or]
      · rintro ⟨before, after, heq, h⟩
        cases before with
        | nil =>
            obtain rfl : c :: s = after := heq
            exact .inl h
        | cons d before =>
            obtain ⟨rfl, rfl⟩ := List.cons.inj heq
            rw [getLast?_cons_or] at h
            exact .inr ⟨before, after, rfl, h⟩

/-- A text has a match if and only if a search of it succeeds. -/
theorem isSome_captures (hp : p.WellCounted) (s : List Char) :
    (p.captures s).isSome = p.occursIn s := by
  rw [Bool.eq_iff_iff, captures, isSome_firstMatch_iff, occursIn_iff hp]
  simp only [isSome_attempt_iff hp, Option.or_none]
  constructor
  · rintro ⟨before, _, rfl, y, taken, rfl, -, h⟩
    exact ⟨before, taken, y.rest, (List.append_assoc ..).symm, h⟩
  · rintro ⟨before, taken, after, rfl, h⟩
    exact ⟨before, taken ++ after, List.append_assoc .., ⟨_, after, []⟩, taken, rfl, rfl, h⟩

theorem captures_of_attempt {s : List Char} (h : p.attempt 1 some ⟨none, s, []⟩ = some z) :
    p.captures s = some z := by
  rw [captures, firstMatch.eq_def, h]

end Pattern

/-! ## The best stretch

What is tried first is what is found, if it succeeds.
-/

namespace Spot

variable {set : CharSet} {prev : Option Char} {s t : List Char} {taken : List (Nat × List Char)}

theorem stretch_append (prev prev' : Option Char) (s t : List Char)
    (taken taken' : List (Nat × List Char)) :
    stretch ⟨prev, s ++ t, taken⟩ ⟨prev', t, taken'⟩ = s := by
  simp [stretch]

/-- The spot behind all characters of a set that come next. -/
def past (set : CharSet) (x : Spot) : Spot :=
  ⟨(x.rest.takeWhile set.mem).getLast?.or x.prev, x.rest.dropWhile set.mem, x.taken⟩

theorem past_append (hs : ∀ c ∈ s, set.mem c = true) (ht : ∀ c ∈ t.head?, set.mem c = false) :
    past set ⟨prev, s ++ t, taken⟩ = ⟨s.getLast?.or prev, t, taken⟩ := by
  have htake : t.takeWhile set.mem = [] := by
    cases t with
    | nil => rfl
    | cons c t => exact List.takeWhile_cons_of_neg (by simp [ht c rfl])
  have hdrop : t.dropWhile set.mem = t := by
    cases t with
    | nil => rfl
    | cons c t => exact List.dropWhile_cons_of_neg (by simp [ht c rfl])
  simp only [past, List.takeWhile_append_of_pos hs, List.dropWhile_append_of_pos hs, htake, hdrop,
    List.append_nil]

end Spot

namespace Pattern

variable {set : CharSet} {k : Nat} {lazy : Bool} {prev : Option Char} {c : Char} {s t : List Char}
  {taken : List (Nat × List Char)}

theorem attempt_optional : (times p 0 (some 1) false).attempt k next x =
    (p.attempt k next x).or (next x) := rfl

theorem attempt_optional_of_eq_some (h : p.attempt k next x = some z) :
    (times p 0 (some 1) false).attempt k next x = some z := by
  rw [attempt_optional, h, Option.some_or]

theorem attempt_optional_of_eq_none (h : p.attempt k next x = none) :
    (times p 0 (some 1) false).attempt k next x = next x := by
  rw [attempt_optional, h, Option.none_or]

theorem attempt_anyTimes : (times p 0 none lazy).attempt k next x =
    anyTimes (p.attempt k) lazy next x := rfl

theorem attempt_one_of_mem (hc : set.mem c = true) :
    (one set).attempt k next ⟨prev, c :: s, taken⟩ = next ⟨some c, s, taken⟩ := if_pos hc

theorem attempt_one_of_head? (h : ∀ c ∈ x.rest.head?, set.mem c = false) :
    (one set).attempt k next x = none := by
  obtain ⟨prev, rest, taken⟩ := x
  cases rest with
  | nil => rfl
  | cons c s => exact if_neg (by simp [h c rfl])

theorem attempt_group : (group p).attempt k next x =
    p.attempt (k + 1) (fun y => next (x.keep k y)) x := rfl

theorem attempt_some_cons (hc : set.mem c = true) :
    (times (one set) 1 none false).attempt k next ⟨prev, c :: s, taken⟩ =
      (run set).attempt k next ⟨some c, s, taken⟩ := if_pos hc

theorem attempt_some_of_head? (h : ∀ c ∈ x.rest.head?, set.mem c = false) :
    (times (one set) 1 none false).attempt k next x = none := by
  have hone : (one set).attempt k ((run set).attempt k next) x = none := attempt_one_of_head? h
  exact hone

theorem attempt_times_one_cons (hc : set.mem c = true) :
    (times (one set) 0 none lazy).attempt k next ⟨prev, c :: s, taken⟩ =
      choose lazy (next ⟨prev, c :: s, taken⟩)
        ((times (one set) 0 none lazy).attempt k next ⟨some c, s, taken⟩) := by
  have hmore : (one set).attempt k (fun y =>
      if y.rest.length < (c :: s).length then anyTimes ((one set).attempt k) lazy next y
      else next y) ⟨prev, c :: s, taken⟩ =
        anyTimes ((one set).attempt k) lazy next ⟨some c, s, taken⟩ := by
    rw [attempt_one_of_mem hc]
    exact if_pos (Nat.lt_succ_self s.length)
  rw [attempt_anyTimes, attempt_anyTimes, anyTimes, hmore]

theorem attempt_run_stop (h : ∀ c ∈ x.rest.head?, set.mem c = false) :
    (run set).attempt k next x = next x := by
  rw [run, attempt_anyTimes, anyTimes, attempt_one_of_head? h]
  rfl

/-- A run takes all that it can if what follows succeeds then. -/
theorem attempt_run (h : next (x.past set) = some z) : (run set).attempt k next x = some z := by
  obtain ⟨prev, s, taken⟩ := x
  induction s generalizing prev with
  | nil => exact (attempt_run_stop (by simp)).trans h
  | cons c s ih =>
      cases hc : set.mem c with
      | false =>
          have hpast : past set ⟨prev, c :: s, taken⟩ = ⟨prev, c :: s, taken⟩ :=
            past_append (s := []) (by simp) (by simpa using hc)
          rw [hpast] at h
          exact (attempt_run_stop (by simpa using hc)).trans h
      | true =>
          have hpast : past set ⟨prev, c :: s, taken⟩ = past set ⟨some c, s, taken⟩ := by
            simp only [past, List.takeWhile_cons_of_pos hc, List.dropWhile_cons_of_pos hc,
              getLast?_cons_or]
          rw [hpast] at h
          rw [run, attempt_times_one_cons hc, ← run, ih (some c) h]
          rfl

/-- A lazy run takes no more than it must for what follows to succeed. -/
theorem attempt_lazy (hs : ∀ c ∈ s, set.mem c = true)
    (hfirst : ∀ s₁ s₂, s = s₁ ++ s₂ → s₂ ≠ [] → next ⟨s₁.getLast?.or prev, s₂ ++ t, taken⟩ = none)
    (h : next ⟨s.getLast?.or prev, t, taken⟩ = some z) :
    (times (one set) 0 none true).attempt k next ⟨prev, s ++ t, taken⟩ = some z := by
  induction s generalizing prev with
  | nil =>
      have hnow : next ⟨prev, t, taken⟩ = some z := h
      rw [List.nil_append, attempt_anyTimes, anyTimes, hnow]
      rfl
  | cons c s ih =>
      obtain ⟨hc, hs⟩ := List.forall_mem_cons.mp hs
      have hnow : next ⟨prev, (c :: s) ++ t, taken⟩ = none :=
        hfirst [] (c :: s) rfl (List.cons_ne_nil c s)
      rw [getLast?_cons_or] at h
      rw [List.cons_append] at hnow ⊢
      rw [attempt_times_one_cons hc, hnow]
      refine ih hs (fun s₁ s₂ heq hne => ?_) h
      have hlater := hfirst (c :: s₁) s₂ (by rw [heq, List.cons_append]) hne
      rwa [getLast?_cons_or] at hlater

end Pattern

end Landscape
