import Mathlib.Data.List.Forall2

namespace Landscape

/-!
# Runs over lists

A run that may fail and succeeds has succeeded in each of its steps. A run whose steps only add
has in the end what some step has added. Where each step succeeds under a condition that only gets
stronger, the run succeeds if and only if the condition holds in the end.
-/

/-- A run in two steps that succeeds has succeeded in each. -/
theorem exists_of_bind_eq_ok {ε α β : Type} {x : Except ε α} {f : α → Except ε β} {b : β}
    (h : x >>= f = .ok b) : ∃ a, x = .ok a ∧ f a = .ok b := by
  cases x with
  | error e => cases h
  | ok a => exact ⟨a, rfl, h⟩

theorem bind_eq_of_eq_ok {ε α β : Type} {x : Except ε α} {f : α → Except ε β} {a : α}
    (h : x = .ok a) : x >>= f = f a := by
  rw [h]
  rfl

/-- A run in two steps fails in the first one or, after it, in the second. -/
theorem bind_eq_error_iff {ε α β : Type} {x : Except ε α} {f : α → Except ε β} {e : ε} :
    x >>= f = .error e ↔ x = .error e ∨ ∃ a, x = .ok a ∧ f a = .error e := by
  cases x <;> simp [bind, Except.bind]

theorem map_eq_ok_iff {ε α β : Type} {x : Except ε α} {f : α → β} {b : β} :
    f <$> x = .ok b ↔ ∃ a, x = .ok a ∧ f a = b := by
  cases x <;> simp [Functor.map, Except.map]

theorem map_eq_error_iff {ε α β : Type} {x : Except ε α} {f : α → β} {e : ε} :
    f <$> x = .error e ↔ x = .error e := by
  cases x <;> simp [Functor.map, Except.map]

/-- Where each step adds what its member has to give, the run adds what some member gives. -/
theorem foldl_iff {σ α : Type} {P : σ → Prop} {f : σ → α → σ} {gives : α → Prop}
    (hstep : ∀ s a, P (f s a) ↔ P s ∨ gives a) (s : σ) (as : List α) :
    P (as.foldl f s) ↔ P s ∨ ∃ a ∈ as, gives a := by
  induction as generalizing s with
  | nil => simp
  | cons a as ih => rw [List.foldl_cons, ih, hstep, or_assoc, List.exists_mem_cons_iff]

/-- Checks one after the other succeed if each of them does. -/
theorem forM_eq_ok_iff {ε α : Type} {f : α → Except ε PUnit} {as : List α} :
    forM as f = .ok () ↔ ∀ a ∈ as, f a = .ok () := by
  induction as with
  | nil => simp [pure, Except.pure]
  | cons a as ih =>
      rw [List.forM_cons, List.forall_mem_cons, ← ih]
      constructor
      · intro h
        obtain ⟨_, ha, has⟩ := exists_of_bind_eq_ok h
        exact ⟨ha, has⟩
      · rintro ⟨ha, has⟩
        rw [bind_eq_of_eq_ok ha, has]

/-- A run over a list that succeeds has succeeded on each of its members. -/
theorem forall₂_of_mapM_eq_ok {ε α β : Type} {f : α → Except ε β} {as : List α} {bs : List β}
    (h : as.mapM f = .ok bs) : List.Forall₂ (fun a b => f a = .ok b) as bs := by
  induction as generalizing bs with
  | nil =>
      rw [List.mapM_nil] at h
      cases h
      exact .nil
  | cons a as ih =>
      rw [List.mapM_cons] at h
      cases ha : f a with
      | error e => simp [ha, bind, Except.bind] at h
      | ok b =>
          cases has : as.mapM f with
          | error e => simp [ha, has, bind, Except.bind] at h
          | ok cs =>
              simp only [ha, has, bind, Except.bind, pure, Except.pure, Except.ok.injEq] at h
              exact h ▸ .cons ha (ih has)

theorem mapM_eq_ok_iff {ε α β : Type} {f : α → Except ε β} {as : List α} {bs : List β} :
    as.mapM f = .ok bs ↔ List.Forall₂ (fun a b => f a = .ok b) as bs := by
  constructor
  · exact forall₂_of_mapM_eq_ok
  · intro h
    induction h with
    | nil => rfl
    | cons hab _ ih =>
        rw [List.mapM_cons, bind_eq_of_eq_ok hab, bind_eq_of_eq_ok ih]
        rfl

theorem length_eq_of_mapM_eq_ok {ε α β : Type} {f : α → Except ε β} {as : List α} {bs : List β}
    (h : as.mapM f = .ok bs) : bs.length = as.length :=
  (mapM_eq_ok_iff.mp h).length_eq.symm

theorem exists_mapM_eq_ok_iff {ε α β : Type} {f : α → Except ε β} {as : List α} :
    (∃ bs, as.mapM f = .ok bs) ↔ ∀ a ∈ as, ∃ b, f a = .ok b := by
  induction as with
  | nil => simp [pure, Except.pure]
  | cons a as ih =>
      rw [List.forall_mem_cons, ← ih]
      constructor
      · rintro ⟨bs, h⟩
        cases mapM_eq_ok_iff.mp h with
        | cons ha has => exact ⟨⟨_, ha⟩, _, mapM_eq_ok_iff.mpr has⟩
      · rintro ⟨⟨b, ha⟩, bs, has⟩
        exact ⟨b :: bs, mapM_eq_ok_iff.mpr (.cons ha (mapM_eq_ok_iff.mp has))⟩

/-- A run over a list stops with the error of the first member that it fails on. -/
theorem mapM_eq_error_iff {ε α β : Type} {f : α → Except ε β} {as : List α} {e : ε} :
    as.mapM f = .error e ↔ ∃ before a after, as = before ++ a :: after ∧
      (∀ b ∈ before, ∃ c, f b = .ok c) ∧ f a = .error e := by
  induction as with
  | nil => simp [pure, Except.pure]
  | cons a as ih =>
      rw [List.mapM_cons]
      cases ha : f a with
      | error e' =>
          constructor
          · intro h
            cases h
            exact ⟨[], a, as, rfl, by simp, ha⟩
          · rintro ⟨before, b, after, heq, hbefore, hb⟩
            cases before with
            | nil =>
                cases heq
                rw [ha] at hb
                cases hb
                rfl
            | cons c before =>
                cases heq
                obtain ⟨d, hd⟩ := hbefore a List.mem_cons_self
                rw [ha] at hd
                cases hd
      | ok c =>
          have hrest : (Except.ok c >>= fun c => as.mapM f >>= fun cs => pure (c :: cs)) =
              .error e ↔ as.mapM f = .error e := map_eq_error_iff (f := (c :: ·))
          rw [hrest, ih]
          constructor
          · rintro ⟨before, b, after, rfl, hbefore, hb⟩
            exact ⟨a :: before, b, after, rfl, List.forall_mem_cons.mpr ⟨⟨c, ha⟩, hbefore⟩, hb⟩
          · rintro ⟨before, b, after, heq, hbefore, hb⟩
            cases before with
            | nil =>
                cases heq
                rw [ha] at hb
                cases hb
            | cons d before =>
                cases heq
                exact ⟨before, b, after, rfl, (List.forall_mem_cons.mp hbefore).2, hb⟩

theorem mapM_singleton {ε α β : Type} (f : α → Except ε β) (a : α) :
    [a].mapM f = (fun b => [b]) <$> f a := by
  rw [List.mapM_cons, List.mapM_nil]
  cases f a with
  | error e => rfl
  | ok b => rfl

/-- A list of lists may be run over as one list. -/
theorem flatten_mapM_mapM {ε α β : Type} {f : α → Except ε β} (ass : List (List α)) :
    List.flatten <$> (ass.mapM fun as => as.mapM f) = ass.flatten.mapM f := by
  induction ass with
  | nil => rfl
  | cons as ass ih =>
      rw [List.mapM_cons, List.flatten_cons, List.mapM_append, ← ih]
      cases as.mapM f with
      | error e => rfl
      | ok bs =>
          cases ass.mapM fun as => as.mapM f with
          | error e => rfl
          | ok bss => rfl

/-- A run whose steps are changed afterwards is the run changed afterwards. -/
theorem mapM_map_ok {ε α β γ : Type} (g : β → γ) (f : α → Except ε β) (as : List α) :
    (as.mapM fun a => g <$> f a) = List.map g <$> as.mapM f := by
  induction as with
  | nil => rfl
  | cons a as ih =>
      rw [List.mapM_cons, List.mapM_cons, ih]
      cases f a with
      | error e => rfl
      | ok b =>
          cases as.mapM f with
          | error e => rfl
          | ok bs => rfl

section

variable {β γ : Type} {R : β → γ → Prop} {P : β → Prop} {Q : γ → Prop}

theorem exists_congr_of_forall₂ (hR : ∀ b c, R b c → (P b ↔ Q c)) {bs : List β} {cs : List γ}
    (h : List.Forall₂ R bs cs) : (∃ b ∈ bs, P b) ↔ ∃ c ∈ cs, Q c := by
  induction h with
  | nil => simp
  | cons hbc _ ih =>
      rw [List.exists_mem_cons_iff, List.exists_mem_cons_iff, hR _ _ hbc, ih]

theorem forall_congr_of_forall₂ (hR : ∀ b c, R b c → (P b ↔ Q c)) {bs : List β} {cs : List γ}
    (h : List.Forall₂ R bs cs) : (∀ b ∈ bs, P b) ↔ ∀ c ∈ cs, Q c := by
  induction h with
  | nil => simp
  | cons hbc _ ih => rw [List.forall_mem_cons, List.forall_mem_cons, hR _ _ hbc, ih]

theorem forall_mem_of_forall₂ (hR : ∀ b c, R b c → Q c) {bs : List β} {cs : List γ}
    (h : List.Forall₂ R bs cs) : ∀ c ∈ cs, Q c := by
  induction h with
  | nil => simp
  | cons hbc _ ih => exact List.forall_mem_cons.mpr ⟨hR _ _ hbc, ih⟩

/-- What fits two lists one after the other is in two parts. -/
theorem forall₂_append_left_iff {bs bs' : List β} {cs : List γ} :
    List.Forall₂ R (bs ++ bs') cs ↔
      ∃ as as', List.Forall₂ R bs as ∧ List.Forall₂ R bs' as' ∧ as ++ as' = cs := by
  constructor
  · intro h
    induction bs generalizing cs with
    | nil => exact ⟨[], cs, .nil, h, rfl⟩
    | cons b bs ih =>
        cases h with
        | cons hbc h =>
            obtain ⟨as, as', has, has', rfl⟩ := ih h
            exact ⟨_ :: as, as', .cons hbc has, has', rfl⟩
  · rintro ⟨as, as', has, has', rfl⟩
    exact List.rel_append has has'

theorem eq_nil_iff_of_forall₂ {bs : List β} {cs : List γ} (h : List.Forall₂ R bs cs) :
    bs = [] ↔ cs = [] := by
  cases h <;> simp

end

/-! ## Runs that succeed under a condition -/

/-- The run succeeds if and only if the condition holds, and its outcome has the property. -/
def SucceedsIff {ε α : Type} (C : Prop) (P : α → Prop) : Except ε α → Prop
  | .ok a => C ∧ P a
  | .error _ => ¬ C

namespace SucceedsIff

variable {ε α β σ : Type} {C D : Prop} {P : α → Prop} {Q : β → Prop}

theorem exists_ok_iff {x : Except ε α} (h : SucceedsIff C P x) : (∃ a, x = .ok a) ↔ C := by
  cases x with
  | ok a => exact ⟨fun _ => h.1, fun _ => ⟨a, rfl⟩⟩
  | error e =>
      refine ⟨?_, fun hC => absurd hC h⟩
      rintro ⟨a, ha⟩
      cases ha

theorem of_ok {x : Except ε α} {a : α} (h : SucceedsIff C P x) (ha : x = .ok a) : P a := by
  subst ha
  exact h.2

theorem imp {P' : α → Prop} {x : Except ε α} (h : SucceedsIff C P x) (hP : ∀ a, P a → P' a) :
    SucceedsIff C P' x := by
  cases x with
  | ok a => exact ⟨h.1, hP a h.2⟩
  | error e => exact h

theorem bind {x : Except ε α} {f : α → Except ε β} (hx : SucceedsIff C P x) (hDC : D → C)
    (hf : ∀ a, C → P a → SucceedsIff D Q (f a)) : SucceedsIff D Q (x >>= f) := by
  cases x with
  | ok a => exact hf a hx.1 hx.2
  | error e => exact fun hD => hx (hDC hD)

theorem foldlM_append {C : List α → Prop} {P : List α → σ → Prop} {f : σ → α → Except ε σ}
    {done as : List α} {s : σ} (hC : ∀ done more, C (done ++ more) → C done)
    (hstep : ∀ done, ∀ a ∈ as, ∀ s, C done → P done s →
      SucceedsIff (C (done ++ [a])) (P (done ++ [a])) (f s a))
    (hdone : C done) (hs : P done s) :
    SucceedsIff (C (done ++ as)) (P (done ++ as)) (as.foldlM f s) := by
  induction as generalizing done s with
  | nil =>
      rw [List.append_nil]
      exact ⟨hdone, hs⟩
  | cons a as ih =>
      rw [List.foldlM_cons, List.append_cons]
      refine (hstep done a List.mem_cons_self s hdone hs).bind (hC _ as) fun t ht hPt => ?_
      exact ih (fun done b hb => hstep done b (List.mem_cons_of_mem a hb)) ht hPt

theorem foldlM {C : List α → Prop} {P : List α → σ → Prop} {f : σ → α → Except ε σ}
    {l : List α} {s : σ} (hC : ∀ done more, C (done ++ more) → C done)
    (hstep : ∀ done, ∀ a ∈ l, ∀ s, C done → P done s →
      SucceedsIff (C (done ++ [a])) (P (done ++ [a])) (f s a))
    (hnil : C []) (hs : P [] s) : SucceedsIff (C l) (P l) (l.foldlM f s) :=
  foldlM_append hC hstep hnil hs

end SucceedsIff

end Landscape
