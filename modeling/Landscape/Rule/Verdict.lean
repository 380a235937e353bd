namespace Landscape

/-!
# Verdicts

What a rule says of one thing: nothing, that it is included, or that it is excluded.
Verdicts of several rules merge; the polarity of a rule decides where it says nothing.
-/

inductive Verdict where
  | neutral
  | included
  | excluded
  deriving DecidableEq, Repr

/-- The polarity of a rule: what a match means. -/
inductive Policy where
  | including
  | excluding
  deriving DecidableEq, Repr

def Policy.verdict : Policy → Verdict
  | including => .included
  | excluding => .excluded

/-- Whether a thing is kept that the rule says nothing of. -/
def Policy.keepsByDefault : Policy → Bool
  | including => false
  | excluding => true

namespace Verdict

/-- An exclusion outweighs an inclusion, and any of the two outweighs saying nothing. -/
def merge : Verdict → Verdict → Verdict
  | excluded, _ => excluded
  | _, excluded => excluded
  | included, _ => included
  | _, included => included
  | neutral, neutral => neutral

def mergeAll (vs : List Verdict) : Verdict := vs.foldl merge neutral

/-- The verdict that all of the list share, and no verdict where they differ or there are none. -/
def common : List Verdict → Verdict
  | [] => neutral
  | v :: vs => if vs.all (· == v) then v else neutral

/-- The verdict of a policy on a match or a failure to match. -/
def ofMatch (policy : Policy) (hit : Bool) : Verdict := if hit then policy.verdict else neutral

/-- Whether a thing with this verdict is kept under a policy. -/
def keeps : Verdict → Policy → Bool
  | included, _ => true
  | excluded, _ => false
  | neutral, policy => policy.keepsByDefault

@[simp] theorem merge_self (v : Verdict) : v.merge v = v := by cases v <;> rfl

@[simp] theorem neutral_merge (v : Verdict) : neutral.merge v = v := by cases v <;> rfl

@[simp] theorem merge_neutral (v : Verdict) : v.merge neutral = v := by cases v <;> rfl

theorem merge_comm (v w : Verdict) : v.merge w = w.merge v := by cases v <;> cases w <;> rfl

theorem merge_assoc (u v w : Verdict) : (u.merge v).merge w = u.merge (v.merge w) := by
  cases u <;> cases v <;> cases w <;> rfl

theorem merge_eq_excluded_iff {v w : Verdict} :
    v.merge w = excluded ↔ v = excluded ∨ w = excluded := by
  cases v <;> cases w <;> simp [merge]

theorem merge_eq_neutral_iff {v w : Verdict} : v.merge w = neutral ↔ v = neutral ∧ w = neutral := by
  cases v <;> cases w <;> simp [merge]

theorem foldl_merge (v : Verdict) (vs : List Verdict) :
    vs.foldl merge v = v.merge (mergeAll vs) := by
  induction vs generalizing v with
  | nil => simp [mergeAll]
  | cons w vs ih =>
      change vs.foldl merge (v.merge w) = v.merge (vs.foldl merge (neutral.merge w))
      rw [ih, ih (neutral.merge w), neutral_merge, merge_assoc]

@[simp] theorem mergeAll_nil : mergeAll [] = neutral := rfl

@[simp] theorem mergeAll_cons (v : Verdict) (vs : List Verdict) :
    mergeAll (v :: vs) = v.merge (mergeAll vs) := by
  rw [mergeAll, List.foldl_cons, neutral_merge, foldl_merge]

end Verdict

end Landscape
