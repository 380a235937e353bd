import Landscape.Proofs.Rule.Polarity

namespace Landscape

/-!
# Rules without routes

A term that is no route is true of a dependency through its ends: of both in an including rule,
of either in an excluding one. The ends are asked term by term. So a rule without routes keeps
dependencies only between projects that it keeps, but not always all of them.
-/

namespace ProjectLeaf

variable {g : Graph} {usual : Option Nat} {k : Link} {t : List Char}

theorem trueOf_iff_of_not_hasArrow {p : Project} (h : hasArrow t = false) :
    TrueOf p t ↔ ∃ a, ProjectTest.ofText t = .ok a ∧ a.holds p = true := by
  simp [TrueOf, h, Term.TrueOf]

theorem trueOfLink_including_iff (h : hasArrow t = false) :
    Term.TrueOf (ofText g .including usual) (holdsOfLink k) t ↔
      TrueOf k.source t ∧ TrueOf k.target t := by
  rw [trueOf_iff_of_not_hasArrow h, trueOf_iff_of_not_hasArrow h]
  cases ht : ProjectTest.ofText t <;>
    simp [Term.TrueOf, ofText, h, ht, holdsOfLink]

theorem trueOfLink_excluding_iff (h : hasArrow t = false) :
    Term.TrueOf (ofText g .excluding usual) (holdsOfLink k) t ↔
      TrueOf k.source t ∨ TrueOf k.target t := by
  rw [trueOf_iff_of_not_hasArrow h, trueOf_iff_of_not_hasArrow h]
  cases ht : ProjectTest.ofText t <;>
    simp [Term.TrueOf, ofText, h, ht, holdsOfLink]

end ProjectLeaf

namespace ProjectRule

open ProjectLeaf (TrueOf)

def RouteFree (rule : List Char) : Prop :=
  ∀ clause ∈ Formula.pieces rule, ∀ t ∈ clause, ProjectLeaf.hasArrow t = false

instance {rule : List Char} : Decidable (RouteFree rule) :=
  inferInstanceAs (Decidable (∀ clause ∈ Formula.pieces rule, ∀ t ∈ clause, _))

/-- The rule keeps a dependency just when it keeps both ends of it. -/
def Induces (r : ProjectRule) : Prop :=
  ∀ k, r.keepsLink k = true ↔ r.keepsProject k.source = true ∧ r.keepsProject k.target = true

variable {g : Graph} {usual : Option Nat} {rule : List Char} {r : ProjectRule} {k : Link}

theorem keepsLink_iff_applies {policy : Policy} (h : ofText g policy usual rule = .ok r) :
    r.keepsLink k = true ↔ (policy = .including ↔
      Formula.Applies (ProjectLeaf.ofText g policy usual) (ProjectLeaf.holdsOfLink k) rule) := by
  have hpolicy := policy_of_mem_leaves h
  exact Formula.keeps_iff_of_policy h hpolicy fun l hl =>
    hpolicy l hl ▸ ProjectLeaf.onLink_eq_ofMatch k l

theorem keepsLink_including_iff (hfree : RouteFree rule)
    (h : ofText g .including usual rule = .ok r) :
    r.keepsLink k = true ↔
      ∃ clause ∈ Formula.pieces rule, ∀ t ∈ clause, TrueOf k.source t ∧ TrueOf k.target t := by
  rw [keepsLink_iff_applies h]
  simp only [true_iff]
  refine exists_congr fun clause => and_congr_right fun hclause => forall₂_congr fun t ht => ?_
  exact ProjectLeaf.trueOfLink_including_iff (hfree clause hclause t ht)

theorem keepsLink_excluding_iff (hfree : RouteFree rule)
    (h : ofText g .excluding usual rule = .ok r) :
    r.keepsLink k = true ↔
      ∀ clause ∈ Formula.pieces rule, ∃ t ∈ clause, ¬ TrueOf k.source t ∧ ¬ TrueOf k.target t := by
  have happlies : Formula.Applies (ProjectLeaf.ofText g .excluding usual)
      (ProjectLeaf.holdsOfLink k) rule ↔
        ∃ clause ∈ Formula.pieces rule, ∀ t ∈ clause, TrueOf k.source t ∨ TrueOf k.target t := by
    refine exists_congr fun clause => and_congr_right fun hclause => forall₂_congr fun t ht => ?_
    exact ProjectLeaf.trueOfLink_excluding_iff (hfree clause hclause t ht)
  rw [keepsLink_iff_applies h, happlies]
  simp only [reduceCtorEq, false_iff]
  push Not
  rfl

theorem ends_kept_of_keepsLink {policy : Policy} (hfree : RouteFree rule)
    (h : ofText g policy usual rule = .ok r) (hk : r.keepsLink k = true) :
    r.keepsProject k.source = true ∧ r.keepsProject k.target = true := by
  have hpolar := polar_ofText g usual
  cases policy with
  | including =>
      obtain ⟨clause, hclause, hends⟩ := (keepsLink_including_iff hfree h).mp hk
      rw [hpolar.including h, hpolar.including h]
      exact ⟨⟨clause, hclause, fun t ht => (hends t ht).1⟩,
        ⟨clause, hclause, fun t ht => (hends t ht).2⟩⟩
  | excluding =>
      have hends := (keepsLink_excluding_iff hfree h).mp hk
      rw [hpolar.excluding h, hpolar.excluding h]
      constructor
      · rintro ⟨clause, hclause, htrue⟩
        obtain ⟨t, ht, hsource, -⟩ := hends clause hclause
        exact hsource (htrue t ht)
      · rintro ⟨clause, hclause, htrue⟩
        obtain ⟨t, ht, -, htarget⟩ := hends clause hclause
        exact htarget (htrue t ht)

/-- With one clause there is no choice between the ends of a dependency. -/
theorem induces_of_one_clause (hfree : RouteFree rule) (h : ofText g .including usual rule = .ok r)
    {clause : List (List Char)} (hone : Formula.pieces rule = [clause]) : r.Induces := by
  have hkeeps (p : Project) : r.keepsProject p = true ↔ ∀ t ∈ clause, TrueOf p t := by
    rw [(polar_ofText g usual).including h, hone]
    simp
  intro k
  refine ⟨ends_kept_of_keepsLink hfree h, fun ⟨hsource, htarget⟩ => ?_⟩
  rw [keepsLink_including_iff hfree h]
  refine ⟨clause, by simp [hone], fun t ht => ?_⟩
  exact ⟨(hkeeps k.source).mp hsource t ht, (hkeeps k.target).mp htarget t ht⟩

theorem induces_of_single_terms (hfree : RouteFree rule)
    (h : ofText g .excluding usual rule = .ok r)
    (hone : ∀ clause ∈ Formula.pieces rule, ∃ t, clause = [t]) : r.Induces := by
  have hkeeps {p : Project} (hp : r.keepsProject p = true) {t : List Char}
      (ht : [t] ∈ Formula.pieces rule) : ¬ TrueOf p t := by
    rw [(polar_ofText g usual).excluding h] at hp
    exact fun htrue => hp ⟨[t], ht, by simpa using htrue⟩
  intro k
  refine ⟨ends_kept_of_keepsLink hfree h, fun ⟨hsource, htarget⟩ => ?_⟩
  rw [keepsLink_excluding_iff hfree h]
  intro clause hclause
  obtain ⟨t, rfl⟩ := hone clause hclause
  exact ⟨t, List.mem_singleton_self t, hkeeps hsource hclause, hkeeps htarget hclause⟩

/-- A rule without routes keeps a dependency only if it keeps both ends. An including rule keeps
it if all terms of some clause are true of both ends, an excluding one if each clause has a term
that is true of neither. So the kept projects induce the kept dependencies where an including
rule is one clause, and where every clause of an excluding rule is one term. -/
theorem keepsLink_iff_of_routeFree (g : Graph) (usual : Option Nat) (hfree : RouteFree rule) :
    (∀ policy r, ofText g policy usual rule = .ok r → ∀ k, r.keepsLink k = true →
      r.keepsProject k.source = true ∧ r.keepsProject k.target = true) ∧
    (∀ r, ofText g .including usual rule = .ok r →
      (∀ k, r.keepsLink k = true ↔ ∃ clause ∈ Formula.pieces rule,
        ∀ t ∈ clause, TrueOf k.source t ∧ TrueOf k.target t) ∧
      ((∃ clause, Formula.pieces rule = [clause]) → r.Induces)) ∧
    ∀ r, ofText g .excluding usual rule = .ok r →
      (∀ k, r.keepsLink k = true ↔ ∀ clause ∈ Formula.pieces rule,
        ∃ t ∈ clause, ¬ TrueOf k.source t ∧ ¬ TrueOf k.target t) ∧
      ((∀ clause ∈ Formula.pieces rule, ∃ t, clause = [t]) → r.Induces) := by
  refine ⟨fun policy r h k => ends_kept_of_keepsLink hfree h, fun r h => ⟨fun k => ?_, ?_⟩,
    fun r h => ⟨fun k => ?_, ?_⟩⟩
  · exact keepsLink_including_iff hfree h
  · rintro ⟨clause, hone⟩
    exact induces_of_one_clause hfree h hone
  · exact keepsLink_excluding_iff hfree h
  · exact induces_of_single_terms hfree h

/-- The rule that takes away `c` and `d` keeps the dependency of `a` on `b` with its ends. -/
theorem keepsLink_iff_of_routeFree_of_single_terms :
    ∃ g r, Graph.ofRecords [.code "a" ["b", "c"], .code "b" [], .code "c" ["d"]] = .ok g ∧
      ofText g .excluding none "id:3 | id:4".toList = .ok r ∧
      (g.selectLinks r .all).map (fun k => (k.source.name, k.target.name)) = [("a", "b")] ∧
      (∀ k ∈ g.selectLinks r .all,
        r.keepsProject k.source = true ∧ r.keepsProject k.target = true) ∧
      r.Induces := by
  have hfree : RouteFree "id:3 | id:4".toList := by decide
  have hsingle : ∀ clause ∈ Formula.pieces "id:3 | id:4".toList, ∃ t, clause = [t] := by
    intro clause hclause
    rw [show Formula.pieces "id:3 | id:4".toList = [["id:3".toList], ["id:4".toList]] by decide,
      List.mem_pair] at hclause
    rcases hclause with rfl | rfl
    · exact ⟨_, rfl⟩
    · exact ⟨_, rfl⟩
  have hends {g : Graph} {r : ProjectRule}
      (h : ofText g .excluding none "id:3 | id:4".toList = .ok r) :
      (∀ k ∈ g.selectLinks r .all,
        r.keepsProject k.source = true ∧ r.keepsProject k.target = true) ∧ r.Induces := by
    obtain ⟨hkept, -, hinduces⟩ := keepsLink_iff_of_routeFree g none hfree
    exact ⟨fun k hk => hkept _ r h k (List.mem_filter.mp hk).2, (hinduces r h).2 hsingle⟩
  refine ⟨_, _, by cbv, by cbv, by cbv, hends ?_⟩
  cbv

/-- Where `a` depends on `b`, a choice of `a` or `b` keeps both and drops the dependency, and so
does a rule that takes away what is `a` and `b` at once. -/
theorem exists_rule_not_inducing :
    ∃ g adds drops k, Graph.ofRecords [.code "a" ["b"], .code "b" []] = .ok g ∧
      g.allDependencies .all = [k] ∧
      (RouteFree "id:1 | id:2".toList ∧ ofText g .including none "id:1 | id:2".toList = .ok adds ∧
        adds.keepsProject k.source = true ∧ adds.keepsProject k.target = true ∧
        adds.keepsLink k = false) ∧
      RouteFree "id:1 & id:2".toList ∧ ofText g .excluding none "id:1 & id:2".toList = .ok drops ∧
      drops.keepsProject k.source = true ∧ drops.keepsProject k.target = true ∧
      drops.keepsLink k = false := by
  refine ⟨_, _, _, _, by cbv, by cbv, ⟨?_, by cbv, by cbv, by cbv, by cbv⟩, ?_, by cbv, by cbv,
    by cbv, by cbv⟩
  · decide
  · decide

end ProjectRule

end Landscape
