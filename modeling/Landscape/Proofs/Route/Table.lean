import Landscape.Proofs.Route.Ways
import Mathlib.Data.List.Chain
import Mathlib.Data.List.Induction

namespace Landscape

/-!
# What the searches from all roots record

The searches share one table of edges. An edge comes into it with the first path on it that
some search completes, and from every edge in it recorded edges go on to a goal.
-/

variable {ν : Type} [DecidableEq ν] [Key ν]

namespace Network

variable {net : Network ν} {bound : Option Nat} {T : OrderedSet (Edge ν)} {root : ν}
  {roots : List ν}

theorem searchAll_concat (net : Network ν) (bound : Option Nat) (roots : List ν) (root : ν) :
    net.searchAll bound (roots ++ [root]) =
      net.searchFrom bound (net.searchAll bound roots) root := by
  rw [searchAll, List.foldl_append]
  rfl

theorem kept_of_searchFrom {e : Edge ν} (he : T.contains e = true) :
    (net.searchFrom bound T root).contains e = true :=
  contains_searchFrom_iff.mpr (Or.inl he)

theorem searchAll_induction {P : OrderedSet (Edge ν) → Prop} (hempty : P ∅)
    (hstep : ∀ T, P T → ∀ root ∈ roots, P (net.searchFrom bound T root)) :
    P (net.searchAll bound roots) := by
  induction roots using List.reverseRecOn with
  | nil => exact hempty
  | append_singleton roots root ih =>
      rw [searchAll_concat]
      refine hstep _ (ih fun T hT r hr => hstep T hT r ?_) root ?_
      · exact List.mem_append_left _ hr
      · exact List.mem_append_right _ (List.mem_singleton.mpr rfl)

/-- An edge is recorded if the search from some root, with the edges recorded before it,
completes a path on it. -/
theorem contains_searchAll_iff {e : Edge ν} :
    (net.searchAll bound roots).contains e = true ↔ ∃ before root after,
      roots = before ++ root :: after ∧
        ∃ p, net.Finds bound (net.searchAll bound before) root p ∧ e ∈ Edge.ofPathBack p := by
  induction roots using List.reverseRecOn with
  | nil => simp [searchAll]
  | append_singleton roots root ih =>
      rw [searchAll_concat, contains_searchFrom_iff, ih]
      constructor
      · rintro (⟨before, r, after, rfl, hp⟩ | hp)
        · exact ⟨before, r, after ++ [root], by simp, hp⟩
        · exact ⟨roots, root, [], rfl, hp⟩
      · rintro ⟨before, r, after, hroots, hp⟩
        induction after using List.reverseRecOn with
        | nil =>
            obtain ⟨rfl, hr⟩ := List.append_inj' hroots rfl
            cases hr
            exact Or.inr hp
        | append_singleton after a _ =>
            rw [← List.cons_append, ← List.append_assoc] at hroots
            exact Or.inl ⟨before, r, after, (List.append_inj' hroots rfl).1, hp⟩

theorem kept_of_searchAll {before : List ν} (after : List ν) {e : Edge ν}
    (he : (net.searchAll bound before).contains e = true) :
    (net.searchAll bound (before ++ after)).contains e = true := by
  obtain ⟨first, root, rest, rfl, hp⟩ := contains_searchAll_iff.mp he
  exact contains_searchAll_iff.mpr ⟨first, root, rest ++ after, by simp, hp⟩

/-! ## Recorded edges lead on to a goal -/

/-- Recorded edges lead from the node over the inner nodes of the list to a goal at its end. -/
inductive Onward (net : Network ν) (T : OrderedSet (Edge ν)) : ν → List ν → Prop
  | goal {v : ν} : net.Goal v → Onward net T v []
  | step {v w : ν} {l : List ν} : net.Inner v → T.contains ⟨v, w⟩ = true → Onward net T w l →
      Onward net T v (w :: l)

theorem Onward.mono {T' : OrderedSet (Edge ν)}
    (hT : ∀ e, T.contains e = true → T'.contains e = true) {v : ν} {l : List ν}
    (h : net.Onward T v l) : net.Onward T' v l := by
  induction h with
  | goal hg => exact .goal hg
  | step hin he _ ih => exact .step hin (hT _ he) ih

/-- From every node of a path but its root recorded edges lead on, if they do from its end. -/
theorem Onward.of_suffix {z : ν} {p l : List ν} (h : net.Onward T z l)
    (hedges : ∀ e ∈ Edge.ofPathBack (z :: p), T.contains e = true)
    (hinner : ∀ x y q, x :: y :: q <:+ p → net.Inner x) {d s : ν} {q : List ν}
    (hq : d :: s :: q <:+ z :: p) : ∃ l, net.Onward T d l := by
  induction p generalizing z l with
  | nil => simp [List.suffix_cons_iff] at hq
  | cons y p ih =>
      rcases List.suffix_cons_iff.mp hq with heq | hq
      · rw [(List.cons.inj heq).1]
        exact ⟨l, h⟩
      · cases p with
        | nil => simp [List.suffix_cons_iff] at hq
        | cons x p =>
            refine ih (.step (hinner y x p List.suffix_rfl) (hedges _ (by simp)) h) ?_ ?_ hq
            · exact fun e he => hedges e (List.mem_cons_of_mem _ he)
            · exact fun a b r hr => hinner a b r (hr.trans (List.suffix_cons y _))

/-- The edge lies on a recorded walk from one of the roots, by a way of a search to its source,
and from its target on to a goal. -/
def Sound (net : Network ν) (bound : Option Nat) (roots : List ν) (T : OrderedSet (Edge ν))
    (e : Edge ν) : Prop :=
  ∃ root ∈ roots, ∃ q, net.Way root (e.source :: q) ∧
    (∀ n, bound = some n → (e.source :: q).length ≤ n) ∧
    (∀ d ∈ Edge.ofPathBack (e.target :: e.source :: q), T.contains d = true) ∧
    net.Leads e.source e.target ∧ ∃ l, net.Onward T e.target l

theorem sound_searchFrom (hT : ∀ e, T.contains e = true → net.Sound bound roots T e)
    (hroot : root ∈ roots) {e : Edge ν} (he : (net.searchFrom bound T root).contains e = true) :
    net.Sound bound roots (net.searchFrom bound T root) e := by
  rcases contains_searchFrom_iff.mp he with he | ⟨p, hp, hep⟩
  · obtain ⟨r, hr, q, hway, hlen, hedges, hl, l, hon⟩ := hT e he
    exact ⟨r, hr, q, hway, hlen, fun d hd => kept_of_searchFrom (hedges d hd), hl, l,
      hon.mono fun d hd => kept_of_searchFrom hd⟩
  · have hW := ways_ways net bound T root
    have hall : ∀ d ∈ Edge.ofPathBack p, (net.searchFrom bound T root).contains d = true :=
      fun d hd => contains_searchFrom_iff.mpr (Or.inr ⟨p, hp, hd⟩)
    obtain ⟨q, hsuf, hq, -⟩ := hW.of_mem_ofPathBack hp hep
    obtain ⟨z, y, r, rfl, hr, hl, ha⟩ := hp
    -- The path ends at a goal, or on an edge from which the old table leads on.
    obtain ⟨l, hon⟩ : ∃ l, net.Onward (net.searchFrom bound T root) z l := by
      rcases ha with hg | hT'
      · exact ⟨[], .goal hg.1⟩
      · obtain ⟨-, -, -, -, -, -, -, l, hon⟩ := hT _ hT'
        exact ⟨l, hon.mono fun d hd => kept_of_searchFrom hd⟩
    have hleads : net.Leads e.source e.target := by
      rcases List.suffix_cons_iff.mp hsuf with heq | hsuf
      · simp only [List.cons.injEq] at heq
        rw [heq.1, heq.2.1]
        exact hl
      · exact ((hW.way _ hr).suffix hsuf).leads
    refine ⟨root, hroot, q, hW.way _ hq, hW.length_le _ hq, fun d hd => ?_, hleads, ?_⟩
    · exact hall d (Edge.ofPathBack_subset_of_suffix hsuf hd)
    · exact hon.of_suffix hall (fun a b c hc => ((hW.way _ hr).suffix hc).inner) hsuf

theorem sound_searchAll {e : Edge ν} (he : (net.searchAll bound roots).contains e = true) :
    net.Sound bound roots (net.searchAll bound roots) e :=
  searchAll_induction (P := fun T => ∀ e, T.contains e = true → net.Sound bound roots T e)
    (fun e he => by simp at he)
    (fun _ hT _ hroot _ he => sound_searchFrom hT hroot he) e he

/-! ## Recorded walks -/

theorem isChain_reverse_of_edges {p : List ν}
    (h : ∀ e ∈ Edge.ofPathBack p, T.contains e = true) :
    p.reverse.IsChain fun u v => T.contains ⟨u, v⟩ = true := by
  rw [List.isChain_reverse]
  induction p with
  | nil => exact List.isChain_nil
  | cons v p ih =>
      cases p with
      | nil => exact List.isChain_singleton v
      | cons u p =>
          refine List.isChain_cons_cons.mpr ⟨h _ (by simp), ih fun e he => h e ?_⟩
          exact List.mem_cons_of_mem _ he

theorem Onward.exists_walk {v : ν} {l : List ν} (h : net.Onward T v l) :
    ∃ inner z, v :: l = inner ++ [z] ∧ (∀ x ∈ inner, net.Inner x) ∧ net.Goal z ∧
      (v :: l).IsChain fun u v => T.contains ⟨u, v⟩ = true := by
  induction h with
  | @goal v hg => exact ⟨[], v, rfl, by simp, hg, List.isChain_singleton v⟩
  | @step v w l hin he _ ih =>
      obtain ⟨inner, z, hl, hinner, hg, hchain⟩ := ih
      exact ⟨v :: inner, z, by rw [hl, List.cons_append],
        List.forall_mem_cons.mpr ⟨hin, hinner⟩, hg, List.isChain_cons_cons.mpr ⟨he, hchain⟩⟩

/-- A sound edge lies on a walk along recorded edges, from a root over inner nodes to a goal, and
the walk comes to the edge within the bound. -/
theorem Sound.exists_walk {e : Edge ν} (h : net.Sound bound roots T e) :
    ∃ root ∈ roots, ∃ inner z before after, net.Passable root ∧ (∀ x ∈ inner, net.Inner x) ∧
      net.Goal z ∧ root :: (inner ++ [z]) = before ++ e.source :: e.target :: after ∧
      (root :: (inner ++ [z])).IsChain (fun u v => T.contains ⟨u, v⟩ = true) ∧
      ∀ n, bound = some n → before.length + 1 ≤ n := by
  obtain ⟨root, hroot, q, hway, hlen, hedges, -, l, hon⟩ := h
  obtain ⟨back, hback, hpass, hinner₁⟩ := hway.exists_eq_append
  obtain ⟨inner, z, hl, hinner₂, hg, hchain⟩ := hon.exists_walk
  have hback' : (e.source :: q).reverse = root :: back.reverse := by rw [hback]; simp
  have hw : root :: (back.reverse ++ inner ++ [z]) = q.reverse ++ e.source :: e.target :: l := by
    calc root :: (back.reverse ++ inner ++ [z])
        = (root :: back.reverse) ++ (inner ++ [z]) := by simp
      _ = (e.source :: q).reverse ++ e.target :: l := by rw [← hback', ← hl]
      _ = q.reverse ++ e.source :: e.target :: l := by simp
  refine ⟨root, hroot, back.reverse ++ inner, z, q.reverse, l, hpass, ?_, hg, hw, ?_, ?_⟩
  · intro x hx
    rcases List.mem_append.mp hx with hx | hx
    · exact hinner₁ x (List.mem_reverse.mp hx)
    · exact hinner₂ x hx
  · have hfirst := isChain_reverse_of_edges hedges
    rw [hw, List.isChain_split]
    simp only [List.reverse_cons, List.append_assoc, List.cons_append, List.nil_append] at hfirst
    obtain ⟨hbefore, he⟩ := List.isChain_split.mp hfirst
    rw [List.isChain_pair] at he
    exact ⟨hbefore, List.isChain_cons_cons.mpr ⟨he, hchain⟩⟩
  · intro n hn
    have hle := hlen n hn
    rwa [List.length_reverse]

end Network

end Landscape
