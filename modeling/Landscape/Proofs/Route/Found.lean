import Landscape.Proofs.Route.Ways
import Mathlib.Data.List.Chain

namespace Landscape

/-!
# Which paths a search finds

A search stands on each node once, by the first way to it that it tries. A path is recorded if
the search takes each of its edges that was not recorded before, and a root is a source of
recorded edges if some path from it fits the bound even where the search comes to a node late.
-/

variable {ν : Type} [DecidableEq ν] [Key ν]

namespace Network

variable {net : Network ν} {bound : Option Nat} {T : OrderedSet (Edge ν)} {root u v z : ν}
  {q : List ν}

/-! ## Recorded paths -/

/-- The search from `root` goes along the edge: it stands on the source, and then on the target
right behind it, or the target is a goal. -/
def Takes (net : Network ν) (bound : Option Nat) (T : OrderedSet (Edge ν)) (root : ν)
    (e : Edge ν) : Prop :=
  ∃ q, e.source :: q ∈ net.ways bound T root ∧
    (e.target :: e.source :: q ∈ net.ways bound T root ∨ net.Goal e.target ∧ e.target ≠ root)

theorem contains_or_takes {e : Edge ν} (he : (net.searchFrom bound T root).contains e = true) :
    T.contains e = true ∨ net.Takes bound T root e := by
  rcases contains_searchFrom_iff.mp he with hT | ⟨p, hp, hep⟩
  · exact Or.inl hT
  · obtain ⟨q, -, hq, (hg | hT) | hmem⟩ := (ways_ways net bound T root).of_mem_ofPathBack hp hep
    · exact Or.inr ⟨q, hq, Or.inr hg⟩
    · exact Or.inl hT
    · exact Or.inr ⟨q, hq, Or.inl hmem⟩

/-- The edge to a way is recorded with every recorded edge that goes on from it. -/
theorem contains_of_next {x : ν} (hq : v :: u :: q ∈ net.ways bound T root)
    (hl : net.Leads v x) (hx : (net.searchFrom bound T root).contains ⟨v, x⟩ = true) :
    (net.searchFrom bound T root).contains ⟨u, v⟩ = true := by
  have hW := ways_ways net bound T root
  rcases contains_searchFrom_iff.mp hx with hT | ⟨p, hp, hep⟩
  · exact (settled_of_mem_ways hq hl).records (Or.inr hT) ⟨u, v⟩ (by simp)
  · obtain ⟨r, hsuf, hr, -⟩ := hW.of_mem_ofPathBack hp hep
    rw [hW.unique v r (u :: q) hr hq] at hsuf
    exact contains_searchFrom_iff.mpr (Or.inr ⟨p, hp,
      Edge.mem_ofPathBack_iff.mpr ⟨q, (List.suffix_cons x _).trans hsuf⟩⟩)

/-- A path to a goal is recorded just when each of its edges was recorded before or is taken. -/
theorem isChain_contains_searchFrom_iff {l : List ν} (hl : (l ++ [z]).IsChain net.Leads)
    (hz : net.Goal z) :
    (l ++ [z]).IsChain (fun u v => (net.searchFrom bound T root).contains ⟨u, v⟩ = true) ↔
      (l ++ [z]).IsChain fun u v =>
        T.contains ⟨u, v⟩ = true ∨ net.Takes bound T root ⟨u, v⟩ := by
  refine ⟨fun h => h.imp fun u v he => contains_or_takes he, fun h => ?_⟩
  -- From the end of the path back: an edge that is taken is recorded with the one behind it.
  induction l with
  | nil => simp
  | cons u l ih =>
      cases l with
      | nil =>
          simp only [List.cons_append, List.nil_append, List.isChain_pair] at hl h ⊢
          rcases h with hT | ⟨q, hq, hmem | hg⟩
          · exact contains_searchFrom_iff.mpr (Or.inl hT)
          · exact absurd hz ((ways_ways net bound T root).way _ hmem).inner.2
          · exact (settled_of_mem_ways hq hl).records (Or.inl hg) ⟨u, z⟩ (by simp)
      | cons v l =>
          simp only [List.cons_append, List.isChain_cons_cons] at hl h ih ⊢
          have hrest := ih hl.2 h.2
          refine ⟨?_, hrest⟩
          rcases h.1 with hT | ⟨q, hq, hmem | hg⟩
          · exact contains_searchFrom_iff.mpr (Or.inl hT)
          · obtain ⟨x, l', hx⟩ : ∃ x l', l ++ [z] = x :: l' :=
              List.exists_cons_of_ne_nil (by simp)
            rw [hx, List.isChain_cons_cons] at hl hrest
            exact contains_of_next hmem hl.2.1 hrest.1
          · exact (settled_of_mem_ways hq hl.1).records (Or.inl hg) ⟨u, v⟩ (by simp)

/-! ## Sources of recorded edges -/

/-- The list continues a path from `u` up to where it arrives, and wherever the search stands on
an inner node of it, what follows still fits the bound. -/
inductive Timely (net : Network ν) (bound : Option Nat) (T : OrderedSet (Edge ν)) (root : ν) :
    ν → List ν → Prop
  | arrive {u z : ν} : net.Leads u z → net.Arrives T root u z → Timely net bound T root u [z]
  | step {u v : ν} {l : List ν} : net.Leads u v → net.Inner v →
      (∀ q, v :: q ∈ net.ways bound T root → ∀ n, bound = some n → q.length + l.length ≤ n) →
      Timely net bound T root v l → Timely net bound T root u (v :: l)

theorem Timely.length_pos {l : List ν} (h : net.Timely bound T root u l) : 0 < l.length := by
  cases h <;> simp

/-- A path to a goal is timely if the search comes late to none of its inner nodes. -/
theorem timely_of_isChain {inner : List ν} (hl : (u :: (inner ++ [z])).IsChain net.Leads)
    (hin : ∀ x ∈ inner, net.Inner x) (hz : net.Goal z ∧ z ≠ root)
    (htime : ∀ x l, x :: l <:+ inner → ∀ q, x :: q ∈ net.ways bound T root →
      ∀ n, bound = some n → q.length + l.length + 1 ≤ n) :
    net.Timely bound T root u (inner ++ [z]) := by
  induction inner generalizing u with
  | nil => exact .arrive (List.isChain_pair.mp hl) (Or.inl hz)
  | cons v inner ih =>
      rw [List.cons_append] at hl ⊢
      rw [List.isChain_cons_cons] at hl
      obtain ⟨hv, hinner⟩ := List.forall_mem_cons.mp hin
      refine .step hl.1 hv (fun q hq n hn => ?_) (ih hl.2 hinner fun x l hx => ?_)
      · have hle := htime v inner List.suffix_rfl q hq n hn
        rwa [List.length_append, List.length_singleton, ← Nat.add_assoc]
      · exact htime x l (hx.trans (List.suffix_cons v inner))

theorem Timely.finds {l : List ν} (h : net.Timely bound T root u l)
    (hq : u :: q ∈ net.ways bound T root) (hlen : ∀ n, bound = some n → q.length + l.length ≤ n) :
    ∃ p, net.Finds bound T root p := by
  induction h generalizing q with
  | arrive hl ha => exact ⟨_, _, _, q, rfl, hq, hl, ha⟩
  | @step u v l hl hin htime hrest ih =>
      have hroom : Room bound (u :: q).length := by
        intro n hn
        have hle := hlen n hn
        have hpos := hrest.length_pos
        simp only [List.length_cons] at hle ⊢
        omega
      -- The search may have come to `v` by another way; being timely, that one fits as well.
      rcases (settled_of_mem_ways hq hl).expands hin hroom with hT | ⟨r, hr⟩
      · exact ⟨_, v, u, q, rfl, hq, hl, Or.inr hT⟩
      · exact ih hr (htime r hr)

/-- Behind a way every way is timely. -/
theorem timely_of_mem_ways {p : List ν} (hp : u :: p ∈ net.ways bound T root) {l : List ν}
    (h : net.Timely bound T root u l)
    (hlen : ∀ n, bound = some n → p.length + l.length ≤ n) :
    ∃ l', net.Timely bound T root root l' ∧ l'.length = p.length + l.length := by
  have hW := ways_ways net bound T root
  induction p generalizing u l with
  | nil =>
      obtain rfl := List.mem_singleton.mp (hW.way _ hp).root_mem
      exact ⟨l, h, by simp⟩
  | cons y p ih =>
      have hway := hW.way _ hp
      have hy := hW.suffix _ hp y p (List.suffix_cons u _)
      have hstep : net.Timely bound T root y (u :: l) := by
        refine .step hway.leads hway.inner (fun q hq n hn => ?_) h
        rw [hW.unique u q (y :: p) hq hp]
        exact hlen n hn
      obtain ⟨l', hl', hlength⟩ := ih hy hstep fun n hn => by
        have hle := hlen n hn
        simp only [List.length_cons] at hle ⊢
        omega
      refine ⟨l', hl', ?_⟩
      simp only [List.length_cons] at hlength ⊢
      omega

/-- A search completes a path just when some timely path from its root fits the bound. -/
theorem exists_finds_iff : (∃ p, net.Finds bound T root p) ↔
    net.Passable root ∧ ∃ l, net.Timely bound T root root l ∧
      ∀ n, bound = some n → l.length ≤ n := by
  have hW := ways_ways net bound T root
  constructor
  · rintro ⟨p, v, u, q, -, hq, hl, ha⟩
    have hlen : ∀ n, bound = some n → q.length + 1 ≤ n := fun n hn => hW.length_le _ hq n hn
    obtain ⟨l, hlt, hlength⟩ := timely_of_mem_ways hq (.arrive hl ha) hlen
    refine ⟨(hW.way _ hq).passable_root, l, hlt, fun n hn => ?_⟩
    rw [hlength]
    exact hlen n hn
  · rintro ⟨hp, l, hl, hlen⟩
    have hb : bound ≠ some 0 := by
      intro h0
      have hle := hlen 0 h0
      have hpos := hl.length_pos
      omega
    exact hl.finds (root_mem_ways hp hb) (by simpa using hlen)

theorem Finds.root_mem_tail {p : List ν} (h : net.Finds bound T root p) : root ∈ p.tail := by
  obtain ⟨v, u, q, rfl, hq, -, -⟩ := h
  exact ((ways_ways net bound T root).way _ hq).root_mem

end Network

end Landscape
