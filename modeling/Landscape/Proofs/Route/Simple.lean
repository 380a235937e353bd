import Landscape.Proofs.Route.Selection

namespace Landscape

/-!
# What one search records by itself

A search that begins with an empty table records whole paths from its root to goals. Each of
them repeats no node and fits the bound: within one search a recorded edge never stands for a
path that goes on behind it.
-/

variable {ν : Type} [DecidableEq ν] [Key ν]

namespace Network

variable {net : Network ν} {bound : Option Nat} {root : ν}

/-- A path without a repeated node that fits the bound and leads over inner nodes to a goal. -/
structure Simple (net : Network ν) (bound : Option Nat) (root : ν) (inner : List ν) (z : ν) :
    Prop where
  passable : net.Passable root
  passed : ∀ x ∈ inner, net.Inner x
  goal : net.Goal z
  nodup : (root :: (inner ++ [z])).Nodup
  leads : (root :: (inner ++ [z])).IsChain net.Leads
  length_le : ∀ n, bound = some n → inner.length + 1 ≤ n

/-- A goal to which a way leads makes a simple path. -/
theorem Way.exists_simple {u z : ν} {q : List ν} (h : net.Way root (u :: q))
    (hlen : ∀ n, bound = some n → (u :: q).length ≤ n) (hl : net.Leads u z) (hz : net.Goal z)
    (hne : z ≠ root) :
    ∃ inner, (z :: u :: q).reverse = root :: (inner ++ [z]) ∧ net.Simple bound root inner z := by
  obtain ⟨back, hback, hpass, hinner⟩ := h.exists_eq_append
  have hpath : (z :: u :: q).reverse = root :: (back.reverse ++ [z]) := by
    rw [hback]
    simp
  refine ⟨back.reverse, hpath, hpass, fun x hx => hinner x (List.mem_reverse.mp hx), hz, ?_, ?_, ?_⟩
  · rw [← hpath, List.nodup_reverse]
    refine List.nodup_cons.mpr ⟨fun hmem => ?_, h.nodup⟩
    rw [hback] at hmem
    rcases List.mem_append.mp hmem with hmem | hmem
    · exact (hinner z hmem).2 hz
    · exact hne (List.mem_singleton.mp hmem)
  · rw [← hpath, List.isChain_reverse]
    exact List.isChain_cons_cons.mpr ⟨hl, h.isChain⟩
  · intro n hn
    have hle := hlen n hn
    rwa [hback, List.length_append, List.length_singleton, ← List.length_reverse] at hle

/-- What is recorded lies on a simple path all of which is recorded. -/
theorem exists_simple_of_contains {e : Edge ν}
    (he : (net.searchFrom bound ∅ root).contains e = true) :
    ∃ inner z, net.Simple bound root inner z ∧
      (root :: (inner ++ [z])).IsChain
        (fun u v => (net.searchFrom bound ∅ root).contains ⟨u, v⟩ = true) ∧
      [e.source, e.target] <:+: root :: (inner ++ [z]) := by
  have hW := ways_ways net bound ∅ root
  rcases contains_searchFrom_iff.mp he with hempty | ⟨p, hp, hep⟩
  · cases hempty
  · have hall : ∀ d ∈ Edge.ofPathBack p, (net.searchFrom bound ∅ root).contains d = true :=
      fun d hd => contains_searchFrom_iff.mpr (Or.inr ⟨p, hp, hd⟩)
    obtain ⟨z, u, q, rfl, hq, hl, ⟨hz, hne⟩ | hempty⟩ := hp
    · obtain ⟨inner, hpath, hsimple⟩ :=
        (hW.way _ hq).exists_simple (hW.length_le _ hq) hl hz hne
      refine ⟨inner, z, hsimple, ?_, ?_⟩
      · rw [← hpath]
        exact isChain_reverse_of_edges hall
      · obtain ⟨l, hsuf⟩ := Edge.mem_ofPathBack_iff.mp hep
        have hpre : [e.target, e.source] <:+: e.target :: e.source :: l :=
          (List.prefix_append [e.target, e.source] l).isInfix
        rw [← hpath]
        exact List.reverse_infix.mpr (hpre.trans hsuf.isInfix)
    · cases hempty

end Network

namespace Route

variable {g : Graph}

/-- In a graph whose projects are filed under their own ids, whatever the search from `r` records by
itself lies on a path from `r` to another project that passes the test of the destination. The path
repeats no project, fits the bound, may be passed all along, and is recorded as a whole. -/
theorem exists_path_of_searchFrom (hg : g.FiledById) (dest : ProjectTest) (bound : Option Nat)
    (r : ProjectId) {s d : ProjectId}
    (he : ((g.network dest).searchFrom bound ∅ r).contains ⟨s, d⟩ = true) :
    ∃ inner z, g.Selects ⟨.any, bound, false, dest⟩ r inner z ∧ z ≠ r ∧
      (r :: (inner ++ [z])).Nodup ∧ (∀ n, bound = some n → inner.length + 1 ≤ n) ∧
      (r :: (inner ++ [z])).IsChain
        (fun u v => ((g.network dest).searchFrom bound ∅ r).contains ⟨u, v⟩ = true) ∧
      [s, d] <:+: r :: (inner ++ [z]) := by
  obtain ⟨inner, z, hsimple, hrecorded, hon⟩ := Network.exists_simple_of_contains he
  refine ⟨inner, z, ⟨?_, ?_, ?_, ?_⟩, ?_, hsimple.nodup, hsimple.length_le, hrecorded, hon⟩
  · obtain ⟨p, hp, hi, hexternal⟩ := Graph.passable_iff.mp hsimple.passable
    exact ⟨p, hp, hi, hexternal, rfl⟩
  · exact fun x hx => Graph.inner_iff.mp (hsimple.passed x hx)
  · exact Graph.goal_iff.mp hsimple.goal
  · exact hsimple.leads.imp fun u v huv => (Graph.leads_iff hg).mp huv
  · rintro rfl
    exact (List.nodup_cons.mp hsimple.nodup).1 (by simp)

/-- Where `web` leads to `api` directly and over `core` and `util`, the search from `web` with the
bound two records the edge from `core` to `api` on the path over `core` only. -/
theorem exists_path_of_searchFrom_of_detour :
    let rs : List ProjectRecord := [.code "web" ["core", "api"], .code "core" ["util", "api"],
      .code "api" [], .code "util" ["api"]]
    ∃ g, Graph.ofRecords rs = .ok g ∧
      ((g.network (.id ⟨3⟩)).searchFrom (some 2) ∅ ⟨1⟩).contains ⟨⟨2⟩, ⟨3⟩⟩ = true ∧
      ((g.network (.id ⟨3⟩)).searchFrom (some 2) ∅ ⟨1⟩).contains ⟨⟨4⟩, ⟨3⟩⟩ = false ∧
      ∃ inner z, g.Selects ⟨.any, some 2, false, .id ⟨3⟩⟩ ⟨1⟩ inner z ∧ z ≠ ⟨1⟩ ∧
        (⟨1⟩ :: (inner ++ [z])).Nodup ∧ inner.length + 1 ≤ 2 ∧
        [⟨2⟩, ⟨3⟩] <:+: ⟨1⟩ :: (inner ++ [z]) := by
  intro rs
  have hpath {g : Graph} (hg : Graph.ofRecords rs = .ok g)
      (he : ((g.network (.id ⟨3⟩)).searchFrom (some 2) ∅ ⟨1⟩).contains ⟨⟨2⟩, ⟨3⟩⟩ = true) :
      ∃ inner z, g.Selects ⟨.any, some 2, false, .id ⟨3⟩⟩ ⟨1⟩ inner z ∧ z ≠ ⟨1⟩ ∧
        (⟨1⟩ :: (inner ++ [z])).Nodup ∧ inner.length + 1 ≤ 2 ∧
        [⟨2⟩, ⟨3⟩] <:+: ⟨1⟩ :: (inner ++ [z]) := by
    obtain ⟨inner, z, hselects, hne, hnodup, hlen, -, hon⟩ :=
      exists_path_of_searchFrom (Graph.filedById_of_ofRecords hg) (.id ⟨3⟩) (some 2) ⟨1⟩ he
    exact ⟨inner, z, hselects, hne, hnodup, hlen 2 rfl, hon⟩
  refine ⟨_, by cbv, by cbv, by cbv, hpath ?_ ?_⟩
  · cbv
  · cbv

end Route

end Landscape
