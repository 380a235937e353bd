import Landscape.Proofs.Route.Found
import Landscape.Proofs.Route.Selection

namespace Landscape

/-!
# What the search for a route loses

A search expands a node once. A path is lost where it joins another behind an inner node that
was expanded by then, and a source is lost where the bound ends a search at a node that it has
come to late.
-/

namespace Route

variable {g : Graph} {t : RouteText} {r z : ProjectId} {inner : List ProjectId}

def recordedFrom (g : Graph) (t : RouteText) (roots : List ProjectId) :
    OrderedSet (Edge ProjectId) :=
  (g.network t.dest).searchAll t.bound roots

/-! ## Paths -/

/-- A path that a route asks for is recorded just when for some root each of its edges is
recorded before the search from that root or taken by it. -/
theorem isChain_search_iff (hg : g.FiledById) (h : g.Selects t r inner z) :
    (r :: (inner ++ [z])).IsChain (fun u v => (search g t).contains ⟨u, v⟩ = true) ↔
      ∃ before root after, roots g t = before ++ root :: after ∧
        (r :: (inner ++ [z])).IsChain fun u v =>
          (recordedFrom g t before).contains ⟨u, v⟩ = true ∨
            (g.network t.dest).Takes t.bound (recordedFrom g t before) root ⟨u, v⟩ := by
  have hleads : ((r :: inner) ++ [z]).IsChain (g.network t.dest).Leads :=
    h.chain.imp fun u v huv => (Graph.leads_iff hg).mpr huv
  have hone (before : List ProjectId) (root : ProjectId) :
      (r :: (inner ++ [z])).IsChain
          (fun u v => (recordedFrom g t (before ++ [root])).contains ⟨u, v⟩ = true) ↔
        (r :: (inner ++ [z])).IsChain fun u v =>
          (recordedFrom g t before).contains ⟨u, v⟩ = true ∨
            (g.network t.dest).Takes t.bound (recordedFrom g t before) root ⟨u, v⟩ := by
    rw [recordedFrom, Network.searchAll_concat]
    exact Network.isChain_contains_searchFrom_iff hleads (Graph.goal_iff.mpr h.goal)
  constructor
  · intro hrec
    have hr : r ∈ roots g t := by
      obtain ⟨p, hp, -, he, hs⟩ := h.source
      exact (mem_roots_iff hg).mpr ⟨p, hp, he, hs⟩
    -- recorded edges stay, so the last root will do, and there is one
    obtain ⟨before, root, hroots⟩ : ∃ before root, roots g t = before ++ [root] :=
      ⟨_, _, (List.dropLast_append_getLast (List.ne_nil_of_mem hr)).symm⟩
    refine ⟨before, root, [], hroots, (hone before root).mp ?_⟩
    rw [← hroots]
    exact hrec
  · rintro ⟨before, root, after, hroots, htaken⟩
    refine ((hone before root).mpr htaken).imp fun u v huv => ?_
    rw [search_eq, hroots, List.append_cons]
    exact Network.kept_of_searchAll after huv

/-- The path from `web` over `core` to `api` is recorded, for the search from `web` takes its
edges. -/
theorem isChain_search_iff_of_two_edges :
    let rs : List ProjectRecord := [.code "web" ["core"], .code "core" ["api"], .code "api" []]
    let t : RouteText := ⟨.id ⟨1⟩, none, false, .id ⟨3⟩⟩
    ∃ g, Graph.ofRecords rs = .ok g ∧ g.Selects t ⟨1⟩ [⟨2⟩] ⟨3⟩ ∧
      ∃ before root after, roots g t = before ++ root :: after ∧
        (⟨1⟩ :: ([⟨2⟩] ++ [⟨3⟩])).IsChain fun u v =>
          (recordedFrom g t before).contains ⟨u, v⟩ = true ∨
            (g.network t.dest).Takes t.bound (recordedFrom g t before) root ⟨u, v⟩ := by
  intro rs t
  have htaken {g : Graph} (hg : Graph.ofRecords rs = .ok g) (h : g.Selects t ⟨1⟩ [⟨2⟩] ⟨3⟩)
      (h₁ : (search g t).contains ⟨⟨1⟩, ⟨2⟩⟩ = true)
      (h₂ : (search g t).contains ⟨⟨2⟩, ⟨3⟩⟩ = true) :=
    (isChain_search_iff (Graph.filedById_of_ofRecords hg) h).mp
      (List.isChain_cons_cons.mpr ⟨h₁, List.isChain_pair.mpr h₂⟩)
  refine ⟨_, by cbv, by decide +kernel, htaken ?_ (by decide +kernel) ?_ ?_⟩
  · cbv
  · cbv
  · cbv

/-- Where `a` leads to `m` over `l` and over `r`, and `m` to `z`, the unbounded search from `a` to
`z` records the path over `l` only. -/
theorem exists_path_not_recorded :
    ∃ g t r inner z,
      Graph.ofRecords [.code "a" ["l", "r"], .code "l" ["m"], .code "r" ["m"], .code "m" ["z"],
        .code "z" []] = .ok g ∧
      t = (⟨.id ⟨1⟩, none, false, .id ⟨5⟩⟩ : RouteText) ∧
      g.Selects t r inner z ∧ (r :: (inner ++ [z])).Nodup ∧
      ¬ (r :: (inner ++ [z])).IsChain (fun u v => (search g t).contains ⟨u, v⟩ = true) ∧
      ∃ x ∈ inner, (resolve g .including "id:1 -> id:5" t).touched.contains x = false := by
  refine ⟨_, _, ⟨1⟩, [⟨3⟩, ⟨4⟩], ⟨5⟩, by cbv, rfl, ?_, ?_, ?_, ⟨3⟩, ?_, ?_⟩
  · decide +kernel
  · decide
  · refine fun h => Bool.false_ne_true (Eq.trans (Eq.symm ?_) (List.isChain_cons_cons.mp h).1)
    cbv
  · decide
  · cbv

/-! ## Sources -/

theorem exists_contains_search_iff : (∃ d, (search g t).contains ⟨r, d⟩ = true) ↔
    ∃ before root after, roots g t = before ++ root :: after ∧
      (root = r ∧ (g.network t.dest).Passable r ∧
          (∃ l, (g.network t.dest).Timely t.bound (recordedFrom g t before) r r l ∧
            ∀ n, t.bound = some n → l.length ≤ n) ∨
        root ≠ r ∧ ∃ p, (g.network t.dest).Finds t.bound (recordedFrom g t before) root p ∧
          r ∈ p.tail) := by
  simp only [search_eq, Network.contains_searchAll_iff]
  constructor
  · rintro ⟨d, before, root, after, hroots, p, hp, he⟩
    refine ⟨before, root, after, hroots, ?_⟩
    by_cases hr : root = r
    · obtain ⟨hpass, hl⟩ := Network.exists_finds_iff.mp ⟨p, hp⟩
      rw [hr] at hpass hl
      exact Or.inl ⟨hr, hpass, hl⟩
    · exact Or.inr ⟨hr, p, hp, Edge.exists_mem_ofPathBack_iff.mp ⟨d, he⟩⟩
  · rintro ⟨before, root, after, hroots, ⟨rfl, hpass, hl⟩ | ⟨-, p, hp, hr⟩⟩
    · obtain ⟨p, hp⟩ := Network.exists_finds_iff.mpr ⟨hpass, hl⟩
      obtain ⟨d, hd⟩ := Edge.exists_mem_ofPathBack_iff.mpr hp.root_mem_tail
      exact ⟨d, before, root, after, hroots, p, hp, hd⟩
    · obtain ⟨d, hd⟩ := Edge.exists_mem_ofPathBack_iff.mpr hr
      exact ⟨d, before, root, after, hroots, p, hp, hd⟩

/-- A path that the route asks for has its source recorded, if the search from there comes late
to none of the inner projects. -/
theorem source_of_selects (hg : g.FiledById) (h : g.Selects t r inner z) (hz : z ≠ r)
    (hlen : ∀ n, t.bound = some n → inner.length + 1 ≤ n)
    (htime : ∀ before after, roots g t = before ++ r :: after → ∀ x l, x :: l <:+ inner →
      ∀ q, x :: q ∈ (g.network t.dest).ways t.bound (recordedFrom g t before) r →
        ∀ n, t.bound = some n → q.length + l.length + 1 ≤ n) :
    ∃ d, (search g t).contains ⟨r, d⟩ = true := by
  obtain ⟨p, hp, hi, he, hs⟩ := h.source
  obtain ⟨before, after, hroots⟩ :=
    List.append_of_mem ((mem_roots_iff hg).mpr ⟨p, hp, he, hs⟩)
  have htimely := Network.timely_of_isChain (h.chain.imp fun u v => (Graph.leads_iff hg).mpr)
    (fun x hx => Graph.inner_iff.mpr (h.passed x hx)) ⟨Graph.goal_iff.mpr h.goal, hz⟩
    (htime before after hroots)
  refine exists_contains_search_iff.mpr ⟨before, r, after, hroots, Or.inl ⟨rfl, ?_, _, htimely, ?_⟩⟩
  · exact Graph.passable_iff.mpr ⟨p, hp, hi, he⟩
  · simpa using hlen

/-- An unbounded search loses paths, but no source. -/
theorem source_of_selects_of_unbounded (hg : g.FiledById) (h : g.Selects t r inner z)
    (hz : z ≠ r) (hbound : t.bound = none) : ∃ d, (search g t).contains ⟨r, d⟩ = true :=
  source_of_selects hg h hz (by simp [hbound]) (by simp [hbound])

/-- A project is a source of recorded edges just when its own search has a timely path that fits
the bound, or the search from another root completes a path through it. A path that the route
asks for within the bound is timely unless the search comes late to one of its inner projects. -/
theorem source_iff (hg : g.FiledById) (t : RouteText) (r : ProjectId) :
    ((∃ d, (search g t).contains ⟨r, d⟩ = true) ↔
      ∃ before root after, roots g t = before ++ root :: after ∧
        (root = r ∧ (g.network t.dest).Passable r ∧
            (∃ l, (g.network t.dest).Timely t.bound (recordedFrom g t before) r r l ∧
              ∀ n, t.bound = some n → l.length ≤ n) ∨
          root ≠ r ∧ ∃ p, (g.network t.dest).Finds t.bound (recordedFrom g t before) root p ∧
            r ∈ p.tail)) ∧
      ∀ inner z, g.Selects t r inner z → z ≠ r →
        (∀ n, t.bound = some n → inner.length + 1 ≤ n) →
        (∀ before after, roots g t = before ++ r :: after → ∀ x l, x :: l <:+ inner →
          ∀ q, x :: q ∈ (g.network t.dest).ways t.bound (recordedFrom g t before) r →
            ∀ n, t.bound = some n → q.length + l.length + 1 ≤ n) →
        ∃ d, (search g t).contains ⟨r, d⟩ = true :=
  ⟨exists_contains_search_iff, fun _ _ h hz hlen htime => source_of_selects hg h hz hlen htime⟩

/-- The search from `web` for paths of two edges to `api` has a timely path. -/
theorem source_iff_of_two_edges :
    let rs : List ProjectRecord := [.code "web" ["core"], .code "core" ["api"], .code "api" []]
    let t : RouteText := ⟨.id ⟨1⟩, some 2, false, .id ⟨3⟩⟩
    ∃ g, Graph.ofRecords rs = .ok g ∧ (search g t).contains ⟨⟨1⟩, ⟨2⟩⟩ = true ∧
      ∃ before root after, roots g t = before ++ root :: after ∧
        (root = ⟨1⟩ ∧ (g.network t.dest).Passable ⟨1⟩ ∧
            (∃ l, (g.network t.dest).Timely t.bound (recordedFrom g t before) ⟨1⟩ ⟨1⟩ l ∧
              ∀ n, t.bound = some n → l.length ≤ n) ∨
          root ≠ ⟨1⟩ ∧ ∃ p, (g.network t.dest).Finds t.bound (recordedFrom g t before) root p ∧
            ⟨1⟩ ∈ p.tail) := by
  intro rs t
  have htimely {g : Graph} (hg : Graph.ofRecords rs = .ok g)
      (h : (search g t).contains ⟨⟨1⟩, ⟨2⟩⟩ = true) :=
    (source_iff (Graph.filedById_of_ofRecords hg) t ⟨1⟩).1.mp ⟨⟨2⟩, h⟩
  refine ⟨_, by cbv, by cbv, htimely ?_ ?_⟩
  · cbv
  · cbv

/-- Where `r` leads to `b` over `a` and directly, and `b` over `c` to `z`, the search from `r` to
`z` for paths of three edges stands on `b` late and records nothing. -/
theorem exists_source_not_recorded :
    ∃ g t r inner z,
      Graph.ofRecords [.code "r" ["a", "b"], .code "a" ["b"], .code "b" ["c"], .code "c" ["z"],
        .code "z" []] = .ok g ∧
      t = (⟨.id ⟨1⟩, some 3, false, .id ⟨5⟩⟩ : RouteText) ∧
      g.Selects t r inner z ∧ z ≠ r ∧ inner.length + 1 ≤ 3 ∧
      ∀ d, (search g t).contains ⟨r, d⟩ = false := by
  have hnone {edges : OrderedSet (Edge ProjectId)} (h : edges = ∅) (e : Edge ProjectId) :
      edges.contains e = false := by
    rw [h]
    rfl
  refine ⟨_, _, ⟨1⟩, [⟨3⟩, ⟨4⟩], ⟨5⟩, by cbv, rfl, ?_, ?_, ?_, fun d => hnone ?_ _⟩
  · decide +kernel
  · decide
  · decide
  · cbv

end Route

end Landscape
