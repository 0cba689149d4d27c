import Mathlib.Combinatorics.SimpleGraph.Clique

/-!
# Searching for maximal cliques

The state of a search for the maximal cliques of a graph that contain a chosen clique, and
what becomes of it when a vertex is chosen or given up. A search is about a pool of
vertices that has both ends of every edge.
-/

namespace HermesCashew.CliqueSearch

set_option autoImplicit false

variable {Vertex : Type}

def Covers (graph : SimpleGraph Vertex) (pool : Finset Vertex) : Prop :=
  ∀ vertex other, graph.Adj vertex other → vertex ∈ pool

/-- The vertices that go with all of `chosen` are `candidates`, or they are `excluded`
because the cliques with them are listed elsewhere. -/
structure Search (graph : SimpleGraph Vertex) (pool chosen candidates excluded : Finset Vertex) :
    Prop where
  clique : graph.IsClique (chosen : Set Vertex)
  joining : ∀ vertex, vertex ∈ candidates ∨ vertex ∈ excluded ↔
    vertex ∈ pool ∧ ∀ member ∈ chosen, graph.Adj member vertex
  apart : Disjoint candidates excluded

structure Wanted (graph : SimpleGraph Vertex) (chosen excluded clique : Finset Vertex) : Prop where
  maximal : Maximal graph.IsClique (clique : Set Vertex)
  large : 2 ≤ clique.card
  contains : chosen ⊆ clique
  avoids : Disjoint clique excluded

variable {graph : SimpleGraph Vertex} {pool chosen candidates excluded clique : Finset Vertex}

theorem Search.start (pool : Finset Vertex) : Search graph pool ∅ pool ∅ where
  clique := by
    rw [Finset.coe_empty]
    exact SimpleGraph.isClique_empty
  joining := by
    intro vertex
    simp
  apart := Finset.disjoint_empty_right pool

theorem wanted_start : Wanted graph ∅ ∅ clique ↔
    Maximal graph.IsClique (clique : Set Vertex) ∧ 2 ≤ clique.card :=
  ⟨fun wanted => ⟨wanted.maximal, wanted.large⟩,
    fun given => ⟨given.1, given.2, Finset.empty_subset _, Finset.disjoint_empty_right _⟩⟩

theorem Search.joins (search : Search graph pool chosen candidates excluded) {vertex : Vertex}
    (candidate : vertex ∈ candidates) {member : Vertex} (picked : member ∈ chosen) :
    graph.Adj member vertex :=
  ((search.joining vertex).mp (.inl candidate)).2 member picked

theorem Search.not_chosen (search : Search graph pool chosen candidates excluded) {vertex : Vertex}
    (joining : vertex ∈ candidates ∨ vertex ∈ excluded) : vertex ∉ chosen := by
  intro picked
  have looped := ((search.joining vertex).mp joining).2 vertex picked
  exact graph.loopless.irrefl vertex looped

/-- A vertex of a large clique has an edge. -/
theorem in_pool (covers : Covers graph pool) (complete : graph.IsClique (clique : Set Vertex))
    (large : 2 ≤ clique.card) {vertex : Vertex} (member : vertex ∈ clique) : vertex ∈ pool := by
  obtain ⟨other, elsewhere, apart⟩ := Finset.exists_mem_ne large vertex
  exact covers vertex other (complete member elsewhere apart.symm)

/-- What a clique has beyond the chosen vertices is a candidate or excluded. -/
theorem Search.rest_joins (search : Search graph pool chosen candidates excluded)
    (covers : Covers graph pool) (complete : graph.IsClique (clique : Set Vertex))
    (large : 2 ≤ clique.card) (contains : chosen ⊆ clique) {vertex : Vertex}
    (member : vertex ∈ clique) (new : vertex ∉ chosen) :
    vertex ∈ candidates ∨ vertex ∈ excluded := by
  apply (search.joining vertex).mpr
  refine ⟨in_pool covers complete large member, ?_⟩
  intro picked in_chosen
  apply complete (contains in_chosen) member
  intro same
  exact new (same ▸ in_chosen)

variable [DecidableEq Vertex]

/-- A clique that no vertex can join is maximal. -/
theorem Search.maximal (search : Search graph pool chosen ∅ ∅) (covers : Covers graph pool)
    (large : 2 ≤ chosen.card) : Maximal graph.IsClique (chosen : Set Vertex) := by
  refine ⟨search.clique, ?_⟩
  intro wider complete within vertex member
  by_contra new
  obtain ⟨first, picked⟩ := Finset.card_pos.mp (Nat.lt_of_lt_of_le Nat.zero_lt_two large)
  have adjacent : ∀ other ∈ chosen, graph.Adj other vertex := by
    intro other in_chosen
    apply complete (within in_chosen) member
    intro same
    exact new (same ▸ in_chosen)
  have joining := (search.joining vertex).mpr
    ⟨covers vertex first (adjacent first picked).symm, adjacent⟩
  simp at joining

/-- With nobody to join it, the chosen clique is the only one wanted. -/
theorem Search.only (search : Search graph pool chosen ∅ ∅) (covers : Covers graph pool) :
    Wanted graph chosen ∅ clique ↔ clique = chosen ∧ 2 ≤ chosen.card := by
  constructor
  · intro wanted
    have within : clique ⊆ chosen := by
      intro vertex member
      by_contra new
      have joining := search.rest_joins covers wanted.maximal.prop wanted.large wanted.contains
        member new
      simp at joining
    have same := within.antisymm wanted.contains
    exact ⟨same, same ▸ wanted.large⟩
  · rintro ⟨rfl, large⟩
    exact ⟨search.maximal covers large, large, Finset.Subset.refl _,
      Finset.disjoint_empty_right _⟩

/-- As long as some vertex can join, a wanted clique has one of the candidates. -/
theorem Search.meets (search : Search graph pool chosen candidates excluded)
    (covers : Covers graph pool) (wanted : Wanted graph chosen excluded clique)
    (more : ∃ vertex, vertex ∈ candidates ∨ vertex ∈ excluded) :
    ∃ vertex ∈ clique, vertex ∈ candidates := by
  obtain ⟨extra, joining⟩ := more
  have adjacent := ((search.joining extra).mp joining).2
  have beyond : ∃ vertex ∈ clique, vertex ∉ chosen := by
    by_contra none_
    push Not at none_
    have same := Finset.Subset.antisymm none_ wanted.contains
    have complete : graph.IsClique (insert extra (clique : Set Vertex)) := by
      apply wanted.maximal.prop.insert
      intro member in_clique _
      exact (adjacent member (none_ member in_clique)).symm
    have included := wanted.maximal.le_of_ge complete (Set.subset_insert _ _)
    have inside : extra ∈ clique := included (Set.mem_insert _ _)
    exact search.not_chosen joining (none_ extra inside)
  obtain ⟨vertex, member, new⟩ := beyond
  refine ⟨vertex, member, ?_⟩
  rcases search.rest_joins covers wanted.maximal.prop wanted.large wanted.contains member new
    with candidate | dropped
  · exact candidate
  · exact absurd dropped (Finset.disjoint_left.mp wanted.avoids member)

/-- Choosing a candidate narrows the search to its neighbors. -/
theorem Search.choose (search : Search graph pool chosen candidates excluded)
    {neighbors : Finset Vertex} {vertex : Vertex} (candidate : vertex ∈ candidates)
    (adjacent : ∀ other, other ∈ neighbors ↔ graph.Adj vertex other) :
    Search graph pool (insert vertex chosen) (candidates ∩ neighbors) (excluded ∩ neighbors) where
  clique := by
    rw [Finset.coe_insert]
    apply search.clique.insert
    intro member picked _
    exact (search.joins candidate picked).symm
  joining := by
    intro other
    have joining := search.joining other
    simp only [Finset.mem_inter, adjacent, Finset.forall_mem_insert]
    constructor
    · rintro (⟨listed, edge⟩ | ⟨listed, edge⟩)
      · have known := joining.mp (.inl listed)
        exact ⟨known.1, edge, known.2⟩
      · have known := joining.mp (.inr listed)
        exact ⟨known.1, edge, known.2⟩
    · rintro ⟨pooled, edge, all⟩
      rcases joining.mpr ⟨pooled, all⟩ with listed | listed
      · exact .inl ⟨listed, edge⟩
      · exact .inr ⟨listed, edge⟩
  apart := search.apart.mono Finset.inter_subset_left Finset.inter_subset_left

/-- The cliques wanted after a choice are those with the chosen vertex. -/
theorem Search.wanted_choose (search : Search graph pool chosen candidates excluded)
    {neighbors : Finset Vertex} {vertex : Vertex} (candidate : vertex ∈ candidates)
    (adjacent : ∀ other, other ∈ neighbors ↔ graph.Adj vertex other) :
    Wanted graph (insert vertex chosen) (excluded ∩ neighbors) clique ↔
      Wanted graph chosen excluded clique ∧ vertex ∈ clique := by
  constructor
  · intro wanted
    have inside := wanted.contains (Finset.mem_insert_self vertex chosen)
    refine ⟨⟨wanted.maximal, wanted.large,
      (Finset.subset_insert vertex chosen).trans wanted.contains, ?_⟩, inside⟩
    rw [Finset.disjoint_left]
    intro other member dropped
    by_cases same : other = vertex
    · subst same
      exact Finset.disjoint_left.mp search.apart candidate dropped
    · have edge := wanted.maximal.prop inside member (Ne.symm same)
      have both := Finset.mem_inter.mpr ⟨dropped, (adjacent other).mpr edge⟩
      exact Finset.disjoint_left.mp wanted.avoids member both
  · rintro ⟨wanted, inside⟩
    exact ⟨wanted.maximal, wanted.large, Finset.insert_subset inside wanted.contains,
      wanted.avoids.mono_right Finset.inter_subset_left⟩

/-- Giving a candidate up excludes it. -/
theorem Search.give_up (search : Search graph pool chosen candidates excluded) {vertex : Vertex}
    (candidate : vertex ∈ candidates) :
    Search graph pool chosen (candidates.erase vertex) (insert vertex excluded) where
  clique := search.clique
  joining := by
    intro other
    rw [← search.joining other, Finset.mem_erase, Finset.mem_insert]
    by_cases same : other = vertex
    · subst same
      simp [candidate]
    · simp [same]
  apart := by
    rw [Finset.disjoint_insert_right]
    exact ⟨Finset.notMem_erase vertex candidates,
      search.apart.mono_left (Finset.erase_subset vertex candidates)⟩

/-- The cliques wanted after giving a vertex up are those without it. -/
theorem wanted_give_up {vertex : Vertex} :
    Wanted graph chosen (insert vertex excluded) clique ↔
      Wanted graph chosen excluded clique ∧ vertex ∉ clique := by
  constructor
  · intro wanted
    have avoids := Finset.disjoint_insert_right.mp wanted.avoids
    exact ⟨⟨wanted.maximal, wanted.large, wanted.contains, avoids.2⟩, avoids.1⟩
  · rintro ⟨wanted, outside⟩
    exact ⟨wanted.maximal, wanted.large, wanted.contains,
      Finset.disjoint_insert_right.mpr ⟨outside, wanted.avoids⟩⟩

theorem fewer_candidates
    {neighbors : Finset Vertex} {vertex : Vertex} (candidate : vertex ∈ candidates)
    (adjacent : ∀ other, other ∈ neighbors ↔ graph.Adj vertex other) :
    (candidates ∩ neighbors).card < candidates.card := by
  apply Finset.card_lt_card
  rw [Finset.ssubset_iff_of_subset Finset.inter_subset_left]
  refine ⟨vertex, candidate, ?_⟩
  intro both
  have looped := (adjacent vertex).mp (Finset.mem_inter.mp both).2
  exact graph.loopless.irrefl vertex looped

/-- Every clique of at least two vertices is part of a maximal one. -/
theorem extends_to_wanted (covers : Covers graph pool)
    (complete : graph.IsClique (clique : Set Vertex)) (large : 2 ≤ clique.card) :
    ∃ wider : Finset Vertex, Wanted graph ∅ ∅ wider ∧ clique ⊆ wider := by
  classical
  let cliques := pool.powerset.filter fun found : Finset Vertex =>
    graph.IsClique (found : Set Vertex) ∧ clique ⊆ found
  have start : clique ∈ cliques := by
    simp only [cliques, Finset.mem_filter, Finset.mem_powerset]
    exact ⟨fun _ member => in_pool covers complete large member, complete, Finset.Subset.refl _⟩
  obtain ⟨wider, listed, largest⟩ := Finset.exists_max_image cliques Finset.card ⟨_, start⟩
  simp only [cliques, Finset.mem_filter, Finset.mem_powerset] at listed largest
  obtain ⟨-, wider_complete, contains⟩ := listed
  have wider_large := large.trans (Finset.card_le_card contains)
  refine ⟨wider, wanted_start.mpr ⟨⟨wider_complete, ?_⟩, wider_large⟩, contains⟩
  intro widest widest_complete within extra member
  by_contra outside
  have whole : graph.IsClique ((insert extra wider : Finset Vertex) : Set Vertex) := by
    apply widest_complete.subset
    rw [Finset.coe_insert]
    exact Set.insert_subset member within
  have grown := Finset.subset_insert extra wider
  have pooled : insert extra wider ⊆ pool := by
    intro inside chosen_
    exact in_pool covers whole (wider_large.trans (Finset.card_le_card grown)) chosen_
  have bound := largest (insert extra wider) ⟨pooled, whole, contains.trans grown⟩
  rw [Finset.card_insert_of_notMem outside] at bound
  omega

/-- Every edge is in a maximal clique. -/
theorem exists_wanted (covers : Covers graph pool) {vertex other : Vertex}
    (edge : graph.Adj vertex other) :
    ∃ clique : Finset Vertex, Wanted graph ∅ ∅ clique ∧ vertex ∈ clique ∧ other ∈ clique := by
  have complete : graph.IsClique (({vertex, other} : Finset Vertex) : Set Vertex) := by
    rw [Finset.coe_insert, Finset.coe_singleton]
    exact SimpleGraph.isClique_pair.mpr fun _ => edge
  obtain ⟨clique, wanted, contains⟩ :=
    extends_to_wanted covers complete (Finset.card_pair edge.ne).ge
  exact ⟨clique, wanted, contains (Finset.mem_insert_self _ _),
    contains (Finset.mem_insert_of_mem (Finset.mem_singleton_self _))⟩

theorem clique_of_pairwise {members : List Vertex} (pairwise : members.Pairwise graph.Adj) :
    graph.IsClique (members.toFinset : Set Vertex) := by
  intro first one second other apart
  rw [List.coe_toFinset] at one other
  have symmetric : Std.Symm graph.Adj := ⟨fun _ _ edge => edge.symm⟩
  exact pairwise.forall one other apart

end HermesCashew.CliqueSearch
