import HermesCashew.CliqueSearch
import HermesCashew.Contraction
import HermesCashew.ThoughtGraph
import Mathlib.Data.Finset.Sort
import Mathlib.Data.List.Sort
import Mathlib.Data.Prod.Lex
import Mathlib.Data.String.Basic

/-!
# Deduplication in a sleep cycle

Near duplicates are the pairs over a threshold; likeness is not transitive, so only cliques
of them are merged. The maximal cliques are enumerated, taken largest first without using
a node twice, and every cluster is merged into its keeper. The order in which a set is
gone through and that of rows a statement does not order are parameters.
-/

namespace HermesCashew.SleepDedup

open HermesCashew.CliqueSearch HermesCashew.Contraction HermesCashew.KeyedTable
open HermesCashew.ThoughtGraph

set_option autoImplicit false

/-- The order in which a set of ids is gone through. It depends on what is in the set only, where
Python's may also depend on how the set came about. -/
structure Listing (Id : Type) where
  list : Finset Id → List Id
  nodup : ∀ ids, (list ids).Nodup
  mem : ∀ ids id, id ∈ list ids ↔ id ∈ ids

def Listing.ascending : Listing Nat where
  list := fun ids => ids.sort
  nodup := fun ids => ids.sort_nodup _
  mem := fun _ _ => Finset.mem_sort _

variable {Id Weight Blob : Type}

/-! ## Candidates -/

section

variable [LinearOrder Weight] [Zero Weight]

/-- `np.triu(sim, k=1)`. -/
def upper (sim : Nat → Nat → Weight) (row column : Nat) : Weight :=
  if row < column then sim row column else 0

/-- `np.argwhere(mask)`. -/
def argwhere (size : Nat) (mask : Nat → Nat → Bool) : List (Nat × Nat) :=
  (List.range size).flatMap fun row =>
    ((List.range size).filter fun column => mask row column).map fun column => (row, column)

structure Pairs where
  cross : List (Nat × Nat)
  dedup : List (Nat × Nat)

/-- `_find_pairs`. -/
def findPairs (size : Nat) (sim : Nat → Nat → Weight) (crossThreshold dedupThreshold : Weight) :
    Pairs where
  cross := argwhere size fun row column =>
    decide (crossThreshold ≤ upper sim row column ∧ upper sim row column < dedupThreshold)
  dedup := argwhere size fun row column => decide (dedupThreshold ≤ upper sim row column)

end

/-- `ids[int(i)], ids[int(j)]`. -/
def named (ids : List Id) (pairs : List (Nat × Nat)) : List (Id × Id) :=
  pairs.filterMap fun pair => do pure (← ids[pair.1]?, ← ids[pair.2]?)

/-! ## Cliques -/

section

variable [DecidableEq Id]

/-- `adj[one].add(other)`. -/
def addNeighbor (adj : Id → Finset Id) (one other : Id) : Id → Finset Id :=
  Function.update adj one (insert other (adj one))

def adjacency (pairs : List (Id × Id)) : Id → Finset Id :=
  pairs.foldl (fun adj pair => addNeighbor (addNeighbor adj pair.1 pair.2) pair.2 pair.1)
    fun _ => ∅

/-- `adj.keys()`. -/
def keys (pairs : List (Id × Id)) : Finset Id :=
  (pairs.flatMap fun pair => [pair.1, pair.2]).toFinset

/-- The loop over `list(P)`; `recurse` is `bron_kerbosch`. -/
def branches (recurse : Finset Id → Finset Id → Finset Id → List (Finset Id))
    (adj : Id → Finset Id) (chosen : Finset Id) :
    Finset Id → Finset Id → List Id → List (Finset Id)
  | _, _, [] => []
  | candidates, excluded, vertex :: rest =>
      recurse (insert vertex chosen) (candidates ∩ adj vertex) (excluded ∩ adj vertex) ++
        branches recurse adj chosen (candidates.erase vertex) (insert vertex excluded) rest

/-- `bron_kerbosch(R, P, X)`, not more than `depth` calls deep. -/
def bronKerbosch (listing : Listing Id) (adj : Id → Finset Id) :
    Nat → Finset Id → Finset Id → Finset Id → List (Finset Id)
  | 0, _, _, _ => []
  | depth + 1, chosen, candidates, excluded =>
      if candidates = ∅ ∧ excluded = ∅ then
        if 2 ≤ chosen.card then [chosen] else []
      else
        branches (bronKerbosch listing adj depth) adj chosen candidates excluded
          (listing.list candidates)

def maximalCliques (listing : Listing Id) (pairs : List (Id × Id)) : List (Finset Id) :=
  bronKerbosch listing (adjacency pairs) ((keys pairs).card + 1) ∅ (keys pairs) ∅

def assign (listing : Listing Id) : Finset Id → List (Finset Id) → List (List Id)
  | _, [] => []
  | used, clique :: rest =>
      let remaining := (listing.list clique).filter fun id => decide (id ∉ used)
      if remaining.length < 2 then assign listing used rest
      else remaining :: assign listing (used ∪ remaining.toFinset) rest

def larger (first second : Finset Id) : Bool :=
  decide (second.card ≤ first.card)

def clusters (listing : Listing Id) (pairs : List (Id × Id)) : List (List Id) :=
  assign listing ∅ ((maximalCliques listing pairs).mergeSort larger)

end

/-! ## Merging -/

section

variable [DecidableEq Id]

/-- `ORDER BY COALESCE(permanent, 0) DESC, COALESCE(access_count, 0) DESC,
COALESCE(timestamp, '9999') ASC`. -/
def rank (node : Node Id) : Intᵒᵈ ×ₗ Intᵒᵈ ×ₗ String :=
  toLex (OrderDual.toDual (node.permanent.getD 0),
    toLex (OrderDual.toDual (node.accessCount.getD 0), node.timestamp.getD "9999"))

def ahead (first second : Node Id) : Bool :=
  decide (rank first ≤ rank second)

def keeperOf (scan : Scan) (graph : Graph Id Weight Blob) (cluster : List Id) :
    Option (Node Id) :=
  ((scan.order (graph.nodes.rows.filter fun node => decide (node.id ∈ cluster))).mergeSort
    ahead).head?

def moved (keeper : Id) (losers : List Id) (id : Id) : Id :=
  if id ∈ losers then keeper else id

def touches (losers : List Id) (edge : Edge Id Weight) : Bool :=
  decide (edge.parentId ∈ losers ∨ edge.childId ∈ losers)

/-- `INSERT OR IGNORE` of an edge with its ends moved, unless it has become a loop. -/
def reinsert (keeper : Id) (losers : List Id)
    (edges : Table (Id × Id) (Edge Id Weight) Edge.ends) (edge : Edge Id Weight) :
    Table (Id × Id) (Edge Id Weight) Edge.ends :=
  let newParent := moved keeper losers edge.parentId
  let newChild := moved keeper losers edge.childId
  if newParent = newChild then edges
  else edges.insertOrIgnore
    { parentId := newParent, childId := newChild, weight := edge.weight,
      reasoning := edge.reasoning }

def rewire (scan : Scan) (keeper : Id) (losers : List Id)
    (edges : Table (Id × Id) (Edge Id Weight) Edge.ends) :
    Table (Id × Id) (Edge Id Weight) Edge.ends :=
  (scan.order (edges.rows.filter (touches losers))).foldl (reinsert keeper losers)
    (edges.delete (touches losers))

/-- The ids of a cluster that are `permanent >= 1`. -/
def permanentOf (graph : Graph Id Weight Blob) (cluster : List Id) : List Id :=
  (graph.nodes.rows.filter fun node => decide (node.id ∈ cluster) && node.pinned).map Node.id

def auditLoser (now : String) (keeper : Id) (perm : List Id) (graph : Graph Id Weight Blob)
    (loser : Id) : Graph Id Weight Blob :=
  logDecayEvent now graph loser .dedupLoser (some (.keeper keeper))
    (if loser ∈ perm then some .absorbedPermanent else none)

def absorb (scan : Scan) (now : String) (graph : Graph Id Weight Blob) (keeper : Id)
    (losers perm : List Id) : Graph Id Weight Blob :=
  let rewired := { graph with edges := rewire scan keeper losers graph.edges }
  let released := { rewired with
    nodes := rewired.nodes.update (fun node => decide (node.id ∈ losers ∧ node.id ∈ perm))
      Node.release Node.release_id }
  let audited := losers.foldl (auditLoser now keeper perm) released
  { audited with
    nodes := audited.nodes.update (fun node => decide (node.id ∈ losers)) Node.decay
      Node.decay_id }

/-- `_merge_cluster`. -/
def mergeCluster (scan : Scan) (now : String) (graph : Graph Id Weight Blob)
    (cluster : List Id) : Option Id × Graph Id Weight Blob :=
  if cluster.length < 2 then (none, graph)
  else
    match keeperOf scan graph cluster with
    | none => (none, graph)
    | some keeper =>
        let losers := cluster.filter fun id => decide (id ≠ keeper.id)
        if losers = [] then (none, graph)
        else (some keeper.id,
          absorb scan now graph keeper.id losers (permanentOf graph cluster))

structure DedupStats where
  components : Nat := 0
  nodesMerged : Nat := 0

def mergeNext (scan : Scan) (now : String) (done : DedupStats × Graph Id Weight Blob)
    (cluster : List Id) : DedupStats × Graph Id Weight Blob :=
  match mergeCluster scan now done.2 cluster with
  | (none, graph) => (done.1, graph)
  | (some _, graph) =>
      ({ components := done.1.components + 1
         nodesMerged := done.1.nodesMerged + (cluster.length - 1) }, graph)

/-- `_run_dedup`. -/
def runDedup (listing : Listing Id) (scan : Scan) (now : String) (graph : Graph Id Weight Blob)
    (ids : List Id) (dedupPairs : List (Nat × Nat)) : DedupStats × Graph Id Weight Blob :=
  if dedupPairs = [] then ({}, graph)
  else (clusters listing (named ids dedupPairs)).foldl (mergeNext scan now) ({}, graph)

end

/-! ## The cliques that are enumerated -/

theorem two_members {first second : Id} {ids : List Id} (one : first ∈ ids)
    (other : second ∈ ids) (apart : first ≠ second) : 2 ≤ ids.length := by
  match ids with
  | [] => cases one
  | [only] =>
      rw [List.mem_singleton] at one other
      exact absurd (one.trans other.symm) apart
  | _ :: _ :: rest => exact Nat.le_add_left 2 rest.length

section

variable [DecidableEq Id] {pairs : List (Id × Id)}

/-- The graph of the pairs. -/
def duplicates (pairs : List (Id × Id)) : SimpleGraph Id :=
  SimpleGraph.fromRel fun first second => (first, second) ∈ pairs

theorem mem_add_neighbor {adj : Id → Finset Id} {one other vertex id : Id} :
    id ∈ addNeighbor adj one other vertex ↔
      id ∈ adj vertex ∨ vertex = one ∧ id = other := by
  by_cases same : vertex = one
  · subst same
    rw [addNeighbor, Function.update_self, Finset.mem_insert]
    tauto
  · rw [addNeighbor, Function.update_of_ne same]
    tauto

theorem mem_adjacency {vertex id : Id} :
    id ∈ adjacency pairs vertex ↔ (vertex, id) ∈ pairs ∨ (id, vertex) ∈ pairs := by
  have folded : ∀ adj : Id → Finset Id,
      id ∈ pairs.foldl (fun adj pair =>
        addNeighbor (addNeighbor adj pair.1 pair.2) pair.2 pair.1) adj vertex ↔
        id ∈ adj vertex ∨ (vertex, id) ∈ pairs ∨ (id, vertex) ∈ pairs := by
    induction pairs with
    | nil => simp
    | cons pair rest induction =>
        intro adj
        rw [List.foldl_cons, induction, mem_add_neighbor, mem_add_neighbor]
        obtain ⟨first, second⟩ := pair
        simp only [List.mem_cons, Prod.mk.injEq]
        tauto
  rw [adjacency, folded]
  simp

theorem mem_keys {id : Id} :
    id ∈ keys pairs ↔ ∃ pair ∈ pairs, id = pair.1 ∨ id = pair.2 := by
  rw [keys, List.mem_toFinset, List.mem_flatMap]
  simp

/-- No pair is of an id with itself. -/
def Apart (pairs : List (Id × Id)) : Prop :=
  ∀ pair ∈ pairs, pair.1 ≠ pair.2

theorem adj_duplicates (apart : Apart pairs) {vertex other : Id} :
    other ∈ adjacency pairs vertex ↔ (duplicates pairs).Adj vertex other := by
  rw [mem_adjacency, duplicates, SimpleGraph.fromRel_adj]
  constructor
  · rintro (forward | backward)
    · exact ⟨apart _ forward, .inl forward⟩
    · exact ⟨(apart _ backward).symm, .inr backward⟩
  · exact And.right

theorem duplicates_covered : Covers (duplicates pairs) (keys pairs) := by
  intro vertex other edge
  rw [duplicates, SimpleGraph.fromRel_adj] at edge
  rw [mem_keys]
  rcases edge.2 with forward | backward
  · exact ⟨_, forward, .inl rfl⟩
  · exact ⟨_, backward, .inr rfl⟩

variable {listing : Listing Id} {pool chosen candidates excluded clique : Finset Id}

theorem card_of_listed {rest : List Id} (distinct : rest.Nodup)
    (whole : ∀ id, id ∈ rest ↔ id ∈ candidates) : candidates.card = rest.length := by
  have same : candidates = rest.toFinset := by
    ext id
    rw [List.mem_toFinset, whole]
  rw [same, List.toFinset_card_of_nodup distinct]

theorem rest_listed {vertex : Id} {rest : List Id} (distinct : (vertex :: rest).Nodup)
    (whole : ∀ id, id ∈ vertex :: rest ↔ id ∈ candidates) (id : Id) :
    id ∈ rest ↔ id ∈ candidates.erase vertex := by
  rw [Finset.mem_erase, ← whole, List.mem_cons]
  constructor
  · intro member
    refine ⟨?_, .inr member⟩
    rintro rfl
    exact (List.nodup_cons.mp distinct).1 member
  · rintro ⟨other, member⟩
    exact member.resolve_left other

/-- What the loop lists, once what every call lists is known. -/
theorem mem_branches (apart : Apart pairs)
    {recurse : Finset Id → Finset Id → Finset Id → List (Finset Id)} {rest : List Id}
    (lists : ∀ {chosen candidates excluded : Finset Id},
      candidates.card < rest.length →
      Search (duplicates pairs) pool chosen candidates excluded →
      (clique ∈ recurse chosen candidates excluded ↔
        Wanted (duplicates pairs) chosen excluded clique))
    (distinct : rest.Nodup) (whole : ∀ id, id ∈ rest ↔ id ∈ candidates)
    (search : Search (duplicates pairs) pool chosen candidates excluded) :
    clique ∈ branches recurse (adjacency pairs) chosen candidates excluded rest ↔
      Wanted (duplicates pairs) chosen excluded clique ∧ ∃ id ∈ clique, id ∈ candidates := by
  induction rest generalizing candidates excluded with
  | nil =>
      have empty : ∀ id, id ∉ candidates := by
        intro id member
        simpa using (whole id).mpr member
      simp only [branches, List.not_mem_nil, false_iff]
      rintro ⟨-, id, -, member⟩
      exact empty id member
  | cons vertex rest induction =>
      have candidate : vertex ∈ candidates := (whole vertex).mp List.mem_cons_self
      have adjacent : ∀ other, other ∈ adjacency pairs vertex ↔
          (duplicates pairs).Adj vertex other := fun _ => adj_duplicates apart
      have smaller := fewer_candidates candidate adjacent
      rw [card_of_listed distinct whole] at smaller
      have with_vertex := lists smaller (search.choose candidate adjacent)
      have without_vertex := induction
        (fun fewer searched => lists (by rw [List.length_cons]; omega) searched)
        (List.nodup_cons.mp distinct).2 (rest_listed distinct whole) (search.give_up candidate)
      rw [branches, List.mem_append, with_vertex, without_vertex,
        search.wanted_choose candidate adjacent, wanted_give_up]
      constructor
      · rintro (⟨wanted, inside⟩ | ⟨⟨wanted, -⟩, id, member, listed⟩)
        · exact ⟨wanted, vertex, inside, candidate⟩
        · exact ⟨wanted, id, member, Finset.mem_of_mem_erase listed⟩
      · rintro ⟨wanted, id, member, listed⟩
        by_cases inside : vertex ∈ clique
        · exact .inl ⟨wanted, inside⟩
        · refine .inr ⟨⟨wanted, inside⟩, id, member, Finset.mem_erase.mpr ⟨?_, listed⟩⟩
          rintro rfl
          exact inside member

theorem mem_bron_kerbosch (apart : Apart pairs) (covers : Covers (duplicates pairs) pool)
    {depth : Nat} (deep : candidates.card < depth)
    (search : Search (duplicates pairs) pool chosen candidates excluded) :
    clique ∈ bronKerbosch listing (adjacency pairs) depth chosen candidates excluded ↔
      Wanted (duplicates pairs) chosen excluded clique := by
  induction depth generalizing chosen candidates excluded with
  | zero => omega
  | succ depth induction =>
      rw [bronKerbosch]
      split
      · rename_i exhausted
        obtain ⟨rfl, rfl⟩ := exhausted
        rw [search.only covers]
        split
        · rename_i large
          rw [List.mem_singleton]
          exact ⟨fun same => ⟨same, large⟩, And.left⟩
        · rename_i small
          simp [small]
      · rename_i more
        have length := card_of_listed (listing.nodup candidates) (listing.mem candidates)
        rw [mem_branches apart (fun fewer searched => induction (by omega) searched)
          (listing.nodup candidates) (listing.mem candidates) search]
        refine ⟨And.left, fun wanted => ⟨wanted, search.meets covers wanted ?_⟩⟩
        by_contra none_
        push Not at none_
        apply more
        exact ⟨Finset.eq_empty_of_forall_notMem fun id => (none_ id).1,
          Finset.eq_empty_of_forall_notMem fun id => (none_ id).2⟩

/-- The enumeration lists the maximal cliques of at least two nodes. -/
theorem mem_maximal_cliques (apart : Apart pairs) :
    clique ∈ maximalCliques listing pairs ↔
      Maximal (duplicates pairs).IsClique (clique : Set Id) ∧ 2 ≤ clique.card := by
  rw [maximalCliques,
    mem_bron_kerbosch apart duplicates_covered (Nat.lt_succ_self _) (Search.start _), wanted_start]

theorem branches_nodup (apart : Apart pairs)
    {recurse : Finset Id → Finset Id → Finset Id → List (Finset Id)} {rest : List Id}
    (lists : ∀ {chosen candidates excluded : Finset Id} (clique : Finset Id),
      candidates.card < rest.length →
      Search (duplicates pairs) pool chosen candidates excluded →
      (clique ∈ recurse chosen candidates excluded ↔
        Wanted (duplicates pairs) chosen excluded clique))
    (once : ∀ {chosen candidates excluded : Finset Id}, candidates.card < rest.length →
      Search (duplicates pairs) pool chosen candidates excluded →
      (recurse chosen candidates excluded).Nodup)
    (distinct : rest.Nodup) (whole : ∀ id, id ∈ rest ↔ id ∈ candidates)
    (search : Search (duplicates pairs) pool chosen candidates excluded) :
    (branches recurse (adjacency pairs) chosen candidates excluded rest).Nodup := by
  induction rest generalizing candidates excluded with
  | nil => exact List.nodup_nil
  | cons vertex rest induction =>
      have candidate : vertex ∈ candidates := (whole vertex).mp List.mem_cons_self
      have adjacent : ∀ other, other ∈ adjacency pairs vertex ↔
          (duplicates pairs).Adj vertex other := fun _ => adj_duplicates apart
      have smaller := fewer_candidates candidate adjacent
      rw [← card_of_listed distinct whole] at lists once
      have chosen_search := search.choose candidate adjacent
      have remaining := rest_listed distinct whole
      have given_up := search.give_up candidate
      have rest_distinct := (List.nodup_cons.mp distinct).2
      have below : ∀ {size : Nat}, size < rest.length → size < candidates.card := by
        intro size fewer
        rw [card_of_listed distinct whole, List.length_cons]
        omega
      have rest_once := induction (fun clique fewer => lists clique (below fewer))
        (fun fewer => once (below fewer)) rest_distinct remaining given_up
      rw [branches, List.nodup_append']
      refine ⟨once smaller chosen_search, rest_once, ?_⟩
      intro clique first second
      have inside := ((lists clique smaller chosen_search).mp first).contains
        (Finset.mem_insert_self _ _)
      have outside := ((mem_branches apart (fun fewer => lists clique (below fewer))
        rest_distinct remaining given_up).mp second).1
      exact (wanted_give_up.mp outside).2 inside

theorem bron_kerbosch_nodup (apart : Apart pairs) (covers : Covers (duplicates pairs) pool)
    {depth : Nat} (deep : candidates.card < depth)
    (search : Search (duplicates pairs) pool chosen candidates excluded) :
    (bronKerbosch listing (adjacency pairs) depth chosen candidates excluded).Nodup := by
  induction depth generalizing chosen candidates excluded with
  | zero => omega
  | succ depth induction =>
      rw [bronKerbosch]
      split
      · split
        · exact List.nodup_singleton _
        · exact List.nodup_nil
      · have length := card_of_listed (listing.nodup candidates) (listing.mem candidates)
        exact branches_nodup apart
          (fun _ fewer searched => mem_bron_kerbosch apart covers (by omega) searched)
          (fun fewer searched => induction (by omega) searched)
          (listing.nodup candidates) (listing.mem candidates) search

variable {cliques : List (Finset Id)} {used : Finset Id} {cluster : List Id}

theorem mem_assign (assigned : cluster ∈ assign listing used cliques) :
    2 ≤ cluster.length ∧ cluster.Nodup ∧
      ∃ clique ∈ cliques, ∀ id ∈ cluster, id ∈ clique ∧ id ∉ used := by
  induction cliques generalizing used with
  | nil => cases assigned
  | cons clique rest induction =>
      rw [assign] at assigned
      split at assigned
      · obtain ⟨large, distinct, other, listed, inside⟩ := induction assigned
        exact ⟨large, distinct, other, List.mem_cons_of_mem _ listed, inside⟩
      · rename_i enough
        rcases List.mem_cons.mp assigned with rfl | later
        · refine ⟨Nat.le_of_not_lt enough, (listing.nodup clique).filter _, clique,
            List.mem_cons_self, ?_⟩
          intro id member
          rw [List.mem_filter, decide_eq_true_eq, listing.mem] at member
          exact member
        · obtain ⟨large, distinct, other, listed, inside⟩ := induction later
          refine ⟨large, distinct, other, List.mem_cons_of_mem _ listed, ?_⟩
          intro id member
          have free := inside id member
          rw [Finset.notMem_union] at free
          exact ⟨free.1, free.2.1⟩

theorem assign_disjoint : (assign listing used cliques).Pairwise List.Disjoint := by
  induction cliques generalizing used with
  | nil => exact .nil
  | cons clique rest induction =>
      rw [assign]
      split
      · exact induction
      · refine List.pairwise_cons.mpr ⟨?_, induction⟩
        intro later assigned id member again
        obtain ⟨-, -, _, -, free⟩ := mem_assign assigned
        have outside := (free id again).2
        rw [Finset.notMem_union, List.mem_toFinset] at outside
        exact outside.2 member

/-- Two nodes of one clique are not both left over. -/
theorem assign_covers (listed : clique ∈ cliques) {first second : Id} (one : first ∈ clique)
    (other : second ∈ clique) (apart : first ≠ second) :
    (first ∈ used ∨ second ∈ used) ∨
      ∃ cluster ∈ assign listing used cliques, first ∈ cluster ∨ second ∈ cluster := by
  induction cliques generalizing used with
  | nil => cases listed
  | cons head rest induction =>
      rw [assign]
      rcases List.mem_cons.mp listed with rfl | later
      · by_cases taken : first ∈ used ∨ second ∈ used
        · exact .inl taken
        · rw [not_or] at taken
          have one_left : first ∈ (listing.list clique).filter fun id => decide (id ∉ used) := by
            rw [List.mem_filter, decide_eq_true_eq, listing.mem]
            exact ⟨one, taken.1⟩
          have other_left : second ∈
              (listing.list clique).filter fun id => decide (id ∉ used) := by
            rw [List.mem_filter, decide_eq_true_eq, listing.mem]
            exact ⟨other, taken.2⟩
          have enough := Nat.not_lt.mpr (two_members one_left other_left apart)
          rw [if_neg enough]
          exact .inr ⟨_, List.mem_cons_self, .inl one_left⟩
      · split
        · exact induction later
        · rename_i enough
          rcases @induction (used ∪ ((listing.list head).filter fun id =>
            decide (id ∉ used)).toFinset) later with taken | ⟨cluster, assigned, inside⟩
          · simp only [Finset.mem_union, List.mem_toFinset] at taken
            rcases taken with (before | now) | (before | now)
            · exact .inl (.inl before)
            · exact .inr ⟨_, List.mem_cons_self, .inl now⟩
            · exact .inl (.inr before)
            · exact .inr ⟨_, List.mem_cons_self, .inr now⟩
          · exact .inr ⟨cluster, List.mem_cons_of_mem _ assigned, inside⟩

theorem sorted_cliques : ((maximalCliques listing pairs).mergeSort larger).Pairwise
    fun first second => second.card ≤ first.card := by
  have sorted := @List.pairwise_mergeSort _ larger
    (fun first second third one other => by
      rw [larger, decide_eq_true_eq] at one other ⊢
      exact other.trans one)
    (fun first second => by
      rw [larger, larger, Bool.or_eq_true, decide_eq_true_eq, decide_eq_true_eq]
      exact Nat.le_total _ _)
    (maximalCliques listing pairs)
  exact sorted.imp of_decide_eq_true

theorem mem_sorted_cliques : clique ∈ (maximalCliques listing pairs).mergeSort larger ↔
    clique ∈ maximalCliques listing pairs :=
  (List.mergeSort_perm _ _).mem_iff

/-- What is merged: clusters without a common node, each of at least two nodes that are
near duplicates of one another, the first as large as any clique; and of two near
duplicates at least one is in a cluster. -/
structure Clustered (similar : Id → Id → Prop) (found : List (List Id)) : Prop where
  disjoint : found.Pairwise List.Disjoint
  distinct : ∀ cluster ∈ found, cluster.Nodup
  large : ∀ cluster ∈ found, 2 ≤ cluster.length
  alike : ∀ cluster ∈ found, ∀ first ∈ cluster, ∀ second ∈ cluster, first ≠ second →
    similar first second
  covering : ∀ first second, similar first second →
    ∃ cluster ∈ found, first ∈ cluster ∨ second ∈ cluster
  largest : ∀ first rest, found = first :: rest → ∀ clique : List Id, clique.Nodup →
    clique.Pairwise similar → clique.length ≤ first.length

theorem clusters_clustered (apart : Apart pairs) :
    Clustered (duplicates pairs).Adj (clusters listing pairs) where
  disjoint := assign_disjoint
  distinct := fun cluster assigned => (mem_assign assigned).2.1
  large := fun cluster assigned => (mem_assign assigned).1
  alike := by
    intro cluster assigned first one second other differ
    obtain ⟨-, -, clique, listed, inside⟩ := mem_assign assigned
    have maximal := ((mem_maximal_cliques apart).mp (mem_sorted_cliques.mp listed)).1
    exact maximal.prop (inside first one).1 (inside second other).1 differ
  covering := by
    intro first second edge
    obtain ⟨clique, wanted, one, other⟩ := exists_wanted duplicates_covered edge
    have listed : clique ∈ (maximalCliques listing pairs).mergeSort larger := mem_sorted_cliques.mpr
      ((mem_maximal_cliques apart).mpr (wanted_start.mp wanted))
    rw [clusters]
    apply (assign_covers listed one other edge.ne).resolve_left
    simp
  largest := by
    intro first rest found clique distinct pairwise
    cases sorted : (maximalCliques listing pairs).mergeSort larger with
    | nil =>
        rw [clusters, sorted, assign] at found
        cases found
    | cons head others =>
        have listed : head ∈ (maximalCliques listing pairs).mergeSort larger := by
          rw [sorted]
          exact List.mem_cons_self
        have wanted := (mem_maximal_cliques apart).mp (mem_sorted_cliques.mp listed)
        have whole : (listing.list head).filter (fun id => decide (id ∉ (∅ : Finset Id))) =
            listing.list head := by
          simp
        have size := card_of_listed (listing.nodup head) (listing.mem head)
        have enough : ¬(listing.list head).length < 2 := by
          rw [← size]
          exact Nat.not_lt.mpr wanted.2
        rw [clusters, sorted, assign, whole, if_neg enough] at found
        obtain ⟨rfl, -⟩ := List.cons.inj found
        rw [← size]
        by_cases small : clique.length < 2
        · omega
        · obtain ⟨wider, contained, included⟩ :=
            @extends_to_wanted _ _ _ clique.toFinset _ duplicates_covered
              (clique_of_pairwise pairwise)
              (by rw [List.toFinset_card_of_nodup distinct]; omega)
          have bound := Finset.card_le_card included
          rw [List.toFinset_card_of_nodup distinct] at bound
          have counted : wider ∈ (maximalCliques listing pairs).mergeSort larger :=
            mem_sorted_cliques.mpr
            ((mem_maximal_cliques apart).mpr (wanted_start.mp contained))
          have order := @sorted_cliques _ _ pairs listing
          rw [sorted] at counted order
          rcases List.mem_cons.mp counted with rfl | later
          · exact bound
          · exact bound.trans ((List.pairwise_cons.mp order).1 wider later)

/-! ## The clusters of a page -/

section

variable [LinearOrder Weight] [Zero Weight] {sim : Nat → Nat → Weight}
variable {crossThreshold dedupThreshold : Weight} {ids : List Id}

omit [DecidableEq Id] in
theorem mem_argwhere {size : Nat} {mask : Nat → Nat → Bool} {row column : Nat} :
    (row, column) ∈ argwhere size mask ↔
      row < size ∧ column < size ∧ mask row column = true := by
  simp only [argwhere, List.mem_flatMap, List.mem_map, List.mem_filter, List.mem_range,
    Prod.mk.injEq]
  constructor
  · rintro ⟨one, low, other, ⟨high, held⟩, rfl, rfl⟩
    exact ⟨low, high, held⟩
  · rintro ⟨low, high, held⟩
    exact ⟨row, low, column, ⟨high, held⟩, rfl, rfl⟩

omit [DecidableEq Id] in
theorem mem_named {found : List (Nat × Nat)} {first second : Id} :
    (first, second) ∈ named ids found ↔
      ∃ row column, (row, column) ∈ found ∧ ids[row]? = some first ∧
        ids[column]? = some second := by
  simp only [named, List.mem_filterMap, Option.bind_eq_bind, Option.pure_def,
    Option.bind_eq_some_iff, Option.some.injEq, Prod.mk.injEq, Prod.exists]
  constructor
  · rintro ⟨row, column, listed, one, at_row, other, at_column, rfl, rfl⟩
    exact ⟨row, column, listed, at_row, at_column⟩
  · rintro ⟨row, column, listed, at_row, at_column⟩
    exact ⟨row, column, listed, first, at_row, second, at_column, rfl, rfl⟩

theorem over_upper (positive : 0 < dedupThreshold) {row column : Nat} :
    dedupThreshold ≤ upper sim row column ↔
      row < column ∧ dedupThreshold ≤ sim row column := by
  rw [upper]
  split
  · rename_i ordered
    exact ⟨fun reached => ⟨ordered, reached⟩, And.right⟩
  · rename_i behind
    exact ⟨fun reached => absurd reached (not_le_of_gt positive),
      fun reached => absurd reached.1 behind⟩

/-- Two ids of the page whose likeness is over the threshold. -/
def NearDuplicate (ids : List Id) (sim : Nat → Nat → Weight) (threshold : Weight)
    (first second : Id) : Prop :=
  ∃ row column, row < column ∧ threshold ≤ sim row column ∧
    (ids[row]? = some first ∧ ids[column]? = some second ∨
      ids[row]? = some second ∧ ids[column]? = some first)

omit [DecidableEq Id] in
theorem mem_dedup_pairs (positive : 0 < dedupThreshold) {first second : Id} :
    (first, second) ∈
        named ids (findPairs ids.length sim crossThreshold dedupThreshold).dedup ↔
      ∃ row column, row < column ∧ dedupThreshold ≤ sim row column ∧
        ids[row]? = some first ∧ ids[column]? = some second := by
  rw [mem_named]
  constructor
  · rintro ⟨row, column, listed, at_row, at_column⟩
    have reached := of_decide_eq_true (mem_argwhere.mp listed).2.2
    obtain ⟨ordered, alike⟩ := (over_upper positive).mp reached
    exact ⟨row, column, ordered, alike, at_row, at_column⟩
  · rintro ⟨row, column, ordered, alike, at_row, at_column⟩
    obtain ⟨high, -⟩ := List.getElem?_eq_some_iff.mp at_column
    have reached := decide_eq_true ((over_upper positive).mpr ⟨ordered, alike⟩)
    exact ⟨row, column, mem_argwhere.mpr ⟨ordered.trans high, high, reached⟩, at_row, at_column⟩

omit [DecidableEq Id] in
theorem dedup_pairs_apart (distinct : ids.Nodup) (positive : 0 < dedupThreshold) :
    Apart (named ids (findPairs ids.length sim crossThreshold dedupThreshold).dedup) := by
  rintro ⟨first, second⟩ listed same
  obtain ⟨row, column, ordered, -, at_row, at_column⟩ := (mem_dedup_pairs positive).mp listed
  obtain ⟨low, read_row⟩ := List.getElem?_eq_some_iff.mp at_row
  obtain ⟨high, read_column⟩ := List.getElem?_eq_some_iff.mp at_column
  have together : ids[row] = ids[column] := read_row.trans (same.trans read_column.symm)
  exact ordered.ne ((distinct.getElem_inj_iff).mp together)

theorem duplicates_near (distinct : ids.Nodup) (positive : 0 < dedupThreshold) :
    (duplicates (named ids
      (findPairs ids.length sim crossThreshold dedupThreshold).dedup)).Adj =
        NearDuplicate ids sim dedupThreshold := by
  have apart : Apart (named ids (findPairs ids.length sim crossThreshold dedupThreshold).dedup) :=
    dedup_pairs_apart distinct positive
  funext first second
  apply propext
  rw [← adj_duplicates apart, mem_adjacency, mem_dedup_pairs positive, mem_dedup_pairs positive]
  constructor
  · rintro (⟨row, column, ordered, reached, at_row, at_column⟩ |
      ⟨row, column, ordered, reached, at_row, at_column⟩)
    · exact ⟨row, column, ordered, reached, .inl ⟨at_row, at_column⟩⟩
    · exact ⟨row, column, ordered, reached, .inr ⟨at_row, at_column⟩⟩
  · rintro ⟨row, column, ordered, reached, ⟨at_row, at_column⟩ | ⟨at_row, at_column⟩⟩
    · exact .inl ⟨row, column, ordered, reached, at_row, at_column⟩
    · exact .inr ⟨row, column, ordered, reached, at_row, at_column⟩

end

end

end HermesCashew.SleepDedup
