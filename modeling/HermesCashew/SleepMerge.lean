import HermesCashew.SleepDedup

/-!
# What merging does to the graph

A merge puts the keeper in the place of every loser: the edges are contracted and the
losers decay. So are all merges of a sleep cycle together, as a single contraction.
-/

namespace HermesCashew.SleepDedup

open HermesCashew.CliqueSearch HermesCashew.Contraction HermesCashew.KeyedTable
open HermesCashew.ThoughtGraph

set_option autoImplicit false

variable {Id Weight Blob : Type} [DecidableEq Id]

/-- The edges, without what they carry. -/
def linked (graph : Graph Id Weight Blob) (parent child : Id) : Prop :=
  graph.edges.has (parent, child)

def retired (node : Node Id) : Node Id :=
  if node.pinned then node.release.decay else node.decay

/-! ## One merge -/

section

variable {scan : Scan} {now : String} {keeper : Id} {losers perm : List Id}
variable {edges : Table (Id × Id) (Edge Id Weight) Edge.ends}
variable {graph : Graph Id Weight Blob}

theorem has_reinsert {edge : Edge Id Weight} {parent child : Id} :
    (reinsert keeper losers edges edge).has (parent, child) ↔
      edges.has (parent, child) ∨ parent ≠ child ∧
        moved keeper losers edge.parentId = parent ∧
          moved keeper losers edge.childId = child := by
  rw [reinsert]
  split
  · rename_i looped
    constructor
    · exact .inl
    · rintro (present | ⟨apart, rfl, rfl⟩)
      · exact present
      · exact absurd looped apart
  · rename_i apart
    rw [Table.has_insert_or_ignore, Edge.ends, Prod.mk.injEq]
    constructor
    · rintro (⟨rfl, rfl⟩ | present)
      · exact .inr ⟨apart, rfl, rfl⟩
      · exact .inl present
    · rintro (present | ⟨-, one, other⟩)
      · exact .inr present
      · exact .inl ⟨one, other⟩

theorem has_reinserted {taken : List (Edge Id Weight)} {parent child : Id} :
    (taken.foldl (reinsert keeper losers) edges).has (parent, child) ↔
      edges.has (parent, child) ∨ parent ≠ child ∧ ∃ edge ∈ taken,
        moved keeper losers edge.parentId = parent ∧
          moved keeper losers edge.childId = child := by
  induction taken generalizing edges with
  | nil => simp
  | cons edge rest induction =>
      rw [List.foldl_cons, induction, has_reinsert]
      simp only [List.exists_mem_cons_iff]
      tauto

theorem has_ends {parent child : Id} :
    edges.has (parent, child) ↔
      ∃ edge ∈ edges.rows, edge.parentId = parent ∧ edge.childId = child := by
  rw [Table.has_iff, List.mem_map]
  simp [Edge.ends]

theorem has_untouched {parent child : Id} :
    (edges.delete (touches losers)).has (parent, child) ↔
      edges.has (parent, child) ∧ parent ∉ losers ∧ child ∉ losers := by
  rw [has_ends, has_ends]
  simp only [Table.mem_delete, touches, decide_eq_false_iff_not, not_or]
  constructor
  · rintro ⟨edge, ⟨member, outside⟩, rfl, rfl⟩
    exact ⟨⟨edge, member, rfl, rfl⟩, outside⟩
  · rintro ⟨⟨edge, member, rfl, rfl⟩, outside⟩
    exact ⟨edge, ⟨member, outside⟩, rfl, rfl⟩

theorem has_rewire {parent child : Id} :
    (rewire scan keeper losers edges).has (parent, child) ↔
      (edges.has (parent, child) ∧ parent ∉ losers ∧ child ∉ losers) ∨
        parent ≠ child ∧ ∃ edge ∈ edges.rows, touches losers edge = true ∧
          moved keeper losers edge.parentId = parent ∧
            moved keeper losers edge.childId = child := by
  rw [rewire, has_reinserted, has_untouched]
  simp only [scan.mem, List.mem_filter, and_assoc]

theorem moved_of_not_mem {id : Id} (kept : id ∉ losers) : moved keeper losers id = id :=
  if_neg kept

theorem moved_of_mem {id : Id} (loser : id ∈ losers) : moved keeper losers id = keeper :=
  if_pos loser

/-- Rewiring contracts the edges. -/
theorem rewire_contracts (kept : keeper ∉ losers) (parent child : Id) :
    (rewire scan keeper losers graph.edges).has (parent, child) ↔
      contract (moved keeper losers) (linked graph) parent child := by
  rw [has_rewire]
  by_cases same : parent = child
  · subst same
    have stays : moved keeper losers parent = parent ↔ parent ∉ losers := by
      constructor
      · intro stays loser
        rw [moved_of_mem loser] at stays
        exact kept (stays ▸ loser)
      · exact moved_of_not_mem
    rw [contract_loop, stays]
    constructor
    · rintro (⟨present, outside, -⟩ | ⟨apart, -⟩)
      · exact ⟨outside, present⟩
      · exact absurd rfl apart
    · rintro ⟨outside, present⟩
      exact .inl ⟨present, outside, outside⟩
  · rw [contract_of_ne same]
    constructor
    · rintro (⟨present, parent_kept, child_kept⟩ | ⟨-, edge, member, -, one, other⟩)
      · exact ⟨parent, child, present, moved_of_not_mem parent_kept, moved_of_not_mem child_kept⟩
      · exact ⟨edge.parentId, edge.childId, has_ends.mpr ⟨edge, member, rfl, rfl⟩, one, other⟩
    · rintro ⟨first, second, present, rfl, rfl⟩
      obtain ⟨edge, member, rfl, rfl⟩ := has_ends.mp present
      by_cases touching : touches losers edge = true
      · exact .inr ⟨same, edge, member, touching, rfl, rfl⟩
      · rw [touches, decide_eq_true_eq, not_or] at touching
        rw [moved_of_not_mem touching.1, moved_of_not_mem touching.2]
        exact .inl ⟨present, touching⟩

def loserRows (now : String) (graph : Graph Id Weight Blob) (keeper : Id)
    (losers perm : List Id) : List (AuditRow Id) :=
  losers.map fun loser => auditRow now graph loser .dedupLoser (some (.keeper keeper))
    (if loser ∈ perm then some .absorbedPermanent else none)

theorem loser_rows_ids : (loserRows now graph keeper losers perm).map AuditRow.nodeId = losers := by
  rw [loserRows, List.map_map]
  exact List.map_id losers

theorem audited (now : String) (keeper : Id) (perm losers : List Id)
    (graph : Graph Id Weight Blob) :
    losers.foldl (auditLoser now keeper perm) graph =
      { graph with
        decayAudit := graph.decayAudit ++ loserRows now graph keeper losers perm } := by
  induction losers generalizing graph with
  | nil => simp [loserRows]
  | cons loser rest induction =>
      rw [List.foldl_cons, induction]
      simp only [auditLoser, logDecayEvent, loserRows, List.map_cons, List.append_assoc,
        List.singleton_append]
      rfl

structure Merged (before after : Graph Id Weight Blob) (keeper : Id) (losers : List Id) :
    Prop where
  edges : linked after = contract (moved keeper losers) (linked before)
  nodes : ∀ id, after.nodes.find id = (before.nodes.find id).map fun node =>
    if id ∈ losers then retired node else node
  embeddings : after.embeddings = before.embeddings
  vecEmbeddings : after.vecEmbeddings = before.vecEmbeddings
  audit : ∃ rows, after.decayAudit = before.decayAudit ++ rows ∧
    rows.map AuditRow.nodeId = losers ∧ ∀ row ∈ rows, row.decayReason = .dedupLoser ∧
      row.relatedNodes = some (.keeper keeper) ∧
        (row.metadata = some .absorbedPermanent ↔
          ∃ node, before.nodes.find row.nodeId = some node ∧ node.pinned = true)

theorem mem_permanent_of {cluster : List Id} {id : Id} (inside : id ∈ cluster)
    {node : Node Id} (found : graph.nodes.find id = some node) :
    id ∈ permanentOf graph cluster ↔ node.pinned = true := by
  obtain ⟨member, rfl⟩ := Table.find_eq_some.mp found
  simp only [permanentOf, List.mem_map, List.mem_filter, Bool.and_eq_true, decide_eq_true_eq]
  constructor
  · rintro ⟨other, ⟨listed, -, held⟩, same⟩
    rwa [graph.nodes.unique listed member same] at held
  · intro held
    exact ⟨node, ⟨member, inside, held⟩, rfl⟩

/-- What a merge writes, the audit last. -/
theorem absorb_eq (perm : List Id) :
    absorb scan now graph keeper losers perm =
      { graph with
        edges := rewire scan keeper losers graph.edges
        nodes := (graph.nodes.update
          (fun node => decide (node.id ∈ losers ∧ node.id ∈ perm)) Node.release
            Node.release_id).update (fun node => decide (node.id ∈ losers)) Node.decay
              Node.decay_id
        decayAudit := graph.decayAudit ++ loserRows now
          { graph with
            edges := rewire scan keeper losers graph.edges
            nodes := graph.nodes.update
              (fun node => decide (node.id ∈ losers ∧ node.id ∈ perm)) Node.release
                Node.release_id } keeper losers perm } := by
  rw [absorb, audited]

theorem absorb_nodes {cluster : List Id} (within : ∀ loser ∈ losers, loser ∈ cluster) (id : Id) :
    (absorb scan now graph keeper losers (permanentOf graph cluster)).nodes.find id =
      (graph.nodes.find id).map fun node => if id ∈ losers then retired node else node := by
  rw [absorb_eq]
  simp only [Table.find_update]
  cases found : graph.nodes.find id with
  | none => rfl
  | some node =>
      obtain ⟨-, rfl⟩ := Table.find_eq_some.mp found
      by_cases loser : node.id ∈ losers
      · have held := mem_permanent_of (within node.id loser) found
        by_cases absorbed : node.pinned = true
        · simp [loser, retired, absorbed, held.mpr absorbed, Node.release]
        · simp [loser, retired, absorbed, mt held.mp absorbed]
      · simp [loser]

theorem absorb_audit {cluster : List Id} (within : ∀ loser ∈ losers, loser ∈ cluster) :
    ∃ rows, (absorb scan now graph keeper losers (permanentOf graph cluster)).decayAudit =
        graph.decayAudit ++ rows ∧
      rows.map AuditRow.nodeId = losers ∧ ∀ row ∈ rows, row.decayReason = .dedupLoser ∧
        row.relatedNodes = some (.keeper keeper) ∧
          (row.metadata = some .absorbedPermanent ↔
            ∃ node, graph.nodes.find row.nodeId = some node ∧ node.pinned = true) := by
  rw [absorb_eq]
  refine ⟨_, rfl, loser_rows_ids, ?_⟩
  intro row listed
  obtain ⟨loser, member, rfl⟩ := List.mem_map.mp listed
  refine ⟨rfl, rfl, ?_⟩
  simp only [auditRow]
  constructor
  · intro absorbed
    split at absorbed
    · rename_i held
      obtain ⟨node, kept, rfl⟩ := List.mem_map.mp held
      have found := Table.find_of_mem (List.mem_of_mem_filter kept)
      exact ⟨node, found, (mem_permanent_of (within _ member) found).mp held⟩
    · cases absorbed
  · rintro ⟨node, found, held⟩
    rw [if_pos ((mem_permanent_of (within _ member) found).mpr held)]

theorem absorb_merged {cluster : List Id} (kept : keeper ∉ losers)
    (within : ∀ loser ∈ losers, loser ∈ cluster) :
    Merged graph (absorb scan now graph keeper losers (permanentOf graph cluster)) keeper
      losers := by
  refine ⟨?_, absorb_nodes within, ?_, ?_, absorb_audit within⟩
  · funext parent child
    rw [absorb_eq]
    exact propext (rewire_contracts kept parent child)
  · rw [absorb_eq]
  · rw [absorb_eq]

theorem keeper_some {cluster : List Id} {node : Node Id}
    (chosen : keeperOf scan graph cluster = some node) :
    graph.nodes.find node.id = some node ∧ node.id ∈ cluster ∧
      ∀ id ∈ cluster, ∀ other, graph.nodes.find id = some other → rank node ≤ rank other := by
  have sorted := @List.pairwise_mergeSort _ ahead
    (fun first second third one other => by
      rw [ahead, decide_eq_true_eq] at one other ⊢
      exact one.trans other)
    (fun first second => by
      rw [ahead, ahead, Bool.or_eq_true, decide_eq_true_eq, decide_eq_true_eq]
      exact le_total _ _)
    (scan.order (graph.nodes.rows.filter fun node => decide (node.id ∈ cluster)))
  have listed : ∀ other : Node Id, other ∈ (scan.order (graph.nodes.rows.filter fun node =>
      decide (node.id ∈ cluster))).mergeSort ahead ↔
        other ∈ graph.nodes.rows ∧ other.id ∈ cluster := by
    intro other
    rw [(List.mergeSort_perm _ _).mem_iff, scan.mem, List.mem_filter, decide_eq_true_eq]
  rw [keeperOf] at chosen
  obtain ⟨rest, shape⟩ := List.head?_eq_some_iff.mp chosen
  rw [shape] at sorted listed
  have own := (listed node).mp List.mem_cons_self
  refine ⟨Table.find_of_mem own.1, own.2, ?_⟩
  intro id inside other found
  obtain ⟨member, rfl⟩ := Table.find_eq_some.mp found
  rcases List.mem_cons.mp ((listed other).mpr ⟨member, inside⟩) with rfl | later
  · exact le_refl _
  · exact of_decide_eq_true ((List.pairwise_cons.mp sorted).1 other later)

theorem keeper_none {cluster : List Id} (chosen : keeperOf scan graph cluster = none) {id : Id}
    (inside : id ∈ cluster) : ¬graph.nodes.has id := by
  rw [keeperOf, List.head?_eq_none_iff] at chosen
  intro present
  obtain ⟨node, found⟩ := Option.isSome_iff_exists.mp present
  obtain ⟨member, rfl⟩ := Table.find_eq_some.mp found
  have listed : node ∈ (scan.order (graph.nodes.rows.filter fun node =>
      decide (node.id ∈ cluster))).mergeSort ahead := by
    rw [(List.mergeSort_perm _ _).mem_iff, scan.mem, List.mem_filter, decide_eq_true_eq]
    exact ⟨member, inside⟩
  rw [chosen] at listed
  cases listed

/-- The node that ranks before all others of its cluster is the keeper. -/
theorem keeper_of_first {cluster : List Id} {node : Node Id}
    (found : graph.nodes.find node.id = some node) (inside : node.id ∈ cluster)
    (first : ∀ other ∈ graph.nodes.rows, other.id ∈ cluster → other.id ≠ node.id →
      ahead other node = false) :
    keeperOf scan graph cluster = some node := by
  cases chosen : keeperOf scan graph cluster with
  | none =>
      have present : graph.nodes.has node.id := by
        rw [Table.has, found]
        rfl
      exact absurd present (keeper_none chosen inside)
  | some other =>
      obtain ⟨stored, listed, least⟩ := keeper_some chosen
      by_cases same : other.id = node.id
      · rw [same, found] at stored
        exact stored.symm
      · have behind := first other (Table.find_eq_some.mp stored).1 listed same
        rw [ahead, decide_eq_true (least node.id inside node found)] at behind
        cases behind

theorem merge_cluster_of_first {cluster : List Id} {node : Node Id}
    (found : graph.nodes.find node.id = some node) (inside : node.id ∈ cluster)
    (first : ∀ other ∈ graph.nodes.rows, other.id ∈ cluster → other.id ≠ node.id →
      ahead other node = false)
    (large : ¬cluster.length < 2)
    (some_loser : cluster.filter (fun id => decide (id ≠ node.id)) ≠ []) :
    mergeCluster scan now graph cluster = (some node.id,
      absorb scan now graph node.id (cluster.filter fun id => decide (id ≠ node.id))
        (permanentOf graph cluster)) := by
  rw [mergeCluster, if_neg large, keeper_of_first found inside first]
  exact if_neg some_loser

/-- A cluster of two nodes or more, all in the table, is merged into the one that ranks
first. -/
theorem merge_cluster_merged {cluster : List Id} (distinct : cluster.Nodup)
    (large : 2 ≤ cluster.length) (present : ∀ id ∈ cluster, graph.nodes.has id) :
    ∃ node, (mergeCluster scan now graph cluster).1 = some node.id ∧
      graph.nodes.find node.id = some node ∧ node.id ∈ cluster ∧
      (∀ id ∈ cluster, ∀ other, graph.nodes.find id = some other → rank node ≤ rank other) ∧
      Merged graph (mergeCluster scan now graph cluster).2 node.id
        (cluster.filter fun id => decide (id ≠ node.id)) := by
  rw [mergeCluster, if_neg (Nat.not_lt.mpr large)]
  cases chosen : keeperOf scan graph cluster with
  | none =>
      obtain ⟨id, inside⟩ := List.exists_mem_of_length_pos (Nat.lt_of_lt_of_le Nat.zero_lt_two large)
      exact absurd (present id inside) (keeper_none chosen inside)
  | some node =>
      obtain ⟨found, inside, first⟩ := keeper_some chosen
      have some_loser : cluster.filter (fun id => decide (id ≠ node.id)) ≠ [] := by
        intro empty
        rw [List.filter_eq_nil_iff] at empty
        have all_same : ∀ id ∈ cluster, id = node.id := by
          intro id member
          simpa using empty id member
        have small : cluster.length ≤ 1 := by
          match cluster, distinct, all_same with
          | [], _, _ => exact Nat.zero_le 1
          | [_], _, _ => exact Nat.le_refl 1
          | one :: other :: _, distinct, all_same =>
              have same := (all_same one List.mem_cons_self).trans
                (all_same other (List.mem_cons_of_mem _ List.mem_cons_self)).symm
              exact absurd (same ▸ List.mem_cons_self) (List.nodup_cons.mp distinct).1
        omega
      dsimp only
      rw [if_neg some_loser]
      exact ⟨node, rfl, found, inside, first,
        absorb_merged (fun loser => by simp at loser)
          fun _ loser => List.mem_of_mem_filter loser⟩

end

/-! ## All the merges -/

/-- What becomes of a graph when the clusters are merged: every node goes to its
representative, which is itself or the first ranked node of its cluster. -/
structure Deduplicated (before after : Graph Id Weight Blob) (found : List (List Id))
    (representative : Id → Id) : Prop where
  alone : ∀ id, (∀ cluster ∈ found, id ∉ cluster) → representative id = id
  together : ∀ cluster ∈ found, ∃ node, before.nodes.find node.id = some node ∧
    node.id ∈ cluster ∧ ∀ id ∈ cluster, representative id = node.id ∧
      ∀ other, before.nodes.find id = some other → rank node ≤ rank other
  edges : linked after = contract representative (linked before)
  nodes : ∀ id, after.nodes.find id = (before.nodes.find id).map fun node =>
    if representative id = id then node else retired node
  embeddings : after.embeddings = before.embeddings
  vecEmbeddings : after.vecEmbeddings = before.vecEmbeddings
  audit : ∃ rows, after.decayAudit = before.decayAudit ++ rows ∧
    (rows.map AuditRow.nodeId).Nodup ∧
    (∀ id, id ∈ rows.map AuditRow.nodeId ↔ representative id ≠ id) ∧
    ∀ row ∈ rows, row.decayReason = .dedupLoser ∧
      row.relatedNodes = some (.keeper (representative row.nodeId)) ∧
        (row.metadata = some .absorbedPermanent ↔
          ∃ node, before.nodes.find row.nodeId = some node ∧ node.pinned = true)

section

variable {scan : Scan} {now : String} {graph : Graph Id Weight Blob} {found : List (List Id)}

theorem Merged.elsewhere {after : Graph Id Weight Blob} {keeper id : Id} {losers : List Id}
    (merged : Merged graph after keeper losers) (kept : id ∉ losers) :
    after.nodes.find id = graph.nodes.find id := by
  rw [merged.nodes]
  simp [kept]

theorem Deduplicated.none : Deduplicated graph graph [] id where
  alone := fun _ _ => rfl
  together := fun _ listed => absurd listed List.not_mem_nil
  edges := contract_id.symm
  nodes := by
    intro name
    simp
  embeddings := rfl
  vecEmbeddings := rfl
  audit := ⟨[], (List.append_nil _).symm, List.nodup_nil, by simp,
    fun _ listed => absurd listed List.not_mem_nil⟩

theorem mem_losers {cluster : List Id} {keeper id : Id} :
    id ∈ cluster.filter (fun id => decide (id ≠ keeper)) ↔ id ∈ cluster ∧ id ≠ keeper := by
  rw [List.mem_filter, decide_eq_true_eq]

theorem moved_member {cluster : List Id} {keeper id : Id} (member : id ∈ cluster) :
    moved keeper (cluster.filter fun id => decide (id ≠ keeper)) id = keeper := by
  by_cases same : id = keeper
  · rw [moved_of_not_mem (fun loser => (mem_losers.mp loser).2 same), same]
  · exact moved_of_mem (mem_losers.mpr ⟨member, same⟩)

theorem moved_outside {cluster : List Id} {keeper id : Id} (outside : id ∉ cluster) :
    moved keeper (cluster.filter fun id => decide (id ≠ keeper)) id = id :=
  moved_of_not_mem fun loser => outside (mem_losers.mp loser).1

/-! A merge of one cluster before the merges of the others. -/

section

variable {middle last : Graph Id Weight Blob} {cluster : List Id} {keeper : Id}
variable {representative : Id → Id}

/-- The merges of the other clusters leave the cluster where it is. -/
theorem Deduplicated.settled (rest : Deduplicated middle last found representative)
    (apart : ∀ other ∈ found, List.Disjoint cluster other) {id : Id} (member : id ∈ cluster) :
    representative id = id :=
  rest.alone id fun other listed again => apart other listed member again

theorem Deduplicated.moves (rest : Deduplicated middle last found representative)
    (apart : ∀ other ∈ found, List.Disjoint cluster other) (inside : keeper ∈ cluster) (id : Id) :
    (representative ∘ moved keeper (cluster.filter fun id => decide (id ≠ keeper))) id =
      if id ∈ cluster then keeper else representative id := by
  split
  · rename_i member
    rw [Function.comp_apply, moved_member member, rest.settled apart inside]
  · rename_i outside
    rw [Function.comp_apply, moved_outside outside]

theorem Deduplicated.after_together (rest : Deduplicated middle last found representative)
    (apart : ∀ other ∈ found, List.Disjoint cluster other)
    (merged : Merged graph middle keeper (cluster.filter fun id => decide (id ≠ keeper)))
    {other : List Id} (listed : other ∈ found) :
    ∃ node, graph.nodes.find node.id = some node ∧ node.id ∈ other ∧
      ∀ id ∈ other, id ∉ cluster ∧ representative id = node.id ∧
        ∀ rival, graph.nodes.find id = some rival → rank node ≤ rank rival := by
  obtain ⟨node, kept, within, all⟩ := rest.together other listed
  have outside : ∀ id ∈ other, id ∉ cluster :=
    fun id member again => apart other listed again member
  have unchanged : ∀ id ∈ other, middle.nodes.find id = graph.nodes.find id :=
    fun id member => merged.elsewhere fun loser => outside id member (mem_losers.mp loser).1
  refine ⟨node, (unchanged _ within).symm.trans kept, within, ?_⟩
  intro id member
  refine ⟨outside id member, (all id member).1, ?_⟩
  intro rival at_id
  exact (all id member).2 rival ((unchanged id member).trans at_id)

theorem Deduplicated.after_nodes (rest : Deduplicated middle last found representative)
    (apart : ∀ other ∈ found, List.Disjoint cluster other) (inside : keeper ∈ cluster)
    (merged : Merged graph middle keeper (cluster.filter fun id => decide (id ≠ keeper)))
    (id : Id) :
    last.nodes.find id = (graph.nodes.find id).map fun node =>
      if (representative ∘ moved keeper (cluster.filter fun id => decide (id ≠ keeper))) id = id
        then node else retired node := by
  rw [rest.nodes, merged.nodes, Option.map_map, rest.moves apart inside]
  apply congrFun
  apply congrArg
  funext row
  dsimp only [Function.comp_apply]
  by_cases member : id ∈ cluster
  · rw [if_pos member, rest.settled apart member, if_pos rfl]
    by_cases same : id = keeper
    · rw [if_neg fun loser => (mem_losers.mp loser).2 same, if_pos same.symm]
    · rw [if_pos (mem_losers.mpr ⟨member, same⟩), if_neg (Ne.symm same)]
  · rw [if_neg member, if_neg fun loser => member (mem_losers.mp loser).1]

/-- The audit has the losers of the cluster before those of the other clusters. -/
theorem Deduplicated.after_audit (rest : Deduplicated middle last found representative)
    (apart : ∀ other ∈ found, List.Disjoint cluster other) (distinct : cluster.Nodup)
    (inside : keeper ∈ cluster)
    (merged : Merged graph middle keeper (cluster.filter fun id => decide (id ≠ keeper))) :
    ∃ rows, last.decayAudit = graph.decayAudit ++ rows ∧
      (rows.map AuditRow.nodeId).Nodup ∧
      (∀ id, id ∈ rows.map AuditRow.nodeId ↔
        (representative ∘ moved keeper (cluster.filter fun id => decide (id ≠ keeper))) id ≠ id) ∧
      ∀ row ∈ rows, row.decayReason = .dedupLoser ∧
        row.relatedNodes = some (.keeper ((representative ∘
          moved keeper (cluster.filter fun id => decide (id ≠ keeper))) row.nodeId)) ∧
        (row.metadata = some .absorbedPermanent ↔
          ∃ node, graph.nodes.find row.nodeId = some node ∧ node.pinned = true) := by
  obtain ⟨rows, merged_audit, ids, told⟩ := merged.audit
  obtain ⟨more, rest_audit, once, decayed, rest_told⟩ := rest.audit
  have row_loser : ∀ row ∈ rows, row.nodeId ∈ cluster := by
    intro row listed
    have loser : row.nodeId ∈ rows.map AuditRow.nodeId := List.mem_map_of_mem listed
    rw [ids] at loser
    exact (mem_losers.mp loser).1
  have more_outside : ∀ row ∈ more, row.nodeId ∉ cluster := by
    intro row listed member
    exact (decayed row.nodeId).mp (List.mem_map_of_mem listed) (rest.settled apart member)
  refine ⟨rows ++ more, ?_, ?_, ?_, ?_⟩
  · rw [rest_audit, merged_audit, List.append_assoc]
  · rw [List.map_append, List.nodup_append']
    refine ⟨ids ▸ distinct.filter _, once, ?_⟩
    intro id one other
    obtain ⟨row, listed, rfl⟩ := List.mem_map.mp other
    rw [ids] at one
    exact more_outside row listed (mem_losers.mp one).1
  · intro id
    rw [List.map_append, List.mem_append, ids, decayed, mem_losers, rest.moves apart inside]
    by_cases member : id ∈ cluster
    · simp [member, rest.settled apart member, eq_comm]
    · simp [member]
  · intro row listed
    rcases List.mem_append.mp listed with early | late
    · have told_row := told row early
      rw [rest.moves apart inside, if_pos (row_loser row early)]
      exact told_row
    · have told_row := rest_told row late
      rw [rest.moves apart inside, if_neg (more_outside row late)]
      rw [merged.elsewhere fun loser =>
        more_outside row late (mem_losers.mp loser).1] at told_row
      exact told_row

end

/-- A merge and then the merges of the other clusters. -/
theorem Deduplicated.after {middle last : Graph Id Weight Blob} {cluster : List Id}
    {node : Node Id} {representative : Id → Id}
    (apart : ∀ other ∈ found, List.Disjoint cluster other) (distinct : cluster.Nodup)
    (kept : graph.nodes.find node.id = some node) (inside : node.id ∈ cluster)
    (first : ∀ id ∈ cluster, ∀ other, graph.nodes.find id = some other → rank node ≤ rank other)
    (merged : Merged graph middle node.id (cluster.filter fun id => decide (id ≠ node.id)))
    (rest : Deduplicated middle last found representative) :
    Deduplicated graph last (cluster :: found)
      (representative ∘ moved node.id (cluster.filter fun id => decide (id ≠ node.id))) where
  alone := by
    intro id outside
    rw [rest.moves apart inside, if_neg (outside cluster List.mem_cons_self)]
    exact rest.alone id fun other listed => outside other (List.mem_cons_of_mem _ listed)
  together := by
    intro other listed
    rcases List.mem_cons.mp listed with rfl | later
    · refine ⟨node, kept, inside, ?_⟩
      intro id member
      rw [rest.moves apart inside, if_pos member]
      exact ⟨rfl, first id member⟩
    · obtain ⟨keeper, found_keeper, within, all⟩ := rest.after_together apart merged later
      refine ⟨keeper, found_keeper, within, ?_⟩
      intro id member
      rw [rest.moves apart inside, if_neg (all id member).1]
      exact (all id member).2
  edges := by
    rw [rest.edges, merged.edges, contract_contract]
    intro id back
    by_cases member : id ∈ cluster
    · rw [moved_member member, rest.settled apart inside] at back
      rw [moved_member member, back]
    · exact moved_outside member
  nodes := rest.after_nodes apart inside merged
  embeddings := by rw [rest.embeddings, merged.embeddings]
  vecEmbeddings := by rw [rest.vecEmbeddings, merged.vecEmbeddings]
  audit := rest.after_audit apart distinct inside merged

theorem merge_next_some {stats : DedupStats} {cluster : List Id} {keeper : Id}
    (merged : (mergeCluster scan now graph cluster).1 = some keeper) :
    mergeNext scan now (stats, graph) cluster =
      ({ components := stats.components + 1
         nodesMerged := stats.nodesMerged + (cluster.length - 1) },
        (mergeCluster scan now graph cluster).2) := by
  rw [mergeNext]
  split
  · rename_i shape
    rw [shape] at merged
    cases merged
  · rename_i shape
    rw [shape]

theorem merges_deduplicated (disjoint : found.Pairwise List.Disjoint)
    (distinct : ∀ cluster ∈ found, cluster.Nodup)
    (large : ∀ cluster ∈ found, 2 ≤ cluster.length)
    (present : ∀ cluster ∈ found, ∀ id ∈ cluster, graph.nodes.has id)
    (stats : DedupStats) :
    ∃ representative,
      Deduplicated graph (found.foldl (mergeNext scan now) (stats, graph)).2 found
        representative ∧
      (found.foldl (mergeNext scan now) (stats, graph)).1 =
        { components := stats.components + found.length
          nodesMerged := stats.nodesMerged +
            (found.map fun cluster => cluster.length - 1).sum } := by
  induction found generalizing graph stats with
  | nil => exact ⟨id, .none, rfl⟩
  | cons cluster rest induction =>
      obtain ⟨apart, rest_disjoint⟩ := List.pairwise_cons.mp disjoint
      obtain ⟨node, kept_as, kept, inside, first, merged⟩ :=
        @merge_cluster_merged _ _ _ _ scan now graph cluster
          (distinct cluster List.mem_cons_self) (large cluster List.mem_cons_self)
          (present cluster List.mem_cons_self)
      have still : ∀ other ∈ rest, ∀ id ∈ other,
          (mergeCluster scan now graph cluster).2.nodes.has id := by
        intro other listed id member
        have there := present other (List.mem_cons_of_mem _ listed) id member
        rw [Table.has, merged.nodes, Option.isSome_map]
        exact there
      obtain ⟨representative, deduplicated, counted⟩ := induction rest_disjoint
        (fun other listed => distinct other (List.mem_cons_of_mem _ listed))
        (fun other listed => large other (List.mem_cons_of_mem _ listed)) still
        { components := stats.components + 1
          nodesMerged := stats.nodesMerged + (cluster.length - 1) }
      rw [List.foldl_cons, merge_next_some kept_as]
      refine ⟨_, .after apart (distinct cluster List.mem_cons_self) kept inside first merged
        deduplicated, ?_⟩
      rw [counted]
      simp only [List.length_cons, List.map_cons, List.sum_cons, Nat.add_assoc, Nat.add_comm 1]

end

/-! ## Deduplicating a page -/

section

variable [LinearOrder Weight] [Zero Weight] {sim : Nat → Nat → Weight}
variable {crossThreshold dedupThreshold : Weight} {ids : List Id} {listing : Listing Id}
variable {scan : Scan} {now : String} {graph : Graph Id Weight Blob}

theorem clusters_nil : clusters listing ([] : List (Id × Id)) = [] := by
  simp [clusters, maximalCliques, keys, bronKerbosch, assign]

omit [LinearOrder Weight] [Zero Weight] in
theorem run_dedup_eq (pairs : List (Nat × Nat)) :
    runDedup listing scan now graph ids pairs =
      (clusters listing (named ids pairs)).foldl (mergeNext scan now) ({}, graph) := by
  rw [runDedup]
  split
  · rename_i nothing
    rw [nothing, named, List.filterMap_nil, clusters_nil, List.foldl_nil]
  · rfl

omit [Zero Weight] in
/-- A cluster is of ids of the page. -/
theorem clustered_listed {found : List (List Id)}
    (clustered : Clustered (NearDuplicate ids sim dedupThreshold) found) {cluster : List Id}
    (listed : cluster ∈ found) {id : Id} (member : id ∈ cluster) : id ∈ ids := by
  have size : cluster.toFinset.card = cluster.length :=
    List.toFinset_card_of_nodup (clustered.distinct cluster listed)
  obtain ⟨other, elsewhere, differ⟩ := Finset.exists_mem_ne
    (size ▸ clustered.large cluster listed) id
  obtain ⟨row, column, -, -, ⟨at_row, -⟩ | ⟨-, at_column⟩⟩ :=
    clustered.alike cluster listed id member other (List.mem_toFinset.mp elsewhere) differ.symm
  · exact List.mem_of_getElem? at_row
  · exact List.mem_of_getElem? at_column

end

/-- The nodes 5 and 7 say the same. What 3 leads to goes through them, and 3 is its own
child. -/
def detours : Graph Nat Int Unit where
  nodes := ⟨[3, 5, 7, 9].map fun id => { id := id, content := [], nodeType := [] }, by decide⟩
  edges := ⟨[(3, 3), (3, 5), (5, 7), (7, 5), (7, 9)].map fun ends =>
    ⟨ends.1, ends.2, none, none, none⟩, by decide⟩
  embeddings := .empty
  vecEmbeddings := .empty
  decayAudit := []

def page : List Nat := [5, 7, 9]

def nearby (row column : Nat) : Int :=
  if row + column = 1 then 2 else 0

end HermesCashew.SleepDedup
