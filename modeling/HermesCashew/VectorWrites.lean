import HermesCashew.SleepPages
import HermesCashew.VectorIndex
import Mathlib

/-!
# What writes the vector index

`embed_nodes` embeds the live nodes that have no embedding, a batch at a time, and writes
each vector to both tables; a batch that fails half-way leaves its rows in the transaction.
`backfill_vec_index` copies the embeddings of the live nodes into the index. Whatever fails,
neither of them gives the index another vector of a live node than the stored one.
-/

namespace HermesCashew.VectorWrites

open HermesCashew.JsonText (Str str)
open HermesCashew.KeyedTable HermesCashew.ThoughtGraph HermesCashew.VectorIndex
open HermesCashew.SleepPages (trimmed)

set_option autoImplicit false

variable {Id Weight Blob : Type}

/-! ## State -/

/-- What becomes of the `DELETE` and the `INSERT` of a row of the index, either of which may
raise. -/
inductive IndexWrite where
  | kept
  | deleted
  | stored
  deriving DecidableEq, Repr

structure Batch (Id Blob : Type) where
  now : String
  /-- `embed_np`, which may raise. -/
  encode : List Str → Option (List Blob)
  hasVec : Bool
  /-- Whether the table of embeddings takes the row of a node; it raises otherwise. -/
  accepts : Id → Bool
  index : Id → IndexWrite
  commits : Bool

structure Service (Id Blob : Type) where
  model : Str
  /-- No bytes. -/
  empty : Blob → Bool
  batches : Nat → Batch Id Blob

structure Progress (Id Weight Blob : Type) where
  durable : Graph Id Weight Blob
  working : Graph Id Weight Blob
  embedded : Nat := 0

structure EmbedStats where
  totalNodes : Nat
  embedded : Nat
  skipped : Int

/-! ## The writers -/

section

variable [DecidableEq Id]

def writeVec (result : IndexWrite) (nodeId : Id) (blob : Blob)
    (index : Table Id (VecRow Id Blob) VecRow.nodeId) : Table Id (VecRow Id Blob) VecRow.nodeId :=
  match result with
  | .kept => index
  | .deleted => index.delete fun row => decide (row.nodeId = nodeId)
  | .stored => index.insertOrReplace ⟨nodeId, blob⟩

def storeNode (service : Service Id Blob) (batch : Batch Id Blob) (graph : Graph Id Weight Blob)
    (node : Node Id) (blob : Blob) : Graph Id Weight Blob :=
  { graph with
    embeddings := graph.embeddings.insertOrReplace ⟨node.id, blob, service.model, batch.now⟩
    vecEmbeddings :=
      if batch.hasVec then writeVec (batch.index node.id) node.id blob graph.vecEmbeddings
      else graph.vecEmbeddings }

/-- The rows of a batch: whether none raised, how many were embedded, and the tables. -/
def storeRows (service : Service Id Blob) (batch : Batch Id Blob) :
    List (Node Id) → List Blob → Nat × Graph Id Weight Blob →
      Bool × Nat × Graph Id Weight Blob
  | [], _, done => (true, done)
  -- `embeddings[j]` raises
  | _ :: _, [], done => (false, done)
  | node :: nodes, blob :: blobs, done =>
      if service.empty blob then storeRows service batch nodes blobs done
      else if batch.accepts node.id then
        storeRows service batch nodes blobs
          (done.1 + 1, storeNode service batch done.2 node blob)
      else (false, done)

/-- One batch; what raises is logged, and nothing is rolled back. -/
def storeBatch (service : Service Id Blob) (batch : Batch Id Blob) (nodes : List (Node Id))
    (progress : Progress Id Weight Blob) : Progress Id Weight Blob :=
  match batch.encode (nodes.map Node.content) with
  | none => progress
  | some blobs =>
      let stored := storeRows service batch nodes blobs (progress.embedded, progress.working)
      { durable := if stored.1 && batch.commits then stored.2.2 else progress.durable
        working := stored.2.2
        embedded := stored.2.1 }

/-- The batches, with the number of nodes as fuel. -/
def embedBatches (service : Service Id Blob) (batchSize : Nat) :
    Nat → Nat → List (Node Id) → Progress Id Weight Blob → Progress Id Weight Blob
  | 0, _, _, progress => progress
  | _ + 1, _, [], progress => progress
  | fuel + 1, turn, node :: nodes, progress =>
      embedBatches service batchSize fuel (turn + 1) ((node :: nodes).drop batchSize)
        (storeBatch service (service.batches turn) ((node :: nodes).take batchSize) progress)

/-- A node to embed. -/
def waiting (graph : Graph Id Weight Blob) (node : Node Id) : Bool :=
  (graph.embeddings.find node.id).isNone && node.live && trimmed node.content

/-- `ORDER BY tn.timestamp DESC`, where `NULL` comes last. -/
def newerFirst (first second : Node Id) : Bool :=
  second.timestamp.all fun stamp => first.timestamp.any fun other => decide (stamp ≤ other)

def nodesToEmbed (scan : Scan) (graph : Graph Id Weight Blob) : List (Node Id) :=
  (scan.order (graph.nodes.rows.filter (waiting graph))).mergeSort newerFirst

/-- `embed_nodes`; what is not committed is lost when the connection is closed. -/
def embedNodes (scan : Scan) (service : Service Id Blob) (batchSize : Nat)
    (graph : Graph Id Weight Blob) : EmbedStats × Graph Id Weight Blob :=
  let nodes := nodesToEmbed scan graph
  let done := embedBatches service batchSize nodes.length 0 nodes
    { durable := graph, working := graph }
  ({ totalNodes := nodes.length
     embedded := done.embedded
     skipped := nodes.length - done.embedded },
    done.durable)

def backfillRow (index : Id → IndexWrite) (graph : Graph Id Weight Blob)
    (row : Embedding Id Blob) : Graph Id Weight Blob :=
  { graph with
    vecEmbeddings := writeVec (index row.nodeId) row.nodeId row.vector graph.vecEmbeddings }

/-- `backfill_vec_index`, when the index can be used. -/
def backfillVecIndex (scan : Scan) (index : Id → IndexWrite) (graph : Graph Id Weight Blob) :
    Graph Id Weight Blob :=
  (scan.order (graph.embeddings.rows.filter fun row => isLive graph row.nodeId)).foldl
    (backfillRow index) graph

end

/-! ## What a write leaves -/

/-- The index has no other vector of a live node than the stored one. -/
def Faithful [DecidableEq Id] (graph : Graph Id Weight Blob) : Prop :=
  ∀ nodeId row, isLive graph nodeId = true → graph.vecEmbeddings.find nodeId = some row →
    (graph.embeddings.find nodeId).map Embedding.vector = some row.embedding

theorem faithful_of_rows [DecidableEq Id] {graph : Graph Id Weight Blob}
    (rows : ∀ row ∈ graph.vecEmbeddings.rows, isLive graph row.nodeId = true →
      (graph.embeddings.find row.nodeId).map Embedding.vector = some row.embedding) :
    Faithful graph := by
  intro nodeId row live found
  obtain ⟨stored, rfl⟩ := Table.find_eq_some.mp found
  exact rows row stored live

/-- Every row of the index is written. -/
def Indexes (service : Service Id Blob) : Prop :=
  ∀ turn, (service.batches turn).hasVec = true ∧
    ∀ nodeId, (service.batches turn).index nodeId = .stored

section

variable [DecidableEq Id] {service : Service Id Blob} {batchSize : Nat}
variable {before middle after graph : Graph Id Weight Blob} {ids more : List Id}

/-- A node is as it was, or it has an embedding and the index has it too, unless it failed. -/
def Written (sound : Prop) (before after : Graph Id Weight Blob) (nodeId : Id) : Prop :=
  (after.embeddings.find nodeId = before.embeddings.find nodeId ∧
    after.vecEmbeddings.find nodeId = before.vecEmbeddings.find nodeId) ∨
  ∃ row, after.embeddings.find nodeId = some row ∧
    (after.vecEmbeddings.find nodeId = some ⟨nodeId, row.vector⟩ ∨
      ¬sound ∧ (after.vecEmbeddings.find nodeId = before.vecEmbeddings.find nodeId ∨
        after.vecEmbeddings.find nodeId = none))

structure Grown (sound : Prop) (ids : List Id) (before after : Graph Id Weight Blob) : Prop where
  nodes : after.nodes = before.nodes
  embeddings : ∀ id, id ∉ ids → after.embeddings.find id = before.embeddings.find id
  index : ∀ id, id ∉ ids → after.vecEmbeddings.find id = before.vecEmbeddings.find id
  written : ∀ id ∈ ids, Written sound before after id

theorem Grown.nothing {sound : Prop} (ids : List Id) : Grown sound ids graph graph :=
  ⟨rfl, fun _ _ => rfl, fun _ _ => rfl, fun _ _ => .inl ⟨rfl, rfl⟩⟩

theorem Grown.mono {sound : Prop} (grown : Grown sound ids before after) (within : ids ⊆ more) :
    Grown sound more before after where
  nodes := grown.nodes
  embeddings := fun id out => grown.embeddings id fun listed => out (within listed)
  index := fun id out => grown.index id fun listed => out (within listed)
  written := by
    intro id _
    by_cases listed : id ∈ ids
    · exact grown.written id listed
    · exact .inl ⟨grown.embeddings id listed, grown.index id listed⟩

theorem Grown.trans {sound : Prop} (first : Grown sound ids before middle)
    (next : Grown sound more middle after) (apart : List.Disjoint ids more) :
    Grown sound (ids ++ more) before after where
  nodes := next.nodes.trans first.nodes
  embeddings := by
    intro id out
    rw [List.mem_append, not_or] at out
    exact (next.embeddings id out.2).trans (first.embeddings id out.1)
  index := by
    intro id out
    rw [List.mem_append, not_or] at out
    exact (next.index id out.2).trans (first.index id out.1)
  written := by
    intro id listed
    rcases List.mem_append.mp listed with early | late
    · have out : id ∉ more := fun late => apart early late
      have done := first.written id early
      rw [Written, next.embeddings id out, next.index id out]
      exact done
    · have out : id ∉ ids := fun early => apart early late
      have done := next.written id late
      rw [Written, first.embeddings id out, first.index id out] at done
      exact done

theorem find_written (result : IndexWrite) (nodeId : Id) (blob : Blob)
    (index : Table Id (VecRow Id Blob) VecRow.nodeId) (id : Id) :
    (writeVec result nodeId blob index).find id =
      if nodeId = id then
        match result with
        | .kept => index.find id
        | .deleted => none
        | .stored => some ⟨nodeId, blob⟩
      else index.find id := by
  cases result with
  | kept => exact (ite_self _).symm
  | deleted =>
      rw [writeVec, Table.find_delete]
      cases found : index.find id with
      | none => exact (ite_self _).symm
      | some row =>
          obtain ⟨-, rfl⟩ := Table.find_eq_some.mp found
          by_cases same : nodeId = row.nodeId
          · simp [same, Option.filter_some]
          · simp [same, Ne.symm same, Option.filter_some]
  | stored => exact Table.find_insert_or_replace _ _ _

theorem store_node_grown (turn : Nat) (node : Node Id) (blob : Blob) :
    Grown (Indexes service) [node.id] graph
      (storeNode service (service.batches turn) graph node blob) where
  nodes := rfl
  embeddings := by
    intro id out
    rw [storeNode, Table.find_insert_or_replace, if_neg]
    exact fun same => out (List.mem_singleton.mpr same.symm)
  index := by
    intro id out
    have other : ¬node.id = id := fun same => out (List.mem_singleton.mpr same.symm)
    rw [storeNode]
    dsimp only
    split
    · rw [find_written, if_neg other]
    · rfl
  written := by
    intro id listed
    obtain rfl := List.mem_singleton.mp listed
    refine .inr ⟨⟨node.id, blob, service.model, (service.batches turn).now⟩, ?_, ?_⟩
    · rw [storeNode, Table.find_insert_or_replace, if_pos rfl]
    · rw [storeNode]
      dsimp only
      split
      · rename_i has_vec
        rw [find_written, if_pos rfl]
        cases result : (service.batches turn).index node.id with
        | stored => exact .inl rfl
        | kept =>
            refine .inr ⟨fun sound => ?_, .inl rfl⟩
            rw [(sound turn).2] at result
            cases result
        | deleted =>
            refine .inr ⟨fun sound => ?_, .inr rfl⟩
            rw [(sound turn).2] at result
            cases result
      · rename_i no_vec
        exact .inr ⟨fun sound => no_vec (sound turn).1, .inl rfl⟩

theorem store_rows_grown (turn : Nat) {nodes : List (Node Id)}
    (distinct : (nodes.map Node.id).Nodup) (blobs : List Blob)
    (done : Nat × Graph Id Weight Blob) :
    Grown (Indexes service) (nodes.map Node.id) done.2
      (storeRows service (service.batches turn) nodes blobs done).2.2 := by
  induction nodes generalizing blobs done with
  | nil => exact .nothing _
  | cons node nodes induction =>
      obtain ⟨alone, rest⟩ := List.nodup_cons.mp distinct
      cases blobs with
      | nil => exact .nothing _
      | cons blob blobs =>
          rw [storeRows]
          split
          · exact (induction rest blobs done).mono (List.subset_cons_self _ _)
          split
          · exact (store_node_grown turn node blob).trans
              (induction rest blobs
                (done.1 + 1, storeNode service (service.batches turn) done.2 node blob))
              (List.singleton_disjoint.mpr alone)
          · exact .nothing _

theorem store_batch_grown (turn : Nat) {nodes : List (Node Id)}
    (distinct : (nodes.map Node.id).Nodup) (progress : Progress Id Weight Blob) :
    Grown (Indexes service) (nodes.map Node.id) progress.working
        (storeBatch service (service.batches turn) nodes progress).working ∧
      ((storeBatch service (service.batches turn) nodes progress).durable = progress.durable ∨
        (storeBatch service (service.batches turn) nodes progress).durable =
          (storeBatch service (service.batches turn) nodes progress).working) := by
  rw [storeBatch]
  split
  · exact ⟨.nothing _, .inl rfl⟩
  · rename_i blobs encoded
    refine ⟨store_rows_grown turn distinct blobs (progress.embedded, progress.working), ?_⟩
    dsimp only
    split
    · exact .inr rfl
    · exact .inl rfl

/-- What is committed is what the connection saw when a batch ended. -/
theorem batches_grown (fuel turn : Nat) {nodes : List (Node Id)}
    (distinct : (nodes.map Node.id).Nodup) (progress : Progress Id Weight Blob) :
    Grown (Indexes service) (nodes.map Node.id) progress.working
        (embedBatches service batchSize fuel turn nodes progress).working ∧
      ((embedBatches service batchSize fuel turn nodes progress).durable = progress.durable ∨
        Grown (Indexes service) (nodes.map Node.id) progress.working
          (embedBatches service batchSize fuel turn nodes progress).durable) := by
  induction fuel generalizing turn nodes progress with
  | zero => exact ⟨.nothing _, .inl rfl⟩
  | succ fuel induction =>
      cases nodes with
      | nil => exact ⟨.nothing _, .inl rfl⟩
      | cons node nodes =>
          rw [embedBatches]
          have whole : ((node :: nodes).take batchSize).map Node.id ++
              ((node :: nodes).drop batchSize).map Node.id = (node :: nodes).map Node.id := by
            rw [← List.map_append, List.take_append_drop]
          rw [← whole] at distinct ⊢
          obtain ⟨now, later, apart⟩ := List.nodup_append'.mp distinct
          obtain ⟨first, kept⟩ := @store_batch_grown _ _ _ _ service turn _ now progress
          obtain ⟨rest, ends⟩ := induction (turn + 1) later
            (storeBatch service (service.batches turn) ((node :: nodes).take batchSize) progress)
          refine ⟨first.trans rest apart, ?_⟩
          rcases ends with same | grown
          · rw [same]
            rcases kept with old | fresh
            · exact .inl old
            · rw [fresh]
              exact .inr (first.mono (List.subset_append_left _ _))
          · exact .inr (first.trans grown apart)

theorem nodes_to_embed_perm (scan : Scan) :
    (nodesToEmbed scan graph).Perm (graph.nodes.rows.filter (waiting graph)) :=
  (List.mergeSort_perm _ _).trans (scan.perm _)

theorem nodes_to_embed_distinct (scan : Scan) :
    ((nodesToEmbed scan graph).map Node.id).Nodup := by
  rw [((nodes_to_embed_perm scan).map Node.id).nodup_iff]
  exact graph.nodes.distinct.sublist (List.filter_sublist.map Node.id)

theorem embed_nodes_grown (scan : Scan) :
    Grown (Indexes service) ((nodesToEmbed scan graph).map Node.id) graph
      (embedNodes scan service batchSize graph).2 := by
  rcases (@batches_grown _ _ _ _ service batchSize (nodesToEmbed scan graph).length 0 _
    (nodes_to_embed_distinct scan) { durable := graph, working := graph }).2 with same | grown
  · rw [embedNodes]
    dsimp only
    rw [same]
    exact .nothing _
  · exact grown

/-! ## What the index has -/

theorem Grown.live {sound : Prop} (grown : Grown sound ids before after) (nodeId : Id) :
    isLive after nodeId = isLive before nodeId := by
  rw [isLive, isLive, grown.nodes]

theorem Grown.faithful {sound : Prop} (grown : Grown sound ids before after)
    (absent : ∀ id ∈ ids, before.embeddings.find id = none) (faithful : Faithful before) :
    Faithful after := by
  intro nodeId row live stored
  rw [grown.live] at live
  by_cases listed : nodeId ∈ ids
  · have unindexed : before.vecEmbeddings.find nodeId ≠ some row := by
      intro old
      have same := faithful nodeId row live old
      rw [absent nodeId listed] at same
      cases same
    rcases grown.written nodeId listed with ⟨-, same⟩ | ⟨embedding, found, both | ⟨-, failed⟩⟩
    · exact absurd (same ▸ stored) unindexed
    · rw [both] at stored
      obtain rfl := Option.some.inj stored
      rw [found, Option.map_some]
    · rcases failed with same | gone
      · exact absurd (same ▸ stored) unindexed
      · rw [gone] at stored
        cases stored
  · rw [grown.index nodeId listed] at stored
    rw [grown.embeddings nodeId listed]
    exact faithful nodeId row live stored

theorem Grown.mirrors {sound : Prop} (grown : Grown sound ids before after) (holds : sound)
    (mirrors : Mirrors before) : Mirrors after := by
  intro nodeId live
  rw [grown.live] at live
  by_cases listed : nodeId ∈ ids
  · rcases grown.written nodeId listed with ⟨same, index⟩ | ⟨row, found, both | ⟨failed, -⟩⟩
    · rw [same, index]
      exact mirrors nodeId live
    · rw [found, both]
      rfl
    · exact absurd holds failed
  · rw [grown.embeddings nodeId listed, grown.index nodeId listed]
    exact mirrors nodeId live

/-! ## When nothing fails -/

structure Smooth (service : Service Id Blob) : Prop where
  encodes : ∀ turn texts, ∃ blobs, (service.batches turn).encode texts = some blobs ∧
    blobs.length = texts.length ∧ ∀ blob ∈ blobs, service.empty blob = false
  accepts : ∀ turn nodeId, (service.batches turn).accepts nodeId = true
  commits : ∀ turn, (service.batches turn).commits = true

theorem store_node_has {batch : Batch Id Blob} {node : Node Id} {blob : Blob} {id : Id}
    (has : id = node.id ∨ (graph.embeddings.find id).isSome = true) :
    ((storeNode service batch graph node blob).embeddings.find id).isSome = true := by
  rw [storeNode, Table.find_insert_or_replace]
  split
  · rfl
  · rename_i other
    exact has.resolve_left (Ne.symm other)

theorem store_rows_all (smooth : Smooth service) (turn : Nat) {nodes : List (Node Id)}
    {blobs : List Blob} (same : blobs.length = nodes.length)
    (solid : ∀ blob ∈ blobs, service.empty blob = false) (done : Nat × Graph Id Weight Blob) :
    (storeRows service (service.batches turn) nodes blobs done).1 = true ∧
      (storeRows service (service.batches turn) nodes blobs done).2.1 = done.1 + nodes.length ∧
      ∀ id, id ∈ nodes.map Node.id ∨ (done.2.embeddings.find id).isSome = true →
        ((storeRows service (service.batches turn) nodes blobs done).2.2.embeddings.find
          id).isSome = true := by
  induction nodes generalizing blobs done with
  | nil => exact ⟨rfl, rfl, fun id has => has.resolve_left List.not_mem_nil⟩
  | cons node nodes induction =>
      cases blobs with
      | nil => cases same
      | cons blob blobs =>
          have filled := solid blob List.mem_cons_self
          rw [storeRows, if_neg (by rw [filled]; exact Bool.false_ne_true),
            if_pos (smooth.accepts turn node.id)]
          obtain ⟨fine, count, has⟩ := induction (Nat.succ.inj same)
            (fun other later => solid other (List.mem_cons_of_mem _ later))
            (done.1 + 1, storeNode service (service.batches turn) done.2 node blob)
          refine ⟨fine, ?_, fun id listed => ?_⟩
          · rw [count, List.length_cons]
            omega
          · rw [List.map_cons, List.mem_cons, or_assoc] at listed
            rcases listed with here | later | old
            · exact has id (.inr (store_node_has (.inl here)))
            · exact has id (.inl later)
            · exact has id (.inr (store_node_has (.inr old)))

theorem store_batch_all (smooth : Smooth service) (turn : Nat) (nodes : List (Node Id))
    (progress : Progress Id Weight Blob) :
    (storeBatch service (service.batches turn) nodes progress).durable =
        (storeBatch service (service.batches turn) nodes progress).working ∧
      (storeBatch service (service.batches turn) nodes progress).embedded =
        progress.embedded + nodes.length ∧
      ∀ id, id ∈ nodes.map Node.id ∨ (progress.working.embeddings.find id).isSome = true →
        ((storeBatch service (service.batches turn) nodes progress).working.embeddings.find
          id).isSome = true := by
  obtain ⟨blobs, encoded, length, solid⟩ := smooth.encodes turn (nodes.map Node.content)
  rw [List.length_map] at length
  obtain ⟨fine, count, has⟩ := store_rows_all smooth turn length solid
    (progress.embedded, progress.working)
  rw [storeBatch, encoded]
  dsimp only
  rw [fine, smooth.commits, Bool.and_true, if_pos rfl]
  exact ⟨rfl, count, has⟩

theorem batches_all (smooth : Smooth service) (positive : 0 < batchSize) {fuel : Nat}
    (turn : Nat) {nodes : List (Node Id)} (enough : nodes.length ≤ fuel)
    {progress : Progress Id Weight Blob} (level : progress.durable = progress.working) :
    (embedBatches service batchSize fuel turn nodes progress).durable =
        (embedBatches service batchSize fuel turn nodes progress).working ∧
      (embedBatches service batchSize fuel turn nodes progress).embedded =
        progress.embedded + nodes.length ∧
      ∀ id, id ∈ nodes.map Node.id ∨ (progress.working.embeddings.find id).isSome = true →
        ((embedBatches service batchSize fuel turn nodes progress).working.embeddings.find
          id).isSome = true := by
  induction fuel generalizing turn nodes progress with
  | zero =>
      obtain rfl := List.length_eq_zero_iff.mp (Nat.le_zero.mp enough)
      exact ⟨level, rfl, fun id has => has.resolve_left List.not_mem_nil⟩
  | succ fuel induction =>
      cases nodes with
      | nil => exact ⟨level, rfl, fun id has => has.resolve_left List.not_mem_nil⟩
      | cons node nodes =>
          rw [embedBatches]
          have shorter : ((node :: nodes).drop batchSize).length ≤ fuel := by
            rw [List.length_drop]
            rw [List.length_cons] at enough ⊢
            omega
          have parts : ((node :: nodes).take batchSize).length +
              ((node :: nodes).drop batchSize).length = (node :: nodes).length := by
            rw [← List.length_append, List.take_append_drop]
          obtain ⟨flat, count, has⟩ := store_batch_all smooth turn
            ((node :: nodes).take batchSize) progress
          obtain ⟨ends, total, all⟩ := induction (turn + 1) shorter flat
          refine ⟨ends, by omega, fun id listed => all id ?_⟩
          rcases listed with waits | old
          · rw [← List.take_append_drop batchSize (node :: nodes), List.map_append,
              List.mem_append] at waits
            rcases waits with now | later
            · exact .inr (has id (.inl now))
            · exact .inl later
          · exact .inr (has id (.inr old))

/-! ## Results -/

theorem mem_nodes_to_embed {scan : Scan} {node : Node Id} :
    node ∈ nodesToEmbed scan graph ↔ node ∈ graph.nodes.rows ∧ waiting graph node = true := by
  rw [(nodes_to_embed_perm scan).mem_iff, List.mem_filter]

/-- Embedding, whatever fails: only waiting nodes get an embedding, no embedding is changed,
and the index never has another vector of a live node than the stored one. It goes on to
mirror the embeddings while its rows are written, and when nothing fails all are embedded. -/
theorem nodes_embedded (scan : Scan) (faithful : Faithful graph) :
    ∃ stats after, embedNodes scan service batchSize graph = (stats, after) ∧
      after.nodes = graph.nodes ∧ Faithful after ∧
      (∀ id row, graph.embeddings.find id = some row → after.embeddings.find id = some row) ∧
      (∀ id, after.embeddings.find id ≠ graph.embeddings.find id →
        ∃ node ∈ graph.nodes.rows, node.id = id ∧ waiting graph node = true) ∧
      (Indexes service → Mirrors graph → Mirrors after) ∧
      (0 < batchSize → Smooth service → stats.embedded = stats.totalNodes ∧
        ∀ node ∈ graph.nodes.rows, node.live = true → trimmed node.content = true →
          (after.embeddings.find node.id).isSome = true) := by
  have grown := @embed_nodes_grown _ _ _ _ service batchSize graph scan
  have absent : ∀ id ∈ (nodesToEmbed scan graph).map Node.id,
      graph.embeddings.find id = none := by
    intro id listed
    obtain ⟨node, waits, rfl⟩ := List.mem_map.mp listed
    have lacks := (mem_nodes_to_embed.mp waits).2
    rw [waiting, Bool.and_eq_true, Bool.and_eq_true] at lacks
    exact Option.isNone_iff_eq_none.mp lacks.1.1
  refine ⟨_, _, rfl, grown.nodes, grown.faithful absent faithful, ?_, ?_,
    fun indexes mirrors => grown.mirrors indexes mirrors, ?_⟩
  · intro id row stored
    have elsewhere : id ∉ (nodesToEmbed scan graph).map Node.id := by
      intro listed
      rw [absent id listed] at stored
      cases stored
    exact (grown.embeddings id elsewhere).trans stored
  · intro id changed
    have listed : id ∈ (nodesToEmbed scan graph).map Node.id :=
      not_not.mp fun out => changed (grown.embeddings id out)
    obtain ⟨node, waits, named⟩ := List.mem_map.mp listed
    obtain ⟨stored, lacks⟩ := mem_nodes_to_embed.mp waits
    exact ⟨node, stored, named, lacks⟩
  · intro positive smooth
    obtain ⟨flat, count, all⟩ := batches_all smooth positive 0 (le_refl _)
      (show ({ durable := graph, working := graph } : Progress Id Weight Blob).durable =
        ({ durable := graph, working := graph } : Progress Id Weight Blob).working from rfl)
    refine ⟨?_, fun node stored live text => ?_⟩
    · rw [Nat.zero_add] at count
      exact count
    · rw [← flat] at all
      refine all node.id ?_
      cases has : graph.embeddings.find node.id with
      | some row => exact .inr rfl
      | none =>
          refine .inl (List.mem_map_of_mem (mem_nodes_to_embed.mpr ⟨stored, ?_⟩))
          rw [waiting, has, live, text]
          rfl

def liner : Service Nat Int where
  model := str "line"
  empty _ := false
  batches _ :=
    { now := ""
      encode := fun texts => some (texts.map fun _ => 6)
      hasVec := true
      accepts := fun _ => true
      index := fun _ => .stored
      commits := true }

/-- A row of the first batch is refused, one of the second is only deleted from the index,
and the third is not encoded. -/
def clumsy : Service Nat Int where
  model := str "line"
  empty _ := false
  batches turn :=
    { now := ""
      encode := fun texts => if turn < 2 then some (texts.map fun _ => 6) else none
      hasVec := true
      accepts := fun id => decide (id ≠ 5)
      index := fun id => if id = 6 then .deleted else .stored
      commits := true }

/-- Five more memories, without a vector. -/
def pantry : Graph Nat Int Int :=
  { shelf with
    nodes := [4, 5, 6, 7, 8].foldl (fun nodes id => nodes.insertOrIgnore
      { id := id, content := str "milk", nodeType := str "fact" }) shelf.nodes }

theorem pantry_to_embed :
    nodesToEmbed asStored pantry = pantry.nodes.rows.filter (waiting pantry) :=
  List.mergeSort_of_pairwise (by decide)

theorem pantry_embedded :
    (∃ stats after, embedNodes asStored clumsy 2 pantry = (stats, after) ∧
      stats.totalNodes = 5 ∧ stats.embedded = 3 ∧ after.embeddings.find 5 = none ∧
      after.nodes = pantry.nodes ∧ Faithful after ∧
      (∀ id row, pantry.embeddings.find id = some row → after.embeddings.find id = some row) ∧
      ∀ id, after.embeddings.find id ≠ pantry.embeddings.find id →
        ∃ node ∈ pantry.nodes.rows, node.id = id ∧ waiting pantry node = true) ∧
    ∃ stats after, embedNodes asStored liner 2 pantry = (stats, after) ∧ Mirrors after ∧
      stats.embedded = stats.totalNodes ∧
      ∀ node ∈ pantry.nodes.rows, node.live = true → trimmed node.content = true →
        (after.embeddings.find node.id).isSome = true := by
  have faithful : Faithful pantry := faithful_of_rows (by decide)
  constructor
  · obtain ⟨stats, after, ran, nodes, kept, old, added, -, -⟩ :=
      @nodes_embedded _ _ _ _ clumsy 2 pantry asStored faithful
    have counts : (embedNodes asStored clumsy 2 pantry).1.totalNodes = 5 ∧
        (embedNodes asStored clumsy 2 pantry).1.embedded = 3 ∧
        (embedNodes asStored clumsy 2 pantry).2.embeddings.find 5 = none := by
      rw [embedNodes, pantry_to_embed]
      exact ⟨rfl, rfl, rfl⟩
    rw [ran] at counts
    exact ⟨stats, after, ran, counts.1, counts.2.1, counts.2.2, nodes, kept, old, added⟩
  · obtain ⟨stats, after, ran, -, -, -, -, mirrors, all⟩ :=
      @nodes_embedded _ _ _ _ liner 2 pantry asStored faithful
    have smooth : Smooth liner := by
      refine ⟨fun turn texts => ⟨_, rfl, List.length_map _, fun _ _ => rfl⟩, fun _ _ => rfl,
        fun _ => rfl⟩
    obtain ⟨count, has⟩ := all (by decide) smooth
    exact ⟨stats, after, ran, mirrors (fun _ => ⟨rfl, fun _ => rfl⟩)
      (mirrors_of_rows (by decide)), count, has⟩

/-- The index after the copies of some rows. -/
theorem find_backfilled {index : Id → IndexWrite} {rows : List (Embedding Id Blob)}
    (distinct : (rows.map Embedding.nodeId).Nodup) (id : Id) :
    (id ∉ rows.map Embedding.nodeId →
      (rows.foldl (backfillRow index) graph).vecEmbeddings.find id =
        graph.vecEmbeddings.find id) ∧
    ∀ row ∈ rows, row.nodeId = id →
      (rows.foldl (backfillRow index) graph).vecEmbeddings.find id =
        (writeVec (index id) id row.vector graph.vecEmbeddings).find id := by
  induction rows generalizing graph with
  | nil => exact ⟨fun _ => rfl, fun row listed => absurd listed List.not_mem_nil⟩
  | cons first rows induction =>
      obtain ⟨alone, apart⟩ := List.nodup_cons.mp distinct
      have rest := @induction (backfillRow index graph first) apart
      have moved : first.nodeId ≠ id →
          (backfillRow index graph first).vecEmbeddings.find id =
            graph.vecEmbeddings.find id := by
        intro other
        rw [backfillRow]
        exact (find_written _ _ _ _ _).trans (if_neg other)
      rw [List.foldl_cons]
      constructor
      · intro out
        rw [List.map_cons, List.mem_cons, not_or] at out
        rw [rest.1 out.2, moved (Ne.symm out.1)]
      · intro row listed named
        rcases List.mem_cons.mp listed with rfl | later
        · subst named
          rw [rest.1 alone, backfillRow]
        · have other : first.nodeId ≠ id := by
            rintro same
            exact alone (same ▸ named ▸ List.mem_map_of_mem later)
          rw [rest.2 row later named, find_written, find_written, if_pos rfl, if_pos rfl,
            moved other]

theorem backfilled_frame {index : Id → IndexWrite} (rows : List (Embedding Id Blob)) :
    (rows.foldl (backfillRow index) graph).nodes = graph.nodes ∧
      (rows.foldl (backfillRow index) graph).embeddings = graph.embeddings := by
  induction rows generalizing graph with
  | nil => exact ⟨rfl, rfl⟩
  | cons first rows induction => exact @induction (backfillRow index graph first)

/-- Backfilling gives the index no wrong vector, and when its writes succeed the index
mirrors the embeddings, whatever was missing before. -/
theorem backfill_mirrors (scan : Scan) (index : Id → IndexWrite) (faithful : Faithful graph) :
    (backfillVecIndex scan index graph).nodes = graph.nodes ∧
      (backfillVecIndex scan index graph).embeddings = graph.embeddings ∧
      Faithful (backfillVecIndex scan index graph) ∧
      ((∀ id, index id = .stored) → Mirrors (backfillVecIndex scan index graph)) := by
  have frame := @backfilled_frame _ _ _ _ graph index
    (scan.order (graph.embeddings.rows.filter fun row => isLive graph row.nodeId))
  have distinct : ((scan.order (graph.embeddings.rows.filter fun row =>
      isLive graph row.nodeId)).map Embedding.nodeId).Nodup := by
    rw [((scan.perm _).map _).nodup_iff]
    exact graph.embeddings.distinct.sublist (List.filter_sublist.map _)
  have same_live : ∀ id, isLive (backfillVecIndex scan index graph) id = isLive graph id := by
    intro id
    rw [isLive, isLive, backfillVecIndex, frame.1]
  have copied : ∀ id row, isLive graph id = true → graph.embeddings.find id = some row →
      (backfillVecIndex scan index graph).vecEmbeddings.find id =
        (writeVec (index id) id row.vector graph.vecEmbeddings).find id := by
    intro id row live found
    obtain ⟨stored, rfl⟩ := Table.find_eq_some.mp found
    exact (find_backfilled distinct row.nodeId).2 row
      (scan.mem.mpr (List.mem_filter.mpr ⟨stored, live⟩)) rfl
  have untouched : ∀ id, graph.embeddings.find id = none →
      (backfillVecIndex scan index graph).vecEmbeddings.find id =
        graph.vecEmbeddings.find id := by
    intro id absent
    refine (find_backfilled distinct id).1 fun listed => ?_
    obtain ⟨row, among, rfl⟩ := List.mem_map.mp listed
    have stored := (List.mem_filter.mp (scan.mem.mp among)).1
    rw [Table.find_of_mem stored] at absent
    cases absent
  refine ⟨frame.1, frame.2, ?_, ?_⟩
  · intro id vec live stored
    rw [same_live] at live
    rw [show (backfillVecIndex scan index graph).embeddings = graph.embeddings from frame.2]
    cases found : graph.embeddings.find id with
    | none =>
        rw [untouched id found] at stored
        have old := faithful id vec live stored
        rwa [found] at old
    | some row =>
        rw [copied id row live found, find_written, if_pos rfl] at stored
        cases result : index id with
        | kept =>
            rw [result] at stored
            have old := faithful id vec live stored
            rwa [found] at old
        | deleted =>
            rw [result] at stored
            cases stored
        | stored =>
            rw [result] at stored
            obtain rfl := Option.some.inj stored
            rfl
  · intro all id live
    rw [same_live] at live
    rw [show (backfillVecIndex scan index graph).embeddings = graph.embeddings from frame.2]
    cases found : graph.embeddings.find id with
    | none =>
        rw [untouched id found]
        cases indexed : graph.vecEmbeddings.find id with
        | none => rfl
        | some vec =>
            have old := faithful id vec live indexed
            rw [found] at old
            cases old
    | some row =>
        rw [copied id row live found, find_written, if_pos rfl, all]
        rfl

end

/-- The index was lost. -/
def bare : Graph Nat Int Int :=
  { shelf with vecEmbeddings := .empty }

theorem bare_backfilled :
    (backfillVecIndex asStored (fun _ => .stored) bare).nodes = bare.nodes ∧
      (backfillVecIndex asStored (fun _ => .stored) bare).embeddings = bare.embeddings ∧
      Faithful (backfillVecIndex asStored (fun _ => .stored) bare) ∧
      ((∀ id : Nat, (fun _ : Nat => IndexWrite.stored) id = .stored) →
        Mirrors (backfillVecIndex asStored (fun _ => .stored) bare)) :=
  backfill_mirrors asStored (fun _ => .stored) (faithful_of_rows (by decide))

end HermesCashew.VectorWrites
