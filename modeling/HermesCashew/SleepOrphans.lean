import HermesCashew.SleepPages

/-!
# Orphans

The nodes without an embedding and the embeddings without a row in the vector index, page by
page: a page is claimed or read, encoded or checked, and written in one transaction with a
savepoint for each node. Both tables get a vector or neither does, and the counters add up
whatever fails on the way.
-/

namespace HermesCashew.SleepOrphans

open HermesCashew.JsonText (Str str)
open HermesCashew.KeyedTable HermesCashew.ThoughtGraph
open HermesCashew.RotatingCursor HermesCashew.SleepPages

set_option autoImplicit false

variable {Weight Blob : Type}

/-! ## State -/

/-- What numpy tells of the bytes of a vector. -/
structure Codec (Blob : Type) where
  /-- The number of its floats, when the bytes are floats. -/
  dimension : Blob → Option Nat
  /-- Finite, and not all close to zero. -/
  usable : Blob → Bool

def Codec.valid (codec : Codec Blob) (expected : Nat) (blob : Blob) : Bool :=
  decide (codec.dimension blob = some expected) && codec.usable blob

structure Stats where
  writeFailed : Nat := 0
  vecUnavailable : Nat := 0
  ordinaryWritten : Nat := 0
  examined : Nat := 0
  capabilityMissing : Bool := false

structure Pass (Weight Blob : Type) where
  graph : Graph String Weight Blob
  cursors : StateEntry
  stats : Stats := {}
  /-- What the calls return, added up. -/
  embedded : Nat := 0
  /-- How many pages were asked for. -/
  turn : Nat := 0

inductive CommitResult where
  | committed
  | refused
  /-- It raises, although the transaction has been committed. -/
  | landed
  deriving DecidableEq, Repr

/-- What happens around one page. -/
structure Turn (Blob : Type) where
  now : String
  /-- Whether a page can be claimed. -/
  claims : Bool
  encode : List Str → Option (List Blob)
  begins : Bool
  /-- Whether both tables accept the rows of a node. -/
  accepts : String → Bool
  /-- Whether SQLite answers a node that they do not accept with the end of the transaction,
  as it does for `RAISE(ROLLBACK)` or a full disk. -/
  ends : String → Bool
  commit : CommitResult

structure Capability where
  client : Bool
  model : Option Str
  dimension : Option Int

/-- The model and the dimension, when all are given. -/
def Capability.identity (capability : Capability) : Option (Str × Nat) :=
  match capability.client, capability.model, capability.dimension with
  | true, some model, some dimension =>
      if model ≠ [] ∧ 0 < dimension then some (model, dimension.toNat) else none
  | _, _, _ => none

structure Setting (Blob : Type) where
  codec : Codec Blob
  model : Str
  expected : Nat
  vecAvailable : Bool
  capped : Bool
  batchSize : Nat
  turns : Nat → Turn Blob

structure Item (Blob : Type) where
  id : String
  blob : Blob
  model : Str

/-! ## A batch -/

def idOf (key : Key) : String := (ofLex key).2

def contentOf (graph : Graph String Weight Blob) (key : Key) : Str :=
  ((graph.nodes.find (idOf key)).map Node.content).getD []

/-- The items of a page without embeddings, unless what was encoded is rejected. -/
def ordinaryItems (setting : Setting Blob) (encode : List Str → Option (List Blob))
    (graph : Graph String Weight Blob) (keys : List Key) : Option (List (Item Blob)) :=
  match encode (keys.map (contentOf graph)) with
  | none => none
  | some blobs =>
      if blobs.length = keys.length ∧
          (blobs.all fun blob => setting.codec.valid setting.expected blob) = true then
        some (List.zipWith (fun key blob => ⟨idOf key, blob, setting.model⟩) keys blobs)
      else none

def repairItem (setting : Setting Blob) (graph : Graph String Weight Blob) (key : Key) :
    Option (Item Blob) :=
  match graph.embeddings.find (idOf key) with
  | none => none
  | some row =>
      if row.model ≠ [] ∧ row.model ≠ setting.model then none
      else if setting.codec.valid setting.expected row.vector then
        some ⟨row.nodeId, row.vector, if row.model = [] then setting.model else row.model⟩
      else none

def itemsOf (setting : Setting Blob) (kind : OrphanKind) (turn : Turn Blob)
    (graph : Graph String Weight Blob) (keys : List Key) : Option (List (Item Blob) × Nat) :=
  match kind with
  | .ordinary => (ordinaryItems setting turn.encode graph keys).map fun items => (items, 0)
  | .repair =>
      let items := keys.filterMap (repairItem setting graph)
      some (items, keys.length - items.length)

/-- The rows that `write_pair` inserts. -/
def insertItem (vecAvailable : Bool) (now : String) (graph : Graph String Weight Blob)
    (item : Item Blob) : Graph String Weight Blob :=
  { graph with
    embeddings := graph.embeddings.insertOrReplace ⟨item.id, item.blob, item.model, now⟩
    vecEmbeddings :=
      if vecAvailable then graph.vecEmbeddings.insertOrReplace ⟨item.id, item.blob⟩
      else graph.vecEmbeddings }

structure Batch (Weight Blob : Type) where
  graph : Graph String Weight Blob
  written : Nat := 0
  /-- The transaction of `BEGIN IMMEDIATE` has not been ended. -/
  isOpen : Bool := true

/-- `write_pair`. Once the transaction has been ended, each savepoint is one of its own, which
its release commits. -/
def writePair (vecAvailable : Bool) (turn : Turn Blob) (begun : Graph String Weight Blob)
    (batch : Batch Weight Blob) (item : Item Blob) : Batch Weight Blob :=
  if turn.accepts item.id then
    { batch with
      graph := insertItem vecAvailable turn.now batch.graph item
      written := batch.written + 1 }
  else if turn.ends item.id && batch.isOpen then { batch with graph := begun, isOpen := false }
  else batch

def writePairs (vecAvailable : Bool) (turn : Turn Blob) (items : List (Item Blob))
    (graph : Graph String Weight Blob) : Batch Weight Blob :=
  items.foldl (writePair vecAvailable turn graph) { graph := graph }

def countFailed (failed : Nat) (pass : Pass Weight Blob) : Pass Weight Blob :=
  { pass with stats := { pass.stats with writeFailed := pass.stats.writeFailed + failed } }

def countWritten (vecAvailable : Bool) (written : Nat) (pass : Pass Weight Blob) :
    Pass Weight Blob :=
  { pass with
    stats :=
      { pass.stats with
        ordinaryWritten := pass.stats.ordinaryWritten + written
        vecUnavailable := pass.stats.vecUnavailable + if vecAvailable then 0 else written }
    embedded := pass.embedded + if vecAvailable then written else 0 }

/-- `commit_batch`. -/
def commitBatch (vecAvailable : Bool) (turn : Turn Blob) (items : List (Item Blob))
    (pass : Pass Weight Blob) : Bool × Pass Weight Blob :=
  if items.isEmpty then (true, pass)
  else if !turn.begins then (false, countFailed items.length pass)
  else
    let wrote := writePairs vecAvailable turn items pass.graph
    -- Without a transaction `conn.commit()` does nothing.
    match if wrote.isOpen then turn.commit else .committed with
    | .committed =>
        (true, countWritten vecAvailable wrote.written
          (countFailed (items.length - wrote.written) { pass with graph := wrote.graph }))
    | .refused => (false, countFailed items.length pass)
    | .landed => (false, countFailed items.length { pass with graph := wrote.graph })

/-! ## Pages -/

def atBoundary (cursor : Option Key) (offer : Offer Key) : Bool :=
  (cursor.any fun key => decide ((offer.eligible.filter (isAfter key)).take offer.limit = [])) ||
    decide ((orphanPage cursor offer).length < offer.limit)

def aheadOf (kind : OrphanKind) (graph : Graph String Weight Blob) : Option Key → List Key
  | none => orphanKeys kind graph
  | some cursor => (orphanKeys kind graph).filter (isAfter cursor)

/-- The next page: its keys, whether it is the last, and the cursor of this call. It raises
when the page cannot be claimed. -/
def nextPage (setting : Setting Blob) (kind : OrphanKind) (take : Nat) (cursor : Option Key)
    (pass : Pass Weight Blob) : Option ((List Key × Bool × Option Key) × Pass Weight Blob) :=
  if setting.capped then
    match selectOrphanPage kind take (setting.turns pass.turn).claims pass.graph pass.cursors with
    | (none, _) => none
    | (some keys, cursors) =>
        some ((keys, atBoundary ((cursorIn pass.cursors kind.cursorName).map Prod.fst)
          ⟨take, orphanKeys kind pass.graph⟩, cursor), { pass with cursors := cursors })
  else
    let keys := (aheadOf kind pass.graph cursor).take take
    some ((keys, false, keys.getLast?.or cursor), pass)

/-- How a phase, or the whole call, ends. -/
inductive Ended (Weight Blob : Type) where
  | finished (remaining : Option Nat) (pass : Pass Weight Blob)
  | raised (pass : Pass Weight Blob)
  | unfinished

def takeOf (setting : Setting Blob) (remaining : Option Nat) : Nat :=
  (remaining.map (min setting.batchSize)).getD setting.batchSize

def phaseLoop (setting : Setting Blob) (kind : OrphanKind) :
    Nat → Option Nat → Option Key → Pass Weight Blob → Ended Weight Blob
  | 0, _, _, _ => .unfinished
  | fuel + 1, remaining, cursor, pass =>
      if remaining = some 0 then .finished remaining pass
      else
        let turn := setting.turns pass.turn
        match nextPage setting kind (takeOf setting remaining) cursor pass with
        | none => .raised pass
        | some ((keys, boundary, cursor), pass) =>
            if keys = [] then .finished remaining pass
            else
              let remaining := remaining.map fun left => left - keys.length
              let examined :=
                { pass with
                  turn := pass.turn + 1
                  stats := { pass.stats with examined := pass.stats.examined + keys.length } }
              match itemsOf setting kind turn pass.graph keys with
              | none => .finished remaining (countFailed keys.length examined)
              | some (items, invalid) =>
                  let wrote := commitBatch setting.vecAvailable turn items
                    (countFailed invalid examined)
                  if wrote.1 && !boundary then phaseLoop setting kind fuel remaining cursor wrote.2
                  else .finished remaining wrote.2

def phases (setting : Setting Blob) (fuel : Nat) :
    List OrphanKind → Option Nat → Pass Weight Blob → Ended Weight Blob
  | [], remaining, pass => .finished remaining pass
  | kind :: rest, remaining, pass =>
      match phaseLoop setting kind fuel remaining none pass with
      | .finished remaining pass => phases setting fuel rest remaining pass
      | .raised pass => .raised pass
      | .unfinished => .unfinished

/-- The arguments of a call. -/
structure Request (Blob : Type) where
  codec : Codec Blob
  capability : Capability
  limit : Option Nat
  batchSize : Nat
  vecAvailable : Bool
  /-- Whether the order of the phases can be claimed. -/
  claimsOrder : Bool
  turns : Nat → Turn Blob

def Request.setting (request : Request Blob) (identity : Str × Nat) : Setting Blob where
  codec := request.codec
  model := identity.1
  expected := identity.2
  vecAvailable := request.vecAvailable
  capped := request.limit.isSome
  batchSize := request.batchSize
  turns := request.turns

/-- More pages than there can be. -/
def Request.fuel (request : Request Blob) (graph : Graph String Weight Blob) : Nat :=
  (request.limit.getD graph.nodes.rows.length) + 1

def noOrphans (vecAvailable : Bool) (graph : Graph String Weight Blob) : Bool :=
  (orphanKeys .ordinary graph).isEmpty &&
    (!vecAvailable || (orphanKeys .repair graph).isEmpty)

/-- `_embed_orphans`. -/
def embedOrphans (request : Request Blob) (pass : Pass Weight Blob) : Ended Weight Blob :=
  if request.batchSize = 0 ∨ 100 < request.batchSize then .raised pass
  else if request.limit = some 0 then .finished request.limit pass
  else if noOrphans request.vecAvailable pass.graph then .finished request.limit pass
  else
    match request.capability.identity with
    | none =>
        .finished request.limit { pass with stats := { pass.stats with capabilityMissing := true } }
    | some identity =>
        match claimOrphanPhaseOrder request.limit.isSome request.vecAvailable request.claimsOrder
            pass.cursors with
        | (none, _) => .raised pass
        | (some order, cursors) =>
            phases (request.setting identity) (request.fuel pass.graph) order request.limit
              { pass with cursors := cursors }

/-! ## The orphans of a graph -/

section

variable {graph : Graph String Weight Blob} {kind : OrphanKind} {key : Key} {id : String}

theorem mem_orphan_keys :
    key ∈ orphanKeys kind graph ↔
      ∃ node, graph.nodes.find (idOf key) = some node ∧ orphaned graph node kind = true ∧
        keyOf node = key := by
  rw [orphanKeys, inOrder, List.mem_mergeSort, List.mem_map]
  constructor
  · rintro ⟨node, listed, rfl⟩
    obtain ⟨stored, lacks⟩ := List.mem_filter.mp listed
    exact ⟨node, Table.find_of_mem stored, lacks, rfl⟩
  · rintro ⟨node, found, lacks, same⟩
    exact ⟨node, List.mem_filter.mpr ⟨(Table.find_eq_some.mp found).1, lacks⟩, same⟩

theorem orphan_ids_nodup : ((orphanKeys kind graph).map idOf).Nodup := by
  have named : ((graph.nodes.rows.filter fun node => orphaned graph node kind).map
      Node.id).Nodup :=
    graph.nodes.distinct.sublist (List.filter_sublist.map Node.id)
  rw [orphanKeys, inOrder, ((List.mergeSort_perm _ _).map idOf).nodup_iff, List.map_map]
  exact named

theorem orphan_keys_sorted : (orphanKeys kind graph).Pairwise (· < ·) :=
  keys_in_order graph _

end

/-! ## What is written -/

/-- No embedding, or with a vector index no row in it. -/
def Lacking (vecAvailable : Bool) (graph : Graph String Weight Blob) (id : String) : Prop :=
  graph.embeddings.find id = none ∨
    (vecAvailable = true ∧ graph.vecEmbeddings.find id = none)

/-- A valid vector in both tables, the one that was there if one was. -/
def Whole (setting : Setting Blob) (before after : Graph String Weight Blob) (id : String) :
    Prop :=
  ∃ row, after.embeddings.find id = some row ∧
    setting.codec.valid setting.expected row.vector = true ∧
    (∀ old, before.embeddings.find id = some old → row.vector = old.vector) ∧
    after.vecEmbeddings.find id =
      if setting.vecAvailable then some ⟨id, row.vector⟩ else before.vecEmbeddings.find id

structure Wrote (setting : Setting Blob) (before after : Graph String Weight Blob)
    (ids : List String) : Prop where
  nodes : after.nodes = before.nodes
  edges : after.edges = before.edges
  decayAudit : after.decayAudit = before.decayAudit
  distinct : ids.Nodup
  lacking : ∀ id ∈ ids, Lacking setting.vecAvailable before id
  live : ∀ id ∈ ids, ∃ node, before.nodes.find id = some node ∧ node.live = true
  whole : ∀ id ∈ ids, Whole setting before after id
  others : ∀ id, id ∉ ids → after.embeddings.find id = before.embeddings.find id ∧
    after.vecEmbeddings.find id = before.vecEmbeddings.find id

section

variable {setting : Setting Blob} {turn : Turn Blob}
  {before middle after graph : Graph String Weight Blob} {first second ids : List String}
  {id : String}

theorem wrote_nothing (setting : Setting Blob) (graph : Graph String Weight Blob) :
    Wrote setting graph graph [] :=
  ⟨rfl, rfl, rfl, List.nodup_nil, fun _ listed => absurd listed List.not_mem_nil,
    fun _ listed => absurd listed List.not_mem_nil,
    fun _ listed => absurd listed List.not_mem_nil, fun _ _ => ⟨rfl, rfl⟩⟩

theorem Wrote.supplied (wrote : Wrote setting before after ids) (listed : id ∈ ids) :
    ¬Lacking setting.vecAvailable after id := by
  obtain ⟨row, stored, -, -, indexed⟩ := wrote.whole id listed
  rintro (missing | ⟨available, missing⟩)
  · rw [stored] at missing
    cases missing
  · rw [available, if_pos rfl] at indexed
    rw [indexed] at missing
    cases missing

theorem Wrote.unchanged (wrote : Wrote setting before after ids)
    (lacking : Lacking setting.vecAvailable after id) :
    id ∉ ids ∧ after.embeddings.find id = before.embeddings.find id ∧
      after.vecEmbeddings.find id = before.vecEmbeddings.find id := by
  have other : id ∉ ids := fun listed => wrote.supplied listed lacking
  exact ⟨other, wrote.others id other⟩

theorem Wrote.was_lacking (wrote : Wrote setting before after ids)
    (lacking : Lacking setting.vecAvailable after id) :
    Lacking setting.vecAvailable before id := by
  obtain ⟨-, stored, indexed⟩ := wrote.unchanged lacking
  rwa [Lacking, stored, indexed] at lacking

/-- What lacked a vector in between is not among those written before. -/
theorem Wrote.trans (one : Wrote setting before middle first)
    (two : Wrote setting middle after second) : Wrote setting before after (first ++ second) := by
  have apart : ∀ id ∈ second, id ∉ first :=
    fun id listed => (one.unchanged (two.lacking id listed)).1
  refine ⟨two.nodes.trans one.nodes, two.edges.trans one.edges,
    two.decayAudit.trans one.decayAudit, ?_, ?_, ?_, ?_, ?_⟩
  · rw [List.nodup_append']
    exact ⟨one.distinct, two.distinct, fun id early late => apart id late early⟩
  · intro id listed
    rcases List.mem_append.mp listed with early | late
    · exact one.lacking id early
    · exact one.was_lacking (two.lacking id late)
  · intro id listed
    rcases List.mem_append.mp listed with early | late
    · exact one.live id early
    · have live := two.live id late
      rwa [one.nodes] at live
  · intro id listed
    rcases List.mem_append.mp listed with early | late
    · have later : id ∉ second := fun late => apart id late early
      obtain ⟨stored, indexed⟩ := two.others id later
      obtain ⟨row, found, valid, kept, vec⟩ := one.whole id early
      exact ⟨row, stored.trans found, valid, kept, indexed.trans vec⟩
    · obtain ⟨stored, indexed⟩ := one.others id (apart id late)
      obtain ⟨row, found, valid, kept, vec⟩ := two.whole id late
      refine ⟨row, found, valid, ?_, ?_⟩
      · rwa [stored] at kept
      · rwa [indexed] at vec
  · intro id other
    rw [List.mem_append, not_or] at other
    obtain ⟨stored, indexed⟩ := two.others id other.2
    obtain ⟨early_stored, early_indexed⟩ := one.others id other.1
    exact ⟨stored.trans early_stored, indexed.trans early_indexed⟩

/-- An item whose node lacks what it brings. -/
structure Fits (setting : Setting Blob) (graph : Graph String Weight Blob) (item : Item Blob) :
    Prop where
  lacking : Lacking setting.vecAvailable graph item.id
  live : ∃ node, graph.nodes.find item.id = some node ∧ node.live = true
  valid : setting.codec.valid setting.expected item.blob = true
  kept : ∀ old, graph.embeddings.find item.id = some old → item.blob = old.vector

theorem insert_item_wrote {item : Item Blob} (fits : Fits setting graph item) (now : String) :
    Wrote setting graph (insertItem setting.vecAvailable now graph item) [item.id] := by
  refine ⟨rfl, rfl, rfl, List.nodup_singleton _, ?_, ?_, ?_, ?_⟩
  · intro id listed
    rw [List.mem_singleton.mp listed]
    exact fits.lacking
  · intro id listed
    rw [List.mem_singleton.mp listed]
    exact fits.live
  · intro id listed
    rw [List.mem_singleton.mp listed]
    refine ⟨⟨item.id, item.blob, item.model, now⟩, ?_, fits.valid, fits.kept, ?_⟩
    · rw [insertItem, Table.find_insert_or_replace, if_pos rfl]
    · rw [insertItem]
      dsimp only
      split
      · rw [Table.find_insert_or_replace, if_pos rfl]
      · rfl
  · intro id other
    have differ : item.id ≠ id := fun same => other (List.mem_singleton.mpr same.symm)
    rw [insertItem]
    dsimp only
    constructor
    · rw [Table.find_insert_or_replace, if_neg differ]
    · split
      · rw [Table.find_insert_or_replace, if_neg differ]
      · rfl

theorem Fits.later {item : Item Blob} (fits : Fits setting before item)
    (wrote : Wrote setting before after ids) (other : item.id ∉ ids) :
    Fits setting after item := by
  obtain ⟨stored, indexed⟩ := wrote.others item.id other
  have lacking := fits.lacking
  refine ⟨?_, ?_, fits.valid, ?_⟩
  · rwa [Lacking, stored, indexed]
  · rw [wrote.nodes]
    exact fits.live
  · rw [stored]
    exact fits.kept

/-- No node's failure ends a transaction. -/
def Calm (turn : Turn Blob) : Prop :=
  ∀ id, turn.accepts id = false → turn.ends id = false

/-- The next node: it is written, or it is not, or what was written before it is gone. -/
theorem write_pair_cases (vecAvailable : Bool) (turn : Turn Blob)
    (begun : Graph String Weight Blob) (batch : Batch Weight Blob) (item : Item Blob) :
    (turn.accepts item.id = true ∧ writePair vecAvailable turn begun batch item =
      { batch with
        graph := insertItem vecAvailable turn.now batch.graph item
        written := batch.written + 1 }) ∨
    (turn.accepts item.id = false ∧ writePair vecAvailable turn begun batch item = batch) ∨
    (turn.accepts item.id = false ∧ turn.ends item.id = true ∧
      writePair vecAvailable turn begun batch item =
        { batch with graph := begun, isOpen := false }) := by
  rw [writePair]
  split
  · rename_i accepted
    exact .inl ⟨accepted, rfl⟩
  · rename_i refused
    have refused := Bool.eq_false_iff.mpr refused
    split
    · rename_i ended
      exact .inr (.inr ⟨refused, (Bool.and_eq_true _ _ ▸ ended).1, rfl⟩)
    · exact .inr (.inl ⟨refused, rfl⟩)

/-- Of the nodes counted as written, those of `ids` are there, and `lost` are not. -/
structure Holds (setting : Setting Blob) (turn : Turn Blob) (begun : Graph String Weight Blob)
    (batch : Batch Weight Blob) (done ids : List String) (lost : Nat) : Prop where
  wrote : Wrote setting begun batch.graph ids
  among : ids ⊆ done
  counted : batch.written = ids.length + lost
  few : batch.written ≤ done.length
  calm : Calm turn → lost = 0 ∧ ids = done.filter turn.accepts

theorem write_pair_holds {batch : Batch Weight Blob} {item : Item Blob} {done : List String}
    {lost : Nat} (holds : Holds setting turn graph batch done ids lost)
    (fits : Fits setting graph item) (fresh : item.id ∉ done) :
    ∃ more gone, Holds setting turn graph (writePair setting.vecAvailable turn graph batch item)
      (done ++ [item.id]) more gone := by
  have few := holds.few
  have wider : ids ⊆ done ++ [item.id] := fun id listed =>
    List.mem_append_left _ (holds.among listed)
  rcases write_pair_cases setting.vecAvailable turn graph batch item with
    ⟨accepted, same⟩ | ⟨refused, same⟩ | ⟨refused, ended, same⟩
  · rw [same]
    have later := fits.later holds.wrote fun listed => fresh (holds.among listed)
    refine ⟨ids ++ [item.id], lost, holds.wrote.trans (insert_item_wrote later turn.now), ?_, ?_,
      ?_, ?_⟩
    · exact List.append_subset.mpr ⟨wider, List.subset_append_right _ _⟩
    · have counted := holds.counted
      rw [List.length_append, List.length_singleton]
      dsimp only
      omega
    · rw [List.length_append, List.length_singleton]
      exact Nat.succ_le_succ few
    · intro calm
      obtain ⟨none_lost, named⟩ := holds.calm calm
      exact ⟨none_lost, by rw [List.filter_append, ← named, List.filter_singleton, accepted]; rfl⟩
  · rw [same]
    refine ⟨ids, lost, holds.wrote, wider, holds.counted, ?_, ?_⟩
    · rw [List.length_append]
      exact few.trans (Nat.le_add_right _ _)
    · intro calm
      obtain ⟨none_lost, named⟩ := holds.calm calm
      exact ⟨none_lost, by
        rw [List.filter_append, ← named, List.filter_singleton, refused]
        simp⟩
  · rw [same]
    refine ⟨[], batch.written, wrote_nothing _ _, List.nil_subset _, (Nat.zero_add _).symm, ?_, ?_⟩
    · rw [List.length_append]
      exact few.trans (Nat.le_add_right _ _)
    · intro calm
      rw [calm item.id refused] at ended
      cases ended

theorem write_pairs_hold {items : List (Item Blob)} {batch : Batch Weight Blob}
    {done : List String} {lost : Nat} (holds : Holds setting turn graph batch done ids lost)
    (fit : ∀ item ∈ items, Fits setting graph item)
    (distinct : (done ++ items.map Item.id).Nodup) :
    ∃ more gone, Holds setting turn graph
      (items.foldl (writePair setting.vecAvailable turn graph) batch)
      (done ++ items.map Item.id) more gone := by
  induction items generalizing batch done ids lost with
  | nil =>
      rw [List.map_nil, List.append_nil]
      exact ⟨ids, lost, holds⟩
  | cons item rest induction =>
      have fresh : item.id ∉ done := fun listed =>
        (List.nodup_append'.mp distinct).2.2 listed List.mem_cons_self
      obtain ⟨more, gone, next⟩ :=
        write_pair_holds holds (fit item List.mem_cons_self) fresh
      have apart : done ++ (item :: rest).map Item.id =
          (done ++ [item.id]) ++ rest.map Item.id := by simp
      rw [apart] at distinct ⊢
      exact induction next (fun other listed => fit other (List.mem_cons_of_mem _ listed)) distinct

theorem write_pairs_wrote {items : List (Item Blob)} (turn : Turn Blob)
    (fit : ∀ item ∈ items, Fits setting graph item) (distinct : (items.map Item.id).Nodup) :
    ∃ ids lost, Holds setting turn graph (writePairs setting.vecAvailable turn items graph)
      (items.map Item.id) ids lost := by
  have begins : Holds setting turn graph { graph := graph } [] [] 0 :=
    ⟨wrote_nothing _ _, List.nil_subset _, rfl, Nat.le_refl 0, fun _ => ⟨rfl, rfl⟩⟩
  exact write_pairs_hold begins fit distinct

/-! ## What a page holds -/

variable {kind : OrphanKind} {keys : List Key} {items : List (Item Blob)}
  {invalid : Nat}

theorem orphan_lacking (indexed : kind = .repair → setting.vecAvailable = true) {key : Key}
    (listed : key ∈ orphanKeys kind graph) :
    Lacking setting.vecAvailable graph (idOf key) ∧
      ∃ node, graph.nodes.find (idOf key) = some node ∧ node.live = true := by
  obtain ⟨node, found, lacks, -⟩ := mem_orphan_keys.mp listed
  have named : node.id = idOf key := (Table.find_eq_some.mp found).2
  cases kind with
  | ordinary =>
      simp only [orphaned, named, Bool.and_eq_true, Option.isNone_iff_eq_none] at lacks
      exact ⟨.inl lacks.1.1, node, found, lacks.1.2⟩
  | repair =>
      simp only [orphaned, named, Bool.and_eq_true, Option.isNone_iff_eq_none] at lacks
      exact ⟨.inr ⟨indexed rfl, lacks.1.2⟩, node, found, lacks.2⟩

theorem ordinary_items_fit {encode : List Str → Option (List Blob)}
    (among : ∀ key ∈ keys, key ∈ orphanKeys .ordinary graph)
    (gathered : ordinaryItems setting encode graph keys = some items) :
    items.map Item.id = keys.map idOf ∧ ∀ item ∈ items, Fits setting graph item := by
  unfold ordinaryItems at gathered
  split at gathered
  · cases gathered
  · rename_i blobs _
    split at gathered
    · rename_i shaped
      obtain rfl := Option.some.inj gathered
      obtain ⟨sized, valid⟩ := shaped
      constructor
      · rw [List.map_zipWith]
        apply List.ext_getElem
        · rw [List.length_zipWith, List.length_map, sized, Nat.min_self]
        · intro index _ _
          rw [List.getElem_zipWith, List.getElem_map]
      · intro item listed
        obtain ⟨index, short, rfl⟩ := List.getElem_of_mem listed
        rw [List.length_zipWith, sized, Nat.min_self] at short
        rw [List.getElem_zipWith]
        have orphan := among _ (List.getElem_mem short)
        obtain ⟨node, found, lacks, -⟩ := mem_orphan_keys.mp orphan
        have named : node.id = idOf keys[index] := (Table.find_eq_some.mp found).2
        simp only [orphaned, named, Bool.and_eq_true, Option.isNone_iff_eq_none] at lacks
        refine ⟨.inl lacks.1.1, ⟨node, found, lacks.1.2⟩, ?_, ?_⟩
        · exact List.all_eq_true.mp valid _ (List.getElem_mem _)
        · intro old stored
          rw [lacks.1.1] at stored
          cases stored
    · cases gathered

theorem repair_items_fit (available : setting.vecAvailable = true)
    (among : ∀ key ∈ keys, key ∈ orphanKeys .repair graph) :
    ((keys.filterMap (repairItem setting graph)).map Item.id).Sublist (keys.map idOf) ∧
      ∀ item ∈ keys.filterMap (repairItem setting graph), Fits setting graph item := by
  have made : ∀ {key : Key} {item : Item Blob}, repairItem setting graph key = some item →
      ∃ row, graph.embeddings.find (idOf key) = some row ∧ item.id = idOf key ∧
        item.blob = row.vector ∧ setting.codec.valid setting.expected row.vector = true := by
    intro key item repaired
    unfold repairItem at repaired
    split at repaired
    · cases repaired
    · rename_i row found
      split at repaired
      · cases repaired
      · split at repaired
        · rename_i valid
          obtain rfl := Option.some.inj repaired
          exact ⟨row, found, (Table.find_eq_some.mp found).2, rfl, valid⟩
        · cases repaired
  constructor
  · clear among
    induction keys with
    | nil => exact List.Sublist.refl _
    | cons key rest induction =>
        rw [List.filterMap_cons]
        split
        · exact induction.cons _
        · rename_i item repaired
          obtain ⟨-, -, named, -⟩ := made repaired
          rw [List.map_cons, List.map_cons, named]
          exact induction.cons_cons _
  · intro item listed
    obtain ⟨key, there, repaired⟩ := List.mem_filterMap.mp listed
    obtain ⟨row, found, named, same, valid⟩ := made repaired
    obtain ⟨lacking, live⟩ := @orphan_lacking _ _ setting graph .repair (fun _ => available) key
      (among key there)
    rw [← named] at lacking live found
    refine ⟨lacking, live, same ▸ valid, ?_⟩
    intro old stored
    rw [found] at stored
    rw [same, Option.some.inj stored]

/-- The items of a page fit, and with the invalid ones are as many as its keys. -/
theorem items_fit (indexed : kind = .repair → setting.vecAvailable = true)
    (among : keys.Sublist (orphanKeys kind graph))
    (gathered : itemsOf setting kind turn graph keys = some (items, invalid)) :
    (∀ item ∈ items, Fits setting graph item) ∧ (items.map Item.id).Nodup ∧
      items.length + invalid = keys.length := by
  have distinct : (keys.map idOf).Nodup := orphan_ids_nodup.sublist (among.map idOf)
  have member : ∀ key ∈ keys, key ∈ orphanKeys kind graph := fun key there => among.subset there
  cases kind with
  | ordinary =>
      simp only [itemsOf, Option.map_eq_some_iff] at gathered
      obtain ⟨found, gathered, same⟩ := gathered
      obtain ⟨rfl, rfl⟩ := Prod.mk.inj same
      obtain ⟨named, fits⟩ := ordinary_items_fit member gathered
      refine ⟨fits, named ▸ distinct, ?_⟩
      have sizes := congrArg List.length named
      rw [List.length_map, List.length_map] at sizes
      rw [sizes, Nat.add_zero]
  | repair =>
      obtain ⟨rfl, rfl⟩ := Prod.mk.inj (Option.some.inj gathered)
      obtain ⟨named, fits⟩ := repair_items_fit (indexed rfl) member
      refine ⟨fits, distinct.sublist named, ?_⟩
      have fewer := List.length_filterMap_le (repairItem setting graph) keys
      omega

/-! ## The counters of a batch -/

/-- What came of some pages: the ids that got their vectors, those of a commit that raised and
landed, which are hidden from the counters, and how many nodes are counted as written that
SQLite has rolled back with their transaction. -/
structure Account (setting : Setting Blob) (before after : Pass Weight Blob) (ids : List String)
    (hidden lost : Nat) : Prop where
  wrote : Wrote setting before.graph after.graph ids
  written : after.stats.ordinaryWritten + hidden =
    before.stats.ordinaryWritten + ids.length + lost
  balanced : before.stats.ordinaryWritten + before.stats.writeFailed + after.stats.examined =
    before.stats.examined + after.stats.ordinaryWritten + after.stats.writeFailed
  parted : after.embedded + after.stats.vecUnavailable + before.stats.ordinaryWritten =
    before.embedded + before.stats.vecUnavailable + after.stats.ordinaryWritten
  seen : (∀ number, (setting.turns number).commit ≠ .landed) → hidden = 0
  kept : (∀ number, Calm (setting.turns number)) → lost = 0

theorem Account.trans {start between pass : Pass Weight Blob} {hidden more lost gone : Nat}
    (one : Account setting start between first hidden lost)
    (two : Account setting between pass second more gone) :
    Account setting start pass (first ++ second) (hidden + more) (lost + gone) := by
  refine ⟨one.wrote.trans two.wrote, ?_, ?_, ?_, ?_, ?_⟩
  · have early := one.written
    have late := two.written
    rw [List.length_append]
    omega
  · have early := one.balanced
    have late := two.balanced
    omega
  · have early := one.parted
    have late := two.parted
    omega
  · intro honest
    rw [one.seen honest, two.seen honest]
  · intro calm
    rw [one.kept calm, two.kept calm]

theorem account_nothing (setting : Setting Blob) (pass : Pass Weight Blob) (cursors : StateEntry) :
    Account setting pass { pass with cursors := cursors } [] 0 0 := by
  refine ⟨wrote_nothing _ _, rfl, ?_, rfl, fun _ => rfl, fun _ => rfl⟩
  dsimp only
  omega

section

variable {start pass : Pass Weight Blob} {seen : Nat}

structure Read (start pass : Pass Weight Blob) (size seen : Nat) : Prop where
  graph : start.graph = pass.graph
  stats : pass.stats = { start.stats with
    examined := start.stats.examined + (size + seen)
    writeFailed := start.stats.writeFailed + seen }
  embedded : pass.embedded = start.embedded

/-- A batch of which nothing is written. -/
theorem Read.failed (read : Read start pass items.length seen) :
    Account setting start (countFailed items.length pass) [] 0 0 := by
  have counted := read.stats
  refine ⟨?_, ?_, ?_, ?_, fun _ => rfl, fun _ => rfl⟩
  · rw [read.graph]
    exact wrote_nothing _ _
  · simp [countFailed, counted]
  · simp only [countFailed, counted]
    omega
  · simp only [countFailed, counted, read.embedded]

theorem Read.committed (read : Read start pass items.length seen) {number : Nat} {lost : Nat}
    {batch : Batch Weight Blob}
    (holds : Holds setting (setting.turns number) pass.graph batch (items.map Item.id) ids lost) :
    Account setting start (countWritten setting.vecAvailable batch.written
      (countFailed (items.length - batch.written) { pass with graph := batch.graph }))
      ids 0 lost := by
  have stats := read.stats
  have counted := holds.counted
  have few := holds.few
  rw [List.length_map] at few
  refine ⟨?_, ?_, ?_, ?_, fun _ => rfl, fun calm => (holds.calm (calm number)).1⟩
  · rw [read.graph]
    exact holds.wrote
  · simp only [countWritten, countFailed, stats]
    omega
  · simp only [countWritten, countFailed, stats]
    omega
  · simp only [countWritten, countFailed, stats, read.embedded]
    cases setting.vecAvailable
    · simp only [Bool.false_eq_true, if_false]
      omega
    · simp only [if_true]
      omega

/-- The commit raises, and the nodes are there all the same. -/
theorem Read.landed (read : Read start pass items.length seen) {number : Nat} {lost : Nat}
    {batch : Batch Weight Blob}
    (holds : Holds setting (setting.turns number) pass.graph batch (items.map Item.id) ids lost)
    (landed : (setting.turns number).commit = .landed) :
    Account setting start (countFailed items.length { pass with graph := batch.graph })
      ids ids.length 0 := by
  have stats := read.stats
  refine ⟨?_, ?_, ?_, ?_, fun honest => absurd landed (honest number), fun _ => rfl⟩
  · rw [read.graph]
    exact holds.wrote
  · simp [countFailed, stats]
  · simp only [countFailed, stats]
    omega
  · simp only [countFailed, stats, read.embedded]

/-- The rows of a page are counted once each, as written or as failed. -/
theorem page_accounted (number : Nat) (read : Read start pass items.length seen)
    (fit : ∀ item ∈ items, Fits setting pass.graph item)
    (distinct : (items.map Item.id).Nodup) :
    ∃ ids hidden lost, Account setting start
      (commitBatch setting.vecAvailable (setting.turns number) items pass).2 ids hidden lost := by
  obtain ⟨ids, lost, holds⟩ := write_pairs_wrote (setting.turns number) fit distinct
  unfold commitBatch
  split
  · rename_i nothing
    rw [List.isEmpty_iff] at nothing
    subst nothing
    have failed := @Read.failed _ _ setting [] start pass seen read
    exact ⟨[], 0, 0, failed⟩
  · split
    · exact ⟨[], 0, 0, read.failed⟩
    · dsimp only
      split
      · exact ⟨ids, 0, lost, read.committed holds⟩
      · exact ⟨[], 0, 0, read.failed⟩
      · rename_i ended
        have landed : (setting.turns number).commit = .landed := by
          split at ended
          · exact ended
          · cases ended
        exact ⟨ids, ids.length, 0, read.landed holds landed⟩

end

theorem commit_examined (pass : Pass Weight Blob) :
    (commitBatch setting.vecAvailable turn items pass).2.stats.examined =
      pass.stats.examined := by
  unfold commitBatch
  split
  · rfl
  · split
    · rfl
    · dsimp only
      split
      · rfl
      · rfl
      · rfl

/-! ## A phase -/

def Ended.last : Ended Weight Blob → Option (Pass Weight Blob)
  | .finished _ pass => some pass
  | .raised pass => some pass
  | .unfinished => none

def Spent (before : Pass Weight Blob) (remaining : Option Nat) : Ended Weight Blob → Prop
  | .finished left after => (remaining = none → left = none) ∧
      ∀ room, remaining = some room → ∃ rest, left = some rest ∧ rest ≤ room ∧
        after.stats.examined + rest = before.stats.examined + room
  | .raised after => ∀ room, remaining = some room →
      after.stats.examined ≤ before.stats.examined + room
  | .unfinished => True

theorem spent_nothing {before after : Pass Weight Blob} {remaining : Option Nat}
    (same : after.stats.examined = before.stats.examined) :
    Spent before remaining (.finished remaining after) :=
  ⟨id, fun room left => ⟨room, left, Nat.le_refl room, by rw [same]⟩⟩

theorem spent_page {before after : Pass Weight Blob} {remaining : Option Nat} {size : Nat}
    (counted : after.stats.examined = before.stats.examined + size)
    (within : ∀ room, remaining = some room → size ≤ room) :
    Spent before remaining (.finished (remaining.map fun left => left - size) after) := by
  constructor
  · rintro rfl
    rfl
  · rintro room rfl
    have short := within room rfl
    refine ⟨room - size, rfl, Nat.sub_le _ _, ?_⟩
    omega

theorem Spent.trans {before between : Pass Weight Blob} {remaining left : Option Nat}
    {ended : Ended Weight Blob} (one : Spent before remaining (.finished left between))
    (two : Spent between left ended) : Spent before remaining ended := by
  cases ended with
  | unfinished => trivial
  | raised after =>
      intro room same
      obtain ⟨rest, left_same, -, sum⟩ := one.2 room same
      have later := two rest left_same
      omega
  | finished last after =>
      refine ⟨fun unlimited => two.1 (one.1 unlimited), ?_⟩
      intro room same
      obtain ⟨rest, left_same, fewer, sum⟩ := one.2 room same
      obtain ⟨rest_after, last_same, fewer_after, sum_after⟩ := two.2 rest left_same
      exact ⟨rest_after, last_same, fewer_after.trans fewer, by omega⟩

theorem orphan_page_sublist (cursor : Option Key) (offer : Offer Key) :
    (orphanPage cursor offer).Sublist offer.eligible ∧
      (orphanPage cursor offer).length ≤ offer.limit := by
  cases cursor with
  | none => exact ⟨List.take_sublist _ _, List.length_take_le _ _⟩
  | some cursor =>
      rw [orphanPage]
      split
      · exact ⟨List.take_sublist _ _, List.length_take_le _ _⟩
      · exact ⟨(List.take_sublist _ _).trans List.filter_sublist, List.length_take_le _ _⟩

/-- A page is of orphans, and claims at most the cursors. -/
theorem next_page {take : Nat} {cursor moved : Option Key} {pass after : Pass Weight Blob}
    {boundary : Bool}
    (paged : nextPage setting kind take cursor pass = some ((keys, boundary, moved), after)) :
    keys.Sublist (orphanKeys kind pass.graph) ∧ keys.length ≤ take ∧
      ∃ cursors, after = { pass with cursors := cursors } := by
  unfold nextPage at paged
  split at paged
  · split at paged
    · cases paged
    · rename_i claimed cursors selected
      obtain ⟨pair, rfl⟩ := Prod.mk.inj (Option.some.inj paged)
      obtain ⟨rfl, -⟩ := Prod.mk.inj pair
      rcases transaction_cases (setting.turns pass.turn).claims
        (claim kind.cursorName orphanPage ⟨take, orphanKeys kind pass.graph⟩) with
        idle | ⟨table, -, -, worked⟩
      · rw [selectOrphanPage, idle] at selected
        cases selected
      · rw [selectOrphanPage, worked] at selected
        obtain ⟨rows, rfl⟩ := Prod.mk.inj selected
        rw [← Option.some.inj rows, claim]
        obtain ⟨among, few⟩ := orphan_page_sublist
          ((cursorOf table kind.cursorName).map Prod.fst) ⟨take, orphanKeys kind pass.graph⟩
        exact ⟨among, few, _, rfl⟩
  · dsimp only at paged
    obtain ⟨pair, rfl⟩ := Prod.mk.inj (Option.some.inj paged)
    obtain ⟨rfl, -⟩ := Prod.mk.inj pair
    refine ⟨(List.take_sublist _ _).trans ?_, List.length_take_le _ _, _, rfl⟩
    cases cursor with
    | none => exact List.Sublist.refl _
    | some cursor => exact List.filter_sublist

/-- What one page of a phase comes to. -/
theorem phase_step (indexed : kind = .repair → setting.vecAvailable = true) (fuel : Nat)
    (remaining : Option Nat) (cursor : Option Key) (pass : Pass Weight Blob) :
    (∃ cursors, phaseLoop setting kind (fuel + 1) remaining cursor pass =
      .finished remaining { pass with cursors := cursors }) ∨
    phaseLoop setting kind (fuel + 1) remaining cursor pass = .raised pass ∨
    ∃ keys boundary moved claimed after ids hidden lost,
      nextPage setting kind (takeOf setting remaining) cursor pass =
        some ((keys, boundary, moved), claimed) ∧
      keys ≠ [] ∧ Account setting pass after ids hidden lost ∧
      after.stats.examined = pass.stats.examined + keys.length ∧
      (phaseLoop setting kind (fuel + 1) remaining cursor pass =
          .finished (remaining.map fun left => left - keys.length) after ∨
        phaseLoop setting kind (fuel + 1) remaining cursor pass =
          phaseLoop setting kind fuel (remaining.map fun left => left - keys.length) moved
            after) := by
  rw [phaseLoop]
  split
  · exact .inl ⟨pass.cursors, rfl⟩
  · dsimp only
    split
    · exact .inr (.inl rfl)
    · rename_i keys boundary moved claimed paged
      obtain ⟨among, -, cursors, rfl⟩ := next_page paged
      split
      · exact .inl ⟨cursors, rfl⟩
      · rename_i some_keys
        right
        right
        split
        · refine ⟨keys, boundary, moved, _, _, [], 0, 0, paged, some_keys, ?_, rfl, .inl rfl⟩
          refine ⟨wrote_nothing _ _, rfl, ?_, rfl, fun _ => rfl, fun _ => rfl⟩
          simp only [countFailed]
          omega
        · rename_i items invalid gathered
          obtain ⟨fit, distinct, sized⟩ := items_fit indexed among gathered
          have read : Read pass (countFailed invalid
              { pass with
                cursors := cursors
                turn := pass.turn + 1
                stats := { pass.stats with examined := pass.stats.examined + keys.length } })
              items.length invalid := ⟨rfl, by rw [sized]; rfl, rfl⟩
          obtain ⟨ids, hidden, lost, account⟩ := page_accounted pass.turn read fit distinct
          refine ⟨keys, boundary, moved, _, _, ids, hidden, lost, paged, some_keys, account, ?_, ?_⟩
          · rw [commit_examined]
            rfl
          · dsimp only
            split
            · exact .inr rfl
            · exact .inl rfl

theorem take_within (setting : Setting Blob) {room : Nat} :
    takeOf setting (some room) ≤ room :=
  Nat.min_le_right _ _

theorem phase_accounted (indexed : kind = .repair → setting.vecAvailable = true) (fuel : Nat)
    (remaining : Option Nat) (cursor : Option Key) (pass : Pass Weight Blob) :
    Spent pass remaining (phaseLoop setting kind fuel remaining cursor pass) ∧
      ∀ after, (phaseLoop setting kind fuel remaining cursor pass).last = some after →
        ∃ ids hidden lost, Account setting pass after ids hidden lost := by
  induction fuel generalizing remaining cursor pass with
  | zero => exact ⟨trivial, fun _ ended => by cases ended⟩
  | succ fuel induction =>
      rcases phase_step indexed fuel remaining cursor pass with
        ⟨cursors, came⟩ | came | ⟨keys, _, moved, claimed, after, ids, hidden, lost, paged, -,
          account, counted, came⟩
      · rw [came]
        refine ⟨spent_nothing rfl, ?_⟩
        intro after ended
        obtain rfl := Option.some.inj ended
        exact ⟨[], 0, 0, account_nothing setting pass cursors⟩
      · rw [came]
        refine ⟨fun room _ => Nat.le_add_right _ _, ?_⟩
        intro after ended
        obtain rfl := Option.some.inj ended
        exact ⟨[], 0, 0, account_nothing setting pass pass.cursors⟩
      · obtain ⟨-, few, -⟩ := next_page paged
        have page : Spent pass remaining
            (.finished (remaining.map fun left => left - keys.length) after) := by
          apply spent_page counted
          rintro room rfl
          exact few.trans (take_within setting)
        rcases came with came | came
        · rw [came]
          refine ⟨page, ?_⟩
          intro last ended
          obtain rfl := Option.some.inj ended
          exact ⟨ids, hidden, lost, account⟩
        · rw [came]
          obtain ⟨spent, accounted⟩ := induction (remaining.map fun left => left - keys.length)
            moved after
          refine ⟨page.trans spent, ?_⟩
          intro last ended
          obtain ⟨later, more, gone, account_later⟩ := accounted last ended
          exact ⟨ids ++ later, hidden + more, lost + gone, account.trans account_later⟩

theorem phases_accounted {order : List OrphanKind} (fuel : Nat) (remaining : Option Nat)
    (pass : Pass Weight Blob)
    (indexed : ∀ kind ∈ order, kind = .repair → setting.vecAvailable = true) :
    Spent pass remaining (phases setting fuel order remaining pass) ∧
      ∀ after, (phases setting fuel order remaining pass).last = some after →
        ∃ ids hidden lost, Account setting pass after ids hidden lost := by
  induction order generalizing remaining pass with
  | nil =>
      refine ⟨spent_nothing rfl, ?_⟩
      intro after ended
      obtain rfl := Option.some.inj ended
      exact ⟨[], 0, 0, account_nothing setting pass pass.cursors⟩
  | cons kind rest induction =>
      obtain ⟨spent, accounted⟩ :=
        phase_accounted (indexed kind List.mem_cons_self) fuel remaining none pass
      rw [phases]
      generalize phaseLoop setting kind fuel remaining none pass = ended at spent accounted
      cases ended with
      | unfinished => exact ⟨trivial, fun _ ended => by cases ended⟩
      | raised last => exact ⟨spent, accounted⟩
      | finished left between =>
          dsimp only
          obtain ⟨ids, hidden, lost, account⟩ := accounted between rfl
          obtain ⟨later_spent, later⟩ := induction left between fun kind listed =>
            indexed kind (List.mem_cons_of_mem _ listed)
          refine ⟨spent.trans later_spent, ?_⟩
          intro after ended
          obtain ⟨more_ids, more, gone, account_later⟩ := later after ended
          exact ⟨ids ++ more_ids, hidden + more, lost + gone, account.trans account_later⟩

/-! ## Every call ends -/

/-- What is an orphan after a pass was one before. -/
theorem Wrote.still_orphan (wrote : Wrote setting before after ids)
    (indexed : kind = .repair → setting.vecAvailable = true) {key : Key}
    (listed : key ∈ orphanKeys kind after) : key ∈ orphanKeys kind before := by
  obtain ⟨-, stored, vec⟩ := wrote.unchanged (orphan_lacking indexed listed).1
  obtain ⟨node, found, lacks, same⟩ := mem_orphan_keys.mp listed
  have named : node.id = idOf key := (Table.find_eq_some.mp found).2
  refine mem_orphan_keys.mpr ⟨node, ?_, ?_, same⟩
  · rw [← wrote.nodes]
    exact found
  · rw [← lacks]
    cases kind with
    | ordinary => simp only [orphaned, named, stored]
    | repair => simp only [orphaned, named, stored, vec]

theorem mem_ahead {cursor : Option Key} {key : Key} :
    key ∈ aheadOf kind graph cursor ↔
      key ∈ orphanKeys kind graph ∧ ∀ last, cursor = some last → last < key := by
  cases cursor with
  | none => simp [aheadOf]
  | some last => simp [aheadOf, is_after_eq]

theorem ahead_nodup (cursor : Option Key) : (aheadOf kind graph cursor).Nodup := by
  have distinct : (orphanKeys kind graph).Nodup := List.Nodup.of_map _ orphan_ids_nodup
  cases cursor with
  | none => exact distinct
  | some last => exact distinct.filter _

/-- Behind the last key of a page there are fewer orphans. -/
theorem ahead_shrinks (wrote : Wrote setting before after ids)
    (indexed : kind = .repair → setting.vecAvailable = true) {cursor : Option Key} {take : Nat}
    {last : Key} (ends : ((aheadOf kind before cursor).take take).getLast? = some last) :
    (aheadOf kind after (some last)).length < (aheadOf kind before cursor).length := by
  have there : last ∈ aheadOf kind before cursor :=
    List.mem_of_mem_take (List.mem_of_getLast? ends)
  have among : aheadOf kind after (some last) ⊆ (aheadOf kind before cursor).erase last := by
    intro key listed
    obtain ⟨orphan, later⟩ := mem_ahead.mp listed
    have above := later last rfl
    rw [(ahead_nodup cursor).mem_erase_iff]
    refine ⟨above.ne', mem_ahead.mpr ⟨wrote.still_orphan indexed orphan, ?_⟩⟩
    intro first same
    exact ((mem_ahead.mp there).2 first same).trans above
  have fewer := ((ahead_nodup (some last)).subperm among).length_le
  rw [List.length_erase_of_mem there] at fewer
  have positive := List.length_pos_of_mem there
  omega

def Enough (setting : Setting Blob) (kind : OrphanKind) (graph : Graph String Weight Blob)
    (cursor : Option Key) (fuel : Nat) : Option Nat → Prop
  | some room => room < fuel
  | none => setting.capped = false ∧ (aheadOf kind graph cursor).length < fuel

theorem phase_ends (indexed : kind = .repair → setting.vecAvailable = true) {fuel : Nat}
    {remaining : Option Nat} {cursor : Option Key} {pass : Pass Weight Blob}
    (enough : Enough setting kind pass.graph cursor fuel remaining) :
    (phaseLoop setting kind fuel remaining cursor pass).last.isSome = true := by
  induction fuel generalizing remaining cursor pass with
  | zero =>
      cases remaining with
      | none => exact absurd enough.2 (Nat.not_lt_zero _)
      | some room => exact absurd enough (Nat.not_lt_zero _)
  | succ fuel induction =>
      rcases phase_step indexed fuel remaining cursor pass with
        ⟨cursors, came⟩ | came | ⟨keys, boundary, moved, claimed, after, ids, hidden, lost, paged,
          some_keys, account, -, came⟩
      · rw [came]
        rfl
      · rw [came]
        rfl
      · rcases came with came | came
        · rw [came]
          rfl
        · rw [came]
          apply induction
          cases remaining with
          | some room =>
              have positive := List.length_pos_iff.mpr some_keys
              have short : room < fuel + 1 := enough
              have within := (next_page paged).2.1.trans (take_within setting)
              have less : room - keys.length < fuel := by omega
              exact less
          | none =>
              obtain ⟨uncapped, short⟩ := enough
              refine ⟨uncapped, ?_⟩
              unfold nextPage at paged
              rw [uncapped, if_neg Bool.false_ne_true] at paged
              obtain ⟨page, -⟩ := Prod.mk.inj (Option.some.inj paged)
              obtain ⟨rfl, ends⟩ := Prod.mk.inj page
              obtain ⟨-, rfl⟩ := Prod.mk.inj ends
              rw [List.getLast?_eq_some_getLast some_keys, Option.some_or]
              have fewer := ahead_shrinks account.wrote indexed
                (List.getLast?_eq_some_getLast some_keys)
              omega

theorem ahead_few (kind : OrphanKind) (graph : Graph String Weight Blob) (cursor : Option Key) :
    (aheadOf kind graph cursor).length ≤ graph.nodes.rows.length := by
  have all : (orphanKeys kind graph).length ≤ graph.nodes.rows.length := by
    rw [orphanKeys, inOrder, List.length_mergeSort, List.length_map]
    exact List.length_filter_le _ _
  cases cursor with
  | none => exact all
  | some last => exact (List.length_filter_le _ _).trans all

/-- A fuel that every phase of a call has enough of. -/
def Ample (setting : Setting Blob) (nodes fuel : Nat) : Option Nat → Prop
  | some room => room < fuel
  | none => setting.capped = false ∧ nodes < fuel

theorem Ample.enough {fuel : Nat} {remaining : Option Nat}
    (ample : Ample setting graph.nodes.rows.length fuel remaining) (kind : OrphanKind)
    (cursor : Option Key) : Enough setting kind graph cursor fuel remaining := by
  cases remaining with
  | some room => exact ample
  | none => exact ⟨ample.1, (ahead_few kind graph cursor).trans_lt ample.2⟩

theorem phases_end {order : List OrphanKind} {fuel : Nat} {remaining : Option Nat}
    {pass : Pass Weight Blob}
    (indexed : ∀ kind ∈ order, kind = .repair → setting.vecAvailable = true)
    (ample : Ample setting pass.graph.nodes.rows.length fuel remaining) :
    (phases setting fuel order remaining pass).last.isSome = true := by
  induction order generalizing remaining pass with
  | nil => rfl
  | cons kind rest induction =>
      have own := indexed kind List.mem_cons_self
      have ends := phase_ends own (ample.enough kind none)
      obtain ⟨spent, accounted⟩ := phase_accounted own fuel remaining none pass
      rw [phases]
      generalize phaseLoop setting kind fuel remaining none pass = ended at ends spent accounted
      cases ended with
      | unfinished => cases ends
      | raised last => rfl
      | finished left between =>
          obtain ⟨ids, hidden, lost, account⟩ := accounted between rfl
          apply induction fun kind listed => indexed kind (List.mem_cons_of_mem _ listed)
          rw [account.wrote.nodes]
          cases remaining with
          | none =>
              rw [spent.1 rfl]
              exact ample
          | some room =>
              obtain ⟨rest, rfl, fewer, -⟩ := spent.2 room rfl
              exact fewer.trans_lt ample

/-! ## The whole call -/

theorem order_indexed {capped vecAvailable commits : Bool} {state after : StateEntry}
    {order : List OrphanKind}
    (claimed : claimOrphanPhaseOrder capped vecAvailable commits state = (some order, after)) :
    ∀ kind ∈ order, kind = .repair → vecAvailable = true := by
  cases vecAvailable with
  | true => exact fun _ _ _ => rfl
  | false =>
      rw [claimOrphanPhaseOrder, Bool.not_false, Bool.or_true, if_pos rfl] at claimed
      obtain ⟨same, -⟩ := Prod.mk.inj claimed
      rw [← Option.some.inj same]
      rintro kind listed rfl
      simp at listed

/-- What the codec and the dimension of a request make of it, without an identity too. -/
def Request.asked (request : Request Blob) : Setting Blob :=
  request.setting (request.capability.identity.getD ([], 0))

theorem call_accounted (request : Request Blob) (pass : Pass Weight Blob) :
    ∃ after ids hidden lost, (embedOrphans request pass).last = some after ∧
      Account request.asked pass after ids hidden lost ∧
      ∀ limit, request.limit = some limit →
        after.stats.examined ≤ pass.stats.examined + limit := by
  have idle : ∀ {after : Pass Weight Blob}, after.graph = pass.graph →
      after.embedded = pass.embedded →
      after.stats = { pass.stats with capabilityMissing := after.stats.capabilityMissing } →
      Account request.asked pass after [] 0 0 ∧ ∀ limit, request.limit = some limit →
        after.stats.examined ≤ pass.stats.examined + limit := by
    intro after graph embedded stats
    refine ⟨⟨?_, ?_, ?_, ?_, fun _ => rfl, fun _ => rfl⟩, ?_⟩
    · rw [graph]
      exact wrote_nothing _ _
    · rw [stats]
      rfl
    · rw [stats]
      dsimp only
      omega
    · rw [stats, embedded]
    · rw [stats]
      exact fun limit _ => Nat.le_add_right _ _
  unfold embedOrphans
  split
  · exact ⟨pass, [], 0, 0, rfl, idle rfl rfl rfl⟩
  · split
    · exact ⟨pass, [], 0, 0, rfl, idle rfl rfl rfl⟩
    · split
      · exact ⟨pass, [], 0, 0, rfl, idle rfl rfl rfl⟩
      · split
        · exact ⟨_, [], 0, 0, rfl, idle rfl rfl rfl⟩
        · rename_i identity known
          split
          · exact ⟨pass, [], 0, 0, rfl, idle rfl rfl rfl⟩
          · rename_i order cursors claimed
            have asked : request.asked = request.setting identity := by
              rw [Request.asked, known, Option.getD_some]
            have indexed := order_indexed claimed
            have ample : Ample (request.setting identity) pass.graph.nodes.rows.length
                (request.fuel pass.graph) request.limit := by
              rw [Request.fuel]
              cases unlimited : request.limit with
              | none => exact ⟨by rw [Request.setting, unlimited]; rfl, Nat.lt_succ_self _⟩
              | some limit => exact Nat.lt_succ_self _
            have ends := @phases_end _ _ (request.setting identity) order _ _
              { pass with cursors := cursors } indexed ample
            obtain ⟨spent, accounted⟩ := @phases_accounted _ _ (request.setting identity) order
              (request.fuel pass.graph) request.limit { pass with cursors := cursors } indexed
            obtain ⟨after, last⟩ := Option.isSome_iff_exists.mp ends
            obtain ⟨ids, hidden, lost, account⟩ := accounted after last
            rw [asked]
            refine ⟨after, ids, hidden, lost, last, ⟨account.wrote, account.written,
              account.balanced, account.parted, account.seen, account.kept⟩, ?_⟩
            intro limit limited
            generalize phases (request.setting identity) (request.fuel pass.graph) order
              request.limit { pass with cursors := cursors } = ended at spent last
            cases ended with
            | unfinished => cases last
            | raised other =>
                obtain rfl := Option.some.inj last
                exact spent limit limited
            | finished left other =>
                obtain rfl := Option.some.inj last
                obtain ⟨rest, -, -, sum⟩ := spent.2 limit limited
                dsimp only at sum
                omega

/-- A row of either table is another one. -/
def Changed (before after : Graph String Weight Blob) (id : String) : Prop :=
  after.embeddings.find id ≠ before.embeddings.find id ∨
    after.vecEmbeddings.find id ≠ before.vecEmbeddings.find id

theorem Wrote.changed (wrote : Wrote setting before after ids) :
    id ∈ ids ↔ Changed before after id := by
  constructor
  · intro listed
    by_contra same
    rw [Changed, not_or, not_not, not_not] at same
    apply wrote.supplied listed
    rw [Lacking, same.1, same.2]
    exact wrote.lacking id listed
  · rintro (stored | indexed)
    · by_contra other
      exact stored (wrote.others id other).1
    · by_contra other
      exact indexed (wrote.others id other).2

/-- Whatever fails on the way, a call ends, examines no more rows than its limit, counts each
of them as written or as failed, and has written as many nodes as it counts: their vectors
are new, once each, and all that changed, unless a commit raised and landed or a node's
failure took with it what was written before it. -/
theorem orphans_counted (request : Request Blob) (pass : Pass Weight Blob) :
    ∃ (after : Pass Weight Blob) (ids : List String) (hidden lost : Nat),
      (embedOrphans request pass).last = some after ∧
      (∀ limit, request.limit = some limit →
        after.stats.examined ≤ pass.stats.examined + limit) ∧
      pass.stats.ordinaryWritten + pass.stats.writeFailed + after.stats.examined =
        pass.stats.examined + after.stats.ordinaryWritten + after.stats.writeFailed ∧
      after.embedded + after.stats.vecUnavailable + pass.stats.ordinaryWritten =
        pass.embedded + pass.stats.vecUnavailable + after.stats.ordinaryWritten ∧
      ids.Nodup ∧ (∀ id, id ∈ ids ↔ Changed pass.graph after.graph id) ∧
      after.stats.ordinaryWritten + hidden =
        pass.stats.ordinaryWritten + ids.length + lost ∧
      ((∀ number, (request.turns number).commit ≠ .landed) → hidden = 0) ∧
      ((∀ number, Calm (request.turns number)) → lost = 0) := by
  obtain ⟨after, ids, hidden, lost, last, account, within⟩ := call_accounted request pass
  exact ⟨after, ids, hidden, lost, last, within, account.balanced, account.parted,
    account.wrote.distinct, fun _ => account.wrote.changed, account.written, account.seen,
    account.kept⟩

/-- Whatever fails on the way, a call changes only the rows of live nodes that lacked one,
to a valid vector that is in both tables (in the one there is without a vector index), and
never to another vector than was stored. -/
theorem orphans_paired (request : Request Blob) (pass : Pass Weight Blob) :
    ∃ after : Pass Weight Blob, (embedOrphans request pass).last = some after ∧
      after.graph.nodes = pass.graph.nodes ∧ after.graph.edges = pass.graph.edges ∧
      after.graph.decayAudit = pass.graph.decayAudit ∧
      ∀ id, Changed pass.graph after.graph id →
        Lacking request.vecAvailable pass.graph id ∧
        (∃ node, pass.graph.nodes.find id = some node ∧ node.live = true) ∧
        Whole request.asked pass.graph after.graph id := by
  obtain ⟨after, ids, hidden, lost, last, account, -⟩ := call_accounted request pass
  have wrote := account.wrote
  refine ⟨after, last, wrote.nodes, wrote.edges, wrote.decayAudit, ?_⟩
  intro id changed
  have listed := wrote.changed.mpr changed
  exact ⟨wrote.lacking id listed, wrote.live id listed, wrote.whole id listed⟩

/-! ## When all goes well -/

/-- Nothing fails, and what is stored already is valid and of the model. -/
structure Works (setting : Setting Blob) (graph : Graph String Weight Blob) : Prop where
  uncapped : setting.capped = false
  positive : 0 < setting.batchSize
  encodes : ∀ number contents, ∃ blobs, (setting.turns number).encode contents = some blobs ∧
    blobs.length = contents.length ∧
    ∀ blob ∈ blobs, setting.codec.valid setting.expected blob = true
  begins : ∀ number, (setting.turns number).begins = true
  accepts : ∀ number id, (setting.turns number).accepts id = true
  commits : ∀ number, (setting.turns number).commit = .committed
  stored : ∀ row ∈ graph.embeddings.rows,
    setting.codec.valid setting.expected row.vector = true ∧
      (row.model = [] ∨ row.model = setting.model)

theorem items_work (works : Works setting before) (wrote : Wrote setting before graph ids)
    (indexed : kind = .repair → setting.vecAvailable = true) (number : Nat)
    (among : ∀ key ∈ keys, key ∈ orphanKeys kind graph) :
    ∃ items, itemsOf setting kind (setting.turns number) graph keys = some (items, 0) ∧
      items.map Item.id = keys.map idOf := by
  cases kind with
  | ordinary =>
      obtain ⟨blobs, encoded, sized, valid⟩ :=
        works.encodes number (keys.map (contentOf graph))
      rw [List.length_map] at sized
      have gathered : ordinaryItems setting (setting.turns number).encode graph keys =
          some (List.zipWith (fun key blob => ⟨idOf key, blob, setting.model⟩) keys blobs) := by
        rw [ordinaryItems, encoded]
        dsimp only
        rw [if_pos ⟨sized, List.all_eq_true.mpr valid⟩]
      refine ⟨_, ?_, (ordinary_items_fit among gathered).1⟩
      rw [itemsOf, gathered]
      rfl
  | repair =>
      have repaired : ∀ key ∈ keys, ∃ item, repairItem setting graph key = some item ∧
          item.id = idOf key := by
        intro key there
        have orphan := among key there
        obtain ⟨-, stored, -⟩ := wrote.unchanged (orphan_lacking indexed orphan).1
        obtain ⟨node, found, lacks, -⟩ := mem_orphan_keys.mp orphan
        have named : node.id = idOf key := (Table.find_eq_some.mp found).2
        simp only [orphaned, named, Bool.and_eq_true] at lacks
        obtain ⟨row, embedded⟩ := Option.isSome_iff_exists.mp lacks.1.1
        rw [stored] at embedded
        obtain ⟨member, row_named⟩ := Table.find_eq_some.mp embedded
        obtain ⟨valid, compatible⟩ := works.stored row member
        refine ⟨⟨row.nodeId, row.vector,
          if row.model = [] then setting.model else row.model⟩, ?_, row_named⟩
        rw [repairItem, stored, embedded]
        dsimp only
        rw [if_neg (by tauto), if_pos valid]
      have whole : (keys.filterMap (repairItem setting graph)).map Item.id = keys.map idOf := by
        clear among
        induction keys with
        | nil => rfl
        | cons key rest induction =>
            obtain ⟨item, same, named⟩ := repaired key List.mem_cons_self
            rw [List.filterMap_cons, same]
            dsimp only
            rw [List.map_cons, List.map_cons, named, induction fun other there =>
              repaired other (List.mem_cons_of_mem _ there)]
      refine ⟨_, ?_, whole⟩
      have sizes := congrArg List.length whole
      rw [List.length_map, List.length_map] at sizes
      rw [itemsOf, sizes, Nat.sub_self]

/-- A batch in which nothing fails. -/
theorem commit_works {pass : Pass Weight Blob} (begins : turn.begins = true)
    (accepts : ∀ id, turn.accepts id = true) (commits : turn.commit = .committed)
    (fit : ∀ item ∈ items, Fits setting pass.graph item)
    (distinct : (items.map Item.id).Nodup) :
    ∃ after, commitBatch setting.vecAvailable turn items pass = (true, after) ∧
      Wrote setting pass.graph after.graph (items.map Item.id) := by
  obtain ⟨ids, lost, holds⟩ := write_pairs_wrote turn fit distinct
  have calm : Calm turn := by
    intro id refused
    rw [accepts id] at refused
    cases refused
  have all : (items.map Item.id).filter turn.accepts = items.map Item.id :=
    List.filter_eq_self.mpr fun id _ => accepts id
  have wrote := holds.wrote
  rw [(holds.calm calm).2, all] at wrote
  unfold commitBatch
  split
  · rename_i nothing
    rw [List.isEmpty_iff] at nothing
    subst nothing
    exact ⟨pass, rfl, wrote_nothing _ _⟩
  · rw [begins, Bool.not_true, if_neg Bool.false_ne_true]
    dsimp only
    rw [commits, ite_self]
    exact ⟨_, rfl, wrote⟩

/-- A page of which everything is written. -/
theorem page_works (works : Works setting before) {pass : Pass Weight Blob}
    (wrote : Wrote setting before pass.graph ids)
    (indexed : kind = .repair → setting.vecAvailable = true) (fuel : Nat)
    (cursor : Option Key) (some_keys : keys ≠ [])
    (page : keys = (aheadOf kind pass.graph cursor).take setting.batchSize) :
    ∃ after, phaseLoop setting kind (fuel + 1) none cursor pass =
        phaseLoop setting kind fuel none (keys.getLast?.or cursor) after ∧
      Wrote setting pass.graph after.graph (keys.map idOf) := by
  have among : keys.Sublist (orphanKeys kind pass.graph) := by
    have paged : nextPage setting kind setting.batchSize cursor pass =
        some ((keys, false, keys.getLast?.or cursor), pass) := by
      rw [nextPage, works.uncapped, if_neg Bool.false_ne_true, page]
    exact (next_page paged).1
  have member : ∀ key ∈ keys, key ∈ orphanKeys kind pass.graph :=
    fun key there => among.subset there
  obtain ⟨items, gathered, named⟩ := items_work works wrote indexed pass.turn member
  obtain ⟨fit, distinct, -⟩ := items_fit indexed among gathered
  obtain ⟨after, committed, filled⟩ := @commit_works _ _ setting (setting.turns pass.turn) items
    (countFailed 0
      { pass with
        turn := pass.turn + 1
        stats := { pass.stats with examined := pass.stats.examined + keys.length } })
    (works.begins _) (works.accepts _) (works.commits _) fit distinct
  refine ⟨after, ?_, named ▸ filled⟩
  rw [phaseLoop, if_neg (by decide)]
  have take : takeOf setting none = setting.batchSize := rfl
  simp only [take, nextPage, works.uncapped, if_neg Bool.false_ne_true, ← page, if_neg some_keys,
    gathered, committed, Bool.not_false, Bool.and_self, if_pos]
  rfl

/-- A phase in which nothing fails leaves no orphan of its kind. -/
theorem phase_works (works : Works setting before)
    (indexed : kind = .repair → setting.vecAvailable = true) (fuel : Nat) (cursor : Option Key)
    (pass : Pass Weight Blob) (wrote : Wrote setting before pass.graph ids)
    (enough : (aheadOf kind pass.graph cursor).length < fuel)
    (behind : ∀ key ∈ orphanKeys kind pass.graph, key ∈ aheadOf kind pass.graph cursor) :
    ∃ after more, phaseLoop setting kind fuel none cursor pass = .finished none after ∧
      Wrote setting pass.graph after.graph more ∧ orphanKeys kind after.graph = [] := by
  induction fuel generalizing cursor pass ids with
  | zero => exact absurd enough (Nat.not_lt_zero _)
  | succ fuel induction =>
      by_cases some_keys : (aheadOf kind pass.graph cursor).take setting.batchSize = []
      · refine ⟨pass, [], ?_, wrote_nothing _ _, ?_⟩
        · rw [phaseLoop, if_neg (by decide)]
          have take : takeOf setting none = setting.batchSize := rfl
          simp only [take, nextPage, works.uncapped, if_neg Bool.false_ne_true, some_keys, if_pos]
        · rcases List.take_eq_nil_iff.mp some_keys with zero | nothing
          · exact absurd zero works.positive.ne'
          · rw [List.eq_nil_iff_forall_not_mem]
            intro key listed
            have ahead := behind key listed
            rw [nothing] at ahead
            cases ahead
      · obtain ⟨after, came, filled⟩ := page_works works wrote indexed fuel cursor some_keys rfl
        rw [came, List.getLast?_eq_some_getLast some_keys, Option.some_or]
        have ends := List.getLast?_eq_some_getLast some_keys
        have shorter := ahead_shrinks filled indexed ends
        have still_behind : ∀ key ∈ orphanKeys kind after.graph,
            key ∈ aheadOf kind after.graph (some (List.getLast _ some_keys)) := by
          intro key listed
          refine mem_ahead.mpr ⟨listed, ?_⟩
          intro last same
          obtain rfl := Option.some.inj same
          have ahead := behind key (filled.still_orphan indexed listed)
          have other : key ∉ (aheadOf kind pass.graph cursor).take setting.batchSize := by
            intro taken
            have lacking := (orphan_lacking indexed listed).1
            exact filled.supplied (List.mem_map_of_mem taken) lacking
          have sorted : (aheadOf kind pass.graph cursor).Pairwise (· < ·) := by
            cases cursor with
            | none => exact orphan_keys_sorted
            | some first => exact orphan_keys_sorted.sublist List.filter_sublist
          exact taken_below sorted ahead other (List.mem_of_getLast? ends)
        obtain ⟨last, more, finished, later, nothing⟩ := induction _ after (wrote.trans filled)
          (by omega) still_behind
        exact ⟨last, _, finished, filled.trans later, nothing⟩

/-- Unlimited and with nothing failing, a call leaves no orphan: every live node with a text
has an embedding, and with a vector index every live node with an embedding is in it. -/
theorem unlimited_call_completes (request : Request Blob) (pass : Pass Weight Blob)
    (unlimited : request.limit = none) (small : request.batchSize ≤ 100)
    (known : request.capability.identity.isSome = true)
    (works : Works request.asked pass.graph) :
    ∃ after, embedOrphans request pass = .finished none after ∧
      noOrphans request.vecAvailable after.graph = true := by
  obtain ⟨identity, same⟩ := Option.isSome_iff_exists.mp known
  have asked : request.asked = request.setting identity := by
    rw [Request.asked, same, Option.getD_some]
  have positive : 0 < request.batchSize := works.positive
  unfold embedOrphans
  rw [if_neg (by omega), if_neg (by rw [unlimited]; decide)]
  split
  · rename_i none_there
    rw [unlimited]
    exact ⟨pass, rfl, none_there⟩
  · have enough : ∀ (kind : OrphanKind) (graph : Graph String Weight Blob),
        graph.nodes = pass.graph.nodes →
        (aheadOf kind graph none).length < request.fuel pass.graph := by
      intro kind graph nodes
      have few := ahead_few kind graph none
      rw [nodes] at few
      rw [Request.fuel, unlimited]
      exact Nat.lt_succ_of_le few
    rw [same, unlimited, claimOrphanPhaseOrder, Option.isSome_none, Bool.not_false,
      Bool.true_or, if_pos rfl]
    dsimp only
    rw [← asked]
    obtain ⟨middle, first, came, wrote, embedded⟩ := @phase_works _ _ request.asked pass.graph []
      .ordinary works (fun other => by cases other) (request.fuel pass.graph) none pass
      (wrote_nothing _ _) (enough _ _ rfl) (fun key listed => listed)
    cases available : request.vecAvailable with
    | false =>
        refine ⟨middle, ?_, ?_⟩
        · rw [if_neg Bool.false_ne_true]
          show phases request.asked _ [.ordinary] none pass = _
          simp only [phases, came]
        · rw [noOrphans, embedded]
          rfl
    | true =>
        obtain ⟨after, second, repaired, later, indexed⟩ := @phase_works _ _ request.asked
          pass.graph first .repair works (fun _ => available) (request.fuel pass.graph) none
          middle wrote (enough _ _ wrote.nodes) (fun key listed => listed)
        refine ⟨after, ?_, ?_⟩
        · rw [if_pos rfl]
          show phases request.asked _ [.ordinary, .repair] none pass = _
          simp only [phases, came, repaired]
        · have still : orphanKeys .ordinary after.graph = [] := by
            rw [List.eq_nil_iff_forall_not_mem]
            intro key listed
            have earlier := later.still_orphan (fun other => by cases other) listed
            rw [embedded] at earlier
            cases earlier
          rw [noOrphans, still, indexed]
          rfl

def mirror : Request Nat where
  codec := ⟨fun _ => some 1, fun _ => true⟩
  capability := ⟨true, some (str "m"), some 1⟩
  limit := none
  batchSize := 1
  vecAvailable := true
  claimsOrder := true
  turns := fun _ => ⟨"now", true, fun contents => some (contents.map List.length), true,
    fun _ => true, fun _ => false, .committed⟩

def strays : Graph String Unit Nat where
  nodes := ⟨[dated "1" "a", dated "2" "b", dated "1" "c"], by decide⟩
  edges := .empty
  embeddings := ⟨[⟨"c", 7, str "m", ""⟩], by decide⟩
  vecEmbeddings := .empty
  decayAudit := []

/-- A node that ends the transaction takes with it one that is counted as written. -/
example :
    let turn := { mirror.turns 0 with
      accepts := fun id => decide (id ≠ "b")
      ends := fun id => decide (id = "b") }
    let batch := writePairs true turn [⟨"a", 1, str "m"⟩, ⟨"b", 1, str "m"⟩] strays
    batch.written = 1 ∧ batch.graph.embeddings.rows.map Embedding.nodeId = ["c"] := by
  decide

theorem strays_embedded :
    ∃ after, embedOrphans mirror ⟨strays, .absent, {}, 0, 0⟩ = .finished none after ∧
      noOrphans true after.graph = true := by
  apply unlimited_call_completes mirror ⟨strays, .absent, {}, 0, 0⟩ rfl (by decide) rfl
  refine ⟨rfl, by decide, ?_, fun _ => rfl, fun _ _ => rfl, fun _ => rfl, ?_⟩
  · exact fun _ contents => ⟨contents.map List.length, rfl, List.length_map _, fun _ _ => rfl⟩
  · intro row listed
    rw [List.mem_singleton.mp listed]
    exact ⟨rfl, .inr rfl⟩

end

end HermesCashew.SleepOrphans
