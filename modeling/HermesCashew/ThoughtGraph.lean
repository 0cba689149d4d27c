import HermesCashew.KeyedTable
import HermesCashew.PreCompress
import Mathlib.Data.Rat.Defs

/-!
# The thought graph

The tables of the graph that the consolidation works on, with their primary keys, and the
audit rows of what decays. Ids, weights and vectors are whatever the database holds.
-/

namespace HermesCashew.ThoughtGraph

open HermesCashew.JsonText (Str str)
open HermesCashew.KeyedTable

set_option autoImplicit false

/-! ## Rows -/

/-- A row of `thought_nodes`, with the defaults of its columns. -/
structure Node (Id : Type) where
  id : Id
  content : Str
  nodeType : Str
  domain : Option Str := none
  timestamp : Option String := none
  accessCount : Option Int := some 0
  lastAccessed : Option String := none
  sourceFile : Option Str := none
  decayed : Option Int := some 0
  metadata : Option Str := some (str "\x7b\x7d")
  lastUpdated : Option String := none
  moodState : Option Str := none
  permanent : Option Int := some 0
  tags : Option Str := none
  referentTime : Option String := none

/-- A row of `derivation_edges`. -/
structure Edge (Id Weight : Type) where
  parentId : Id
  childId : Id
  weight : Option Weight
  reasoning : Option Str
  timestamp : Option String := none

def Edge.ends {Id Weight : Type} (edge : Edge Id Weight) : Id × Id :=
  (edge.parentId, edge.childId)

/-- A row of `embeddings`. -/
structure Embedding (Id Blob : Type) where
  nodeId : Id
  vector : Blob
  model : Str
  updatedAt : String

/-- A row of `vec_embeddings`. -/
structure VecRow (Id Blob : Type) where
  nodeId : Id
  embedding : Blob

/-- `DECAY_REASONS`. -/
inductive DecayReason where
  | organicAgeNoAccess
  | organicCascade
  | dedupLoser
  | gcFitness
  deriving DecidableEq, Repr

/-- `{"keeper": …}` or `{"parent_id": …, "root_id": …}`. -/
inductive Related (Id : Type) where
  | keeper (id : Id)
  | lineage (parentId rootId : Id)

inductive AuditMetadata where
  | absorbedPermanent
  | fitness (value : ℚ)
  | organic (minAgeDays : Int) (cutoff : String)

/-- A row of `decay_audit`. -/
structure AuditRow (Id : Type) where
  nodeId : Id
  contentSummary : Str
  decayReason : DecayReason
  accessCountAtDecay : Option Int
  lastAccessDate : Option String
  relatedNodes : Option (Related Id)
  sourceFile : Option Str
  domain : Option Str
  nodeType : Option Str
  decayTimestamp : String
  metadata : Option AuditMetadata

structure Graph (Id Weight Blob : Type) where
  nodes : Table Id (Node Id) Node.id
  edges : Table (Id × Id) (Edge Id Weight) Edge.ends
  embeddings : Table Id (Embedding Id Blob) Embedding.nodeId
  vecEmbeddings : Table Id (VecRow Id Blob) VecRow.nodeId
  decayAudit : List (AuditRow Id)

/-- The order in which SQLite returns rows that a statement does not order. -/
structure Scan where
  order : {Row : Type} → List Row → List Row
  perm : ∀ {Row : Type} (rows : List Row), (order rows).Perm rows

theorem Scan.mem (scan : Scan) {Row : Type} {row : Row} {rows : List Row} :
    row ∈ scan.order rows ↔ row ∈ rows :=
  (scan.perm rows).mem_iff

def asStored : Scan :=
  ⟨fun rows => rows, fun _ => .refl _⟩

variable {Id Weight Blob : Type}

/-- `decayed IS NULL OR decayed = 0`. -/
def Node.live (node : Node Id) : Bool :=
  node.decayed = none || node.decayed = some 0

/-- `permanent >= 1`. -/
def Node.pinned (node : Node Id) : Bool :=
  decide (1 ≤ node.permanent.getD 0)

/-- `permanent IS NULL OR permanent = 0`. -/
def Node.unpinned (node : Node Id) : Bool :=
  node.permanent = none || node.permanent = some 0

def Node.decay (node : Node Id) : Node Id :=
  { node with decayed := some 1 }

def Node.release (node : Node Id) : Node Id :=
  { node with permanent := some 0 }

@[simp] theorem Node.decay_id (node : Node Id) : node.decay.id = node.id := rfl

@[simp] theorem Node.release_id (node : Node Id) : node.release.id = node.id := rfl

@[simp] theorem Node.decay_live (node : Node Id) : node.decay.live = false := rfl

@[simp] theorem Node.release_pinned (node : Node Id) : node.release.pinned = false := rfl

@[simp] theorem Node.decay_pinned (node : Node Id) : node.decay.pinned = node.pinned := rfl

@[simp] theorem Node.release_live (node : Node Id) : node.release.live = node.live := rfl

/-! ## The audit -/

/-- `_summary`. -/
def summary (content : Str) : Str :=
  ((PreCompress.strip content).map fun point =>
    if point = JsonText.codePoint '\n' then JsonText.codePoint ' ' else point).take 80

variable [DecidableEq Id]

/-- The row that `log_decay_event` inserts; a node without a row leaves a stub. -/
def auditRow (now : String) (graph : Graph Id Weight Blob) (nodeId : Id) (reason : DecayReason)
    (relatedNodes : Option (Related Id)) (metadata : Option AuditMetadata) : AuditRow Id :=
  let row := graph.nodes.find nodeId
  { nodeId := nodeId
    contentSummary := (row.map fun node => summary node.content).getD []
    decayReason := reason
    accessCountAtDecay := row.bind Node.accessCount
    lastAccessDate := row.bind Node.lastAccessed
    relatedNodes := relatedNodes
    sourceFile := row.bind Node.sourceFile
    domain := row.bind Node.domain
    nodeType := row.map Node.nodeType
    decayTimestamp := now
    metadata := metadata }

theorem audit_row_congr {graph other : Graph Id Weight Blob} {now : String} {id : Id}
    (same : other.nodes.find id = graph.nodes.find id) (reason : DecayReason)
    (related : Option (Related Id)) (metadata : Option AuditMetadata) :
    auditRow now other id reason related metadata =
      auditRow now graph id reason related metadata := by
  rw [auditRow, same, auditRow]

/-- `log_decay_event`, where the table `decay_audit` exists. -/
def logDecayEvent (now : String) (graph : Graph Id Weight Blob) (nodeId : Id)
    (reason : DecayReason) (relatedNodes : Option (Related Id))
    (metadata : Option AuditMetadata) : Graph Id Weight Blob :=
  { graph with
    decayAudit := graph.decayAudit ++
      [auditRow now graph nodeId reason relatedNodes metadata] }

end HermesCashew.ThoughtGraph
