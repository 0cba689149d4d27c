import HermesCashew.Recall
import HermesCashew.ThoughtGraph
import Mathlib.Algebra.Order.Field.Rat
import Mathlib.Data.Finset.Card
import Mathlib.Data.Nat.Sqrt

/-!
# What a sleep cycle forgets and what it keeps

The metrics of the live nodes, the garbage collection, the promotion of nodes that are
often accessed, and the core memories. Times are a clock's: what `now` is, and how many
days ago a stored timestamp was.
-/

namespace HermesCashew.SleepForgetting

open HermesCashew.JsonText (Str str)
open HermesCashew.KeyedTable HermesCashew.SqlLike HermesCashew.ThoughtGraph
open HermesCashew.Recall (wildcards)

set_option autoImplicit false

variable {Id Weight Blob : Type}

/-! ## Metrics -/

structure Metric where
  branchingFactor : Nat
  crossLinks : Nat
  fitness : ℚ

/-- `reasoning LIKE '%cross_link%'`. -/
def crossLinked (edge : Edge Id Weight) : Bool :=
  edge.reasoning.any (like wildcards (surround wildcards (str "cross_link")))

section

variable [DecidableEq Id]

def branching (graph : Graph Id Weight Blob) (id : Id) : Nat :=
  graph.edges.rows.countP fun edge => decide (edge.parentId = id)

def crossLinks (graph : Graph Id Weight Blob) (id : Id) : Nat :=
  graph.edges.rows.countP fun edge =>
    decide (edge.parentId = id ∨ edge.childId = id) && crossLinked edge

def metricOf (graph : Graph Id Weight Blob) (id : Id) : Metric where
  branchingFactor := branching graph id
  crossLinks := crossLinks graph id
  fitness := branching graph id + crossLinks graph id * (1 / 2)

/-- `_compute_metrics`. -/
def computeMetrics (scan : Scan) (graph : Graph Id Weight Blob) : List (Id × Metric) :=
  (scan.order (graph.nodes.rows.filter Node.live)).map fun node =>
    (node.id, metricOf graph node.id)

end

/-! ## Garbage collection -/

inductive GcMode where
  | soft
  | hard
  | off
  deriving DecidableEq, Repr

structure GcSettings where
  threshold : ℚ
  sampleK : Nat := 50
  graceDays : Int := 7
  thinkCyclePenalty : ℚ
  mode : GcMode

/-- `GC_ACCESS_FLOOR`. -/
def gcAccessFloor : Int := 3

structure Clock where
  now : String
  /-- `(now - _parse_ts(value)).total_seconds() / 86400`, of what parses. -/
  age : String → Option ℚ

/-- `random.sample`. -/
structure Sampling where
  sample : {Row : Type} → List Row → Nat → List Row
  drawn : ∀ {Row : Type} (rows : List Row) (count : Nat), count ≤ rows.length →
    (sample rows count).length = count ∧ (sample rows count).Subperm rows

def inGrace (settings : GcSettings) (clock : Clock) (node : Node Id) : Bool :=
  decide (0 < settings.graceDays) && node.lastAccessed.any fun stamp =>
    decide (stamp ≠ "") && (clock.age stamp).any fun age : ℚ => decide (age < settings.graceDays)

/-- In exact numbers, where the code multiplies floats. -/
def effectiveThreshold (settings : GcSettings) (node : Node Id) : ℚ :=
  if node.sourceFile.any fun source => decide (str "think_cycle" <:+: source) then
    settings.threshold * settings.thinkCyclePenalty
  else settings.threshold

section

variable [DecidableEq Id]

def collectable (settings : GcSettings) (clock : Clock) (graph : Graph Id Weight Blob)
    (entry : Id × Metric) : Option (Id × ℚ) :=
  match graph.nodes.find entry.1 with
  | none => none
  | some node =>
      if node.pinned then none
      else if gcAccessFloor ≤ node.accessCount.getD 0 then none
      else if inGrace settings clock node then none
      else if entry.2.fitness < effectiveThreshold settings node then
        some (entry.1, entry.2.fitness)
      else none

def forget (now : String) (mode : GcMode) (graph : Graph Id Weight Blob) (chosen : Id × ℚ) :
    Graph Id Weight Blob :=
  let audited := logDecayEvent now graph chosen.1 .gcFitness none (some (.fitness chosen.2))
  if mode = .hard then
    { audited with
      edges := audited.edges.delete fun edge =>
        decide (edge.parentId = chosen.1 ∨ edge.childId = chosen.1)
      embeddings := audited.embeddings.delete fun row => decide (row.nodeId = chosen.1)
      nodes := audited.nodes.delete fun node => decide (node.id = chosen.1) }
  else
    { audited with
      nodes := audited.nodes.update (fun node => decide (node.id = chosen.1)) Node.decay
        Node.decay_id }

/-- `_garbage_collect`. -/
def garbageCollect (sampling : Sampling) (settings : GcSettings) (clock : Clock)
    (graph : Graph Id Weight Blob) (metrics : List (Id × Metric)) :
    List Id × Graph Id Weight Blob :=
  if settings.mode = .off then ([], graph)
  else if metrics.length ≤ settings.sampleK then ([], graph)
  else
    let candidates := metrics.filterMap (collectable settings clock graph)
    let sample :=
      if candidates.length ≤ settings.sampleK then candidates
      else sampling.sample candidates settings.sampleK
    (sample.map Prod.fst, sample.foldl (forget clock.now settings.mode) graph)

end

/-! ## Permanence -/

section

/-- `access_count >= ?`, of a live node that is not permanent. -/
def promotable (accessThreshold : Int) (node : Node Id) : Bool :=
  node.accessCount.any (fun count => decide (accessThreshold ≤ count)) &&
    node.unpinned && node.live

def promote (now : Option String) (node : Node Id) : Node Id :=
  { node with
    permanent := some 1
    lastUpdated := now.or node.lastUpdated }

theorem promote_id (now : Option String) (node : Node Id) : (promote now node).id = node.id :=
  rfl

variable [DecidableEq Id]

/-- `promote_permanent_nodes`, the stamp given; without it, the statement that
`_evaluate_permanence` falls back to. -/
def evaluatePermanence (stamp : Option String) (accessThreshold : Int)
    (graph : Graph Id Weight Blob) : Nat × Graph Id Weight Blob :=
  let candidates := (graph.nodes.rows.filter (promotable accessThreshold)).map Node.id
  (candidates.length,
    { graph with
      nodes := candidates.foldl (fun nodes id =>
        nodes.update (fun node => decide (node.id = id)) (promote stamp)
          (promote_id stamp)) graph.nodes })

end

/-! ## Core memories -/

def coreMemory : Str := str "core_memory"

def fitter (first second : Id × Metric) : Bool :=
  decide (second.2.fitness ≤ first.2.fitness)

/-- The top `⌊√N⌋` of the metrics, by fitness. -/
def shouldBeCore (metrics : List (Id × Metric)) : List Id :=
  ((metrics.mergeSort fitter).take metrics.length.sqrt).map Prod.fst

structure CoreStats where
  promoted : Nat := 0
  demoted : Nat := 0
  target : Option Nat := none

def enshrine (node : Node Id) : Node Id :=
  { node with
    nodeType := coreMemory
    permanent := some 1 }

def makePermanent (node : Node Id) : Node Id :=
  { node with permanent := some 1 }

def demote (node : Node Id) : Node Id :=
  { node with nodeType := str "derived" }

@[simp] theorem enshrine_id (node : Node Id) : (enshrine node).id = node.id := rfl

@[simp] theorem make_permanent_id (node : Node Id) : (makePermanent node).id = node.id := rfl

@[simp] theorem demote_id (node : Node Id) : (demote node).id = node.id := rfl

@[simp] theorem enshrine_type (node : Node Id) : (enshrine node).nodeType = coreMemory := rfl

@[simp] theorem enshrine_unpinned (node : Node Id) : (enshrine node).unpinned = false := rfl

@[simp] theorem enshrine_pinned (node : Node Id) : (enshrine node).pinned = true := rfl

@[simp] theorem make_permanent_type (node : Node Id) :
    (makePermanent node).nodeType = node.nodeType := rfl

@[simp] theorem make_permanent_pinned (node : Node Id) : (makePermanent node).pinned = true := rfl

@[simp] theorem demote_pinned (node : Node Id) : (demote node).pinned = node.pinned := rfl


/-- `_promote_core_memories`. -/
def promoteCoreMemories [DecidableEq Id] (graph : Graph Id Weight Blob)
    (metrics : List (Id × Metric)) : CoreStats × Graph Id Weight Blob :=
  if metrics = [] then ({}, graph)
  else
    let current := (graph.nodes.rows.filter fun node =>
      decide (node.nodeType = coreMemory)).map Node.id
    let promoted := (shouldBeCore metrics).filter fun id => decide (id ∉ current)
    let demoted := current.filter fun id => decide (id ∉ shouldBeCore metrics)
    let enshrined := graph.nodes.update
      (fun node => decide (node.id ∈ promoted) && node.live) enshrine enshrine_id
    let kept := enshrined.update
      (fun node => decide (node.nodeType = coreMemory) && node.unpinned && node.live)
      makePermanent make_permanent_id
    let remaining := kept.update
      (fun node => decide (node.id ∈ demoted) && decide (node.nodeType ≠ str "seed"))
      demote demote_id
    ({ promoted := promoted.length
       demoted := demoted.length
       target := some metrics.length.sqrt },
      { graph with nodes := remaining })

/-! ## What is promoted -/

section

variable [DecidableEq Id]

omit [DecidableEq Id] in
theorem promote_again (stamp : Option String) (node : Node Id) :
    promote stamp (promote stamp node) = promote stamp node := by
  cases stamp <;> rfl

theorem find_promotes {stamp : Option String} {ids : List Id}
    {nodes : Table Id (Node Id) Node.id} (id : Id) :
    (ids.foldl (fun nodes id => nodes.update (fun node => decide (node.id = id)) (promote stamp)
      (promote_id stamp)) nodes).find id =
        (nodes.find id).map fun node => if id ∈ ids then promote stamp node else node := by
  induction ids generalizing nodes with
  | nil => simp
  | cons first rest induction =>
      rw [List.foldl_cons, induction, Table.find_update, Option.map_map]
      cases found : nodes.find id with
      | none => rfl
      | some node =>
          obtain ⟨-, rfl⟩ := Table.find_eq_some.mp found
          by_cases now : node.id = first <;> by_cases later : node.id ∈ rest <;>
            simp [now, later, promote_again]

/-- The promotion is one statement over the nodes. -/
theorem find_evaluated {stamp : Option String} {accessThreshold : Int}
    {graph : Graph Id Weight Blob} (id : Id) :
    (evaluatePermanence stamp accessThreshold graph).2.nodes.find id =
      (graph.nodes.find id).map fun node =>
        if promotable accessThreshold node then promote stamp node else node := by
  rw [evaluatePermanence]
  dsimp only
  rw [find_promotes]
  cases found : graph.nodes.find id with
  | none => rfl
  | some node =>
      obtain ⟨member, rfl⟩ := Table.find_eq_some.mp found
      have listed : node.id ∈ (graph.nodes.rows.filter (promotable accessThreshold)).map Node.id ↔
          promotable accessThreshold node = true := by
        simp only [List.mem_map, List.mem_filter]
        constructor
        · rintro ⟨other, ⟨there, meets⟩, same⟩
          rwa [graph.nodes.unique there member same] at meets
        · intro meets
          exact ⟨node, ⟨member, meets⟩, rfl⟩
      simp only [Option.map_some, listed]

end

/-! ## What is collected -/

section

variable [DecidableEq Id] {now : String} {mode : GcMode} {graph : Graph Id Weight Blob}

/-- What becomes of the row of a collected node. -/
def forgotten (mode : GcMode) (node : Node Id) : Option (Node Id) :=
  if mode = .hard then none else some node.decay

omit [DecidableEq Id] in
theorem forgotten_again (row : Option (Node Id)) :
    (row.bind (forgotten mode)).bind (forgotten mode) = row.bind (forgotten mode) := by
  cases row with
  | none => rfl
  | some node =>
      by_cases hard : mode = .hard
      · simp [forgotten, hard]
      · simp [forgotten, hard, Node.decay]

theorem find_forget (chosen : Id × ℚ) (id : Id) :
    (forget now mode graph chosen).nodes.find id =
      if id = chosen.1 then (graph.nodes.find id).bind (forgotten mode)
      else graph.nodes.find id := by
  obtain ⟨name, fitness⟩ := chosen
  cases found : graph.nodes.find id with
  | none => by_cases hard : mode = .hard <;> simp [forget, logDecayEvent, hard, found]
  | some node =>
      obtain ⟨-, rfl⟩ := Table.find_eq_some.mp found
      by_cases picked : node.id = name
      · subst picked
        by_cases hard : mode = .hard <;>
          simp [forget, logDecayEvent, forgotten, hard, found, Option.filter_some]
      · by_cases hard : mode = .hard <;>
          simp [forget, logDecayEvent, hard, found, picked, Option.filter_some]

theorem find_forgets (chosen : List (Id × ℚ)) (id : Id) :
    (chosen.foldl (forget now mode) graph).nodes.find id =
      if id ∈ chosen.map Prod.fst then (graph.nodes.find id).bind (forgotten mode)
      else graph.nodes.find id := by
  induction chosen generalizing graph with
  | nil => simp
  | cons entry rest induction =>
      rw [List.foldl_cons, induction, find_forget]
      by_cases first : id = entry.1
      · by_cases later : id ∈ rest.map Prod.fst
        · rw [if_pos later, if_pos first, forgotten_again, List.map_cons,
            if_pos (List.mem_cons_of_mem _ later)]
        · rw [if_neg later, if_pos first, List.map_cons, if_pos (first ▸ List.mem_cons_self)]
      · rw [if_neg first, List.map_cons]
        simp only [List.mem_cons, first, false_or]

def gcRow (now : String) (graph : Graph Id Weight Blob) (chosen : Id × ℚ) : AuditRow Id :=
  auditRow now graph chosen.1 .gcFitness none (some (.fitness chosen.2))

theorem forget_audit (chosen : Id × ℚ) :
    (forget now mode graph chosen).decayAudit = graph.decayAudit ++ [gcRow now graph chosen] := by
  by_cases hard : mode = .hard <;> simp [forget, logDecayEvent, gcRow, hard]

theorem forgets_audit {chosen : List (Id × ℚ)} (distinct : (chosen.map Prod.fst).Nodup) :
    (chosen.foldl (forget now mode) graph).decayAudit =
      graph.decayAudit ++ chosen.map (gcRow now graph) := by
  induction chosen generalizing graph with
  | nil => simp
  | cons entry rest induction =>
      obtain ⟨alone, rest_distinct⟩ := List.nodup_cons.mp distinct
      have unread : ∀ other ∈ rest,
          gcRow now (forget now mode graph entry) other = gcRow now graph other := by
        intro other later
        apply audit_row_congr
        rw [find_forget, if_neg]
        rintro same
        exact alone (same ▸ List.mem_map_of_mem later)
      rw [List.foldl_cons, induction rest_distinct, forget_audit, List.map_congr_left unread,
        List.map_cons, List.append_assoc, List.singleton_append]

theorem forget_vec_embeddings (chosen : List (Id × ℚ)) :
    (chosen.foldl (forget now mode) graph).vecEmbeddings = graph.vecEmbeddings := by
  induction chosen generalizing graph with
  | nil => rfl
  | cons entry rest induction =>
      rw [List.foldl_cons, induction]
      by_cases hard : mode = .hard <;> simp [forget, logDecayEvent, hard]

theorem find_forget_edge (chosen : Id × ℚ) (ends : Id × Id) :
    (forget now mode graph chosen).edges.find ends =
      if mode = .hard ∧ (ends.1 = chosen.1 ∨ ends.2 = chosen.1) then none
      else graph.edges.find ends := by
  by_cases hard : mode = .hard
  · simp only [forget, logDecayEvent, hard, true_and, Table.find_delete, if_true]
    cases found : graph.edges.find ends with
    | none => simp
    | some edge =>
        obtain ⟨-, rfl⟩ := Table.find_eq_some.mp found
        by_cases parent : edge.parentId = chosen.1 <;>
          by_cases child : edge.childId = chosen.1 <;>
          simp [Edge.ends, Option.filter_some, parent, child]
  · simp [forget, logDecayEvent, hard]

theorem find_forget_edges (chosen : List (Id × ℚ)) (ends : Id × Id) :
    (chosen.foldl (forget now mode) graph).edges.find ends =
      if mode = .hard ∧ (ends.1 ∈ chosen.map Prod.fst ∨ ends.2 ∈ chosen.map Prod.fst) then none
      else graph.edges.find ends := by
  induction chosen generalizing graph with
  | nil => simp
  | cons entry rest induction =>
      rw [List.foldl_cons, induction, find_forget_edge, ← ite_or]
      apply if_congr _ rfl rfl
      simp only [List.map_cons, List.mem_cons]
      tauto

theorem find_forget_embedding (chosen : Id × ℚ) (id : Id) :
    (forget now mode graph chosen).embeddings.find id =
      if mode = .hard ∧ id = chosen.1 then none else graph.embeddings.find id := by
  by_cases hard : mode = .hard
  · simp only [forget, logDecayEvent, hard, true_and, Table.find_delete, if_true]
    cases found : graph.embeddings.find id with
    | none => simp
    | some row =>
        obtain ⟨-, rfl⟩ := Table.find_eq_some.mp found
        simp [Option.filter_some]
  · simp [forget, logDecayEvent, hard]

theorem find_forget_embeddings (chosen : List (Id × ℚ)) (id : Id) :
    (chosen.foldl (forget now mode) graph).embeddings.find id =
      if mode = .hard ∧ id ∈ chosen.map Prod.fst then none else graph.embeddings.find id := by
  induction chosen generalizing graph with
  | nil => simp
  | cons entry rest induction =>
      rw [List.foldl_cons, induction, find_forget_embedding, ← ite_or]
      apply if_congr _ rfl rfl
      simp only [List.map_cons, List.mem_cons]
      tauto

end

/-- No protection covers the node. -/
structure Unprotected (settings : GcSettings) (clock : Clock) (node : Node Id) : Prop where
  impermanent : node.permanent.getD 0 < 1
  rare : node.accessCount.getD 0 < gcAccessFloor
  stale : ∀ stamp age, node.lastAccessed = some stamp → stamp ≠ "" →
    clock.age stamp = some age → 0 < settings.graceDays → settings.graceDays ≤ age

/-- A collection that was measured on one graph and made on another. -/
structure Collected [DecidableEq Id] (settings : GcSettings) (clock : Clock)
    (measured before after : Graph Id Weight Blob) (chosen : List (Id × ℚ)) : Prop where
  distinct : (chosen.map Prod.fst).Nodup
  few : chosen.length ≤ settings.sampleK
  unfit : ∀ entry ∈ chosen, ∃ node, before.nodes.find entry.1 = some node ∧
    Unprotected settings clock node ∧ entry.2 < effectiveThreshold settings node ∧
    entry.2 = (metricOf measured entry.1).fitness ∧
      ∃ earlier, measured.nodes.find entry.1 = some earlier ∧ earlier.live = true
  nodes : ∀ id, after.nodes.find id =
    if id ∈ chosen.map Prod.fst then (before.nodes.find id).bind (forgotten settings.mode)
    else before.nodes.find id
  edges : ∀ ends, after.edges.find ends =
    if settings.mode = .hard ∧
      (ends.1 ∈ chosen.map Prod.fst ∨ ends.2 ∈ chosen.map Prod.fst) then none
    else before.edges.find ends
  embeddings : ∀ id, after.embeddings.find id =
    if settings.mode = .hard ∧ id ∈ chosen.map Prod.fst then none
    else before.embeddings.find id
  vecEmbeddings : after.vecEmbeddings = before.vecEmbeddings
  audit : after.decayAudit = before.decayAudit ++ chosen.map (gcRow clock.now before)

section

variable [DecidableEq Id] {sampling : Sampling} {settings : GcSettings} {clock : Clock}
variable {scan : Scan} {measured graph : Graph Id Weight Blob}

theorem collectable_some {entry : Id × Metric} {chosen : Id × ℚ} :
    collectable settings clock graph entry = some chosen ↔
      chosen = (entry.1, entry.2.fitness) ∧ ∃ node, graph.nodes.find entry.1 = some node ∧
        Unprotected settings clock node ∧ entry.2.fitness < effectiveThreshold settings node := by
  rw [collectable]
  cases found : graph.nodes.find entry.1 with
  | none => simp
  | some node =>
      have graced : inGrace settings clock node = false ↔
          ∀ stamp age, node.lastAccessed = some stamp → stamp ≠ "" →
            clock.age stamp = some age → 0 < settings.graceDays → settings.graceDays ≤ age := by
        rw [inGrace, Bool.eq_false_iff, ne_eq, Bool.and_eq_true, decide_eq_true_eq,
          Option.any_eq_true]
        simp only [Bool.and_eq_true, decide_eq_true_eq, Option.any_eq_true]
        constructor
        · intro outside stamp age read given parsed positive
          by_contra recent
          exact outside ⟨positive, stamp, read, given, age, parsed, not_le.mp recent⟩
        · rintro outside ⟨positive, stamp, read, given, age, parsed, recent⟩
          exact absurd (outside stamp age read given parsed positive) (not_le.mpr recent)
      dsimp only
      split
      · rename_i pinned
        simp only [Node.pinned, decide_eq_true_eq] at pinned
        simp only [reduceCtorEq, Option.some.injEq, exists_eq_left', false_iff, not_and]
        rintro - unprotected
        exact absurd pinned (not_le.mpr unprotected.impermanent)
      rename_i unpinned
      simp only [Node.pinned, decide_eq_true_eq, not_le] at unpinned
      split
      · rename_i frequent
        simp only [reduceCtorEq, Option.some.injEq, exists_eq_left', false_iff, not_and]
        rintro - unprotected
        exact absurd frequent (not_le.mpr unprotected.rare)
      rename_i rare
      split
      · rename_i recent
        simp only [reduceCtorEq, Option.some.injEq, exists_eq_left', false_iff, not_and]
        rintro - unprotected
        rw [graced.mpr unprotected.stale] at recent
        cases recent
      rename_i old
      have unprotected : Unprotected settings clock node :=
        ⟨unpinned, not_le.mp rare, graced.mp (Bool.eq_false_iff.mpr old)⟩
      simp only [Option.some.injEq, exists_eq_left', unprotected, true_and]
      split
      · rename_i unfit
        simp [unfit, eq_comm]
      · rename_i fit
        simp [fit]

theorem metrics_distinct : ((computeMetrics scan graph).map Prod.fst).Nodup := by
  rw [computeMetrics, List.map_map]
  have keys : (graph.nodes.rows.filter Node.live).map Node.id |>.Nodup :=
    graph.nodes.distinct.sublist (List.filter_sublist.map Node.id)
  exact ((scan.perm _).map Node.id).nodup_iff.mpr keys

theorem mem_compute_metrics {entry : Id × Metric} :
    entry ∈ computeMetrics scan graph ↔ entry.2 = metricOf graph entry.1 ∧
      ∃ node, graph.nodes.find entry.1 = some node ∧ node.live = true := by
  simp only [computeMetrics, List.mem_map, scan.mem, List.mem_filter]
  constructor
  · rintro ⟨node, ⟨member, live⟩, rfl⟩
    exact ⟨rfl, node, Table.find_of_mem member, live⟩
  · rintro ⟨measured, node, found, live⟩
    obtain ⟨member, named⟩ := Table.find_eq_some.mp found
    refine ⟨node, ⟨member, live⟩, ?_⟩
    rw [named, ← measured]

theorem candidates_distinct {metrics : List (Id × Metric)}
    (distinct : (metrics.map Prod.fst).Nodup) :
    ((metrics.filterMap (collectable settings clock graph)).map Prod.fst).Nodup := by
  have named : ∀ entry chosen, collectable settings clock graph entry = some chosen →
      chosen.1 = entry.1 := by
    intro entry chosen collected
    rw [(collectable_some.mp collected).1]
  induction metrics with
  | nil => exact List.nodup_nil
  | cons entry rest induction =>
      rw [List.map_cons, List.nodup_cons] at distinct
      cases collected : collectable settings clock graph entry with
      | none =>
          rw [List.filterMap_cons_none collected]
          exact induction distinct.2
      | some chosen =>
          rw [List.filterMap_cons_some collected, List.map_cons, List.nodup_cons]
          refine ⟨?_, induction distinct.2⟩
          intro again
          obtain ⟨other, listed, same⟩ := List.mem_map.mp again
          obtain ⟨source, member, taken⟩ := List.mem_filterMap.mp listed
          rw [named _ _ taken, named _ _ collected] at same
          exact distinct.1 (same ▸ List.mem_map_of_mem member)

/-- Collecting candidates of the metrics. -/
theorem forgets_collected {chosen : List (Id × ℚ)}
    (drawn : chosen.Subperm
      ((computeMetrics scan measured).filterMap (collectable settings clock graph)))
    (few : chosen.length ≤ settings.sampleK) :
    Collected settings clock measured graph
      (chosen.foldl (forget clock.now settings.mode) graph) chosen := by
  have distinct : (chosen.map Prod.fst).Nodup := by
    obtain ⟨drawn_in_order, permuted, sublist⟩ := drawn
    have ordered := (candidates_distinct metrics_distinct).sublist (sublist.map Prod.fst)
    exact (permuted.map Prod.fst).nodup_iff.mp ordered
  have unfit : ∀ entry ∈ chosen, ∃ node, graph.nodes.find entry.1 = some node ∧
      Unprotected settings clock node ∧ entry.2 < effectiveThreshold settings node ∧
      entry.2 = (metricOf measured entry.1).fitness ∧
        ∃ earlier, measured.nodes.find entry.1 = some earlier ∧ earlier.live = true := by
    intro entry taken
    obtain ⟨source, listed, collected⟩ := List.mem_filterMap.mp (drawn.subset taken)
    obtain ⟨rfl, node, found, unprotected, low⟩ := collectable_some.mp collected
    obtain ⟨same, earlier⟩ := mem_compute_metrics.mp listed
    exact ⟨node, found, unprotected, low, congrArg Metric.fitness same, earlier⟩
  exact ⟨distinct, few, unfit, find_forgets chosen, find_forget_edges chosen,
    find_forget_embeddings chosen, forget_vec_embeddings chosen, forgets_audit distinct⟩

theorem none_collected : Collected settings clock measured graph graph [] :=
  ⟨List.nodup_nil, Nat.zero_le _, by simp, by simp, by simp, by simp, rfl, by simp⟩

/-- A collection is left out, or takes candidates, all of them or a full sample. -/
theorem collects (metrics : List (Id × Metric)) :
    ((settings.mode = .off ∨ metrics.length ≤ settings.sampleK) ∧
      garbageCollect sampling settings clock graph metrics = ([], graph)) ∨
    (settings.mode ≠ .off ∧ settings.sampleK < metrics.length ∧ ∃ chosen : List (Id × ℚ),
      chosen.Subperm (metrics.filterMap (collectable settings clock graph)) ∧
      chosen.length ≤ settings.sampleK ∧
      (chosen = metrics.filterMap (collectable settings clock graph) ∨
        chosen.length = settings.sampleK) ∧
      garbageCollect sampling settings clock graph metrics =
        (chosen.map Prod.fst, chosen.foldl (forget clock.now settings.mode) graph)) := by
  rw [garbageCollect]
  split
  · rename_i off
    exact .inl ⟨.inl off, rfl⟩
  split
  · rename_i small
    exact .inl ⟨.inr small, rfl⟩
  rename_i on large
  dsimp only
  refine .inr ⟨on, not_le.mp large, ?_⟩
  split
  · rename_i fits
    exact ⟨_, .refl _, fits, .inl rfl, rfl⟩
  · rename_i many
    obtain ⟨full, drawn⟩ := sampling.drawn _ settings.sampleK (Nat.le_of_not_le many)
    exact ⟨_, drawn, full.le, .inr full, rfl⟩

theorem metrics_length :
    (computeMetrics scan measured).length = (measured.nodes.rows.filter Node.live).length := by
  rw [computeMetrics, List.length_map, (scan.perm _).length_eq]

/-- Garbage collection, however old its metrics are: what it takes is unprotected and unfit
when it is taken, is audited once, and is all that changes; nothing is taken from a graph
that is not larger than a sample; and what could have been taken and was not had no place
in the sample. -/
theorem garbage_collected :
    ∃ chosen : List (Id × ℚ),
      (garbageCollect sampling settings clock graph (computeMetrics scan measured)).1 =
        chosen.map Prod.fst ∧
      Collected settings clock measured graph
        (garbageCollect sampling settings clock graph (computeMetrics scan measured)).2 chosen ∧
      (settings.mode = .off ∨
        (measured.nodes.rows.filter Node.live).length ≤ settings.sampleK → chosen = []) ∧
      (settings.mode ≠ .off →
        settings.sampleK < (measured.nodes.rows.filter Node.live).length →
        ∀ id earlier node, measured.nodes.find id = some earlier → earlier.live = true →
          graph.nodes.find id = some node → Unprotected settings clock node →
          (metricOf measured id).fitness < effectiveThreshold settings node →
          id ∈ chosen.map Prod.fst ∨ chosen.length = settings.sampleK) := by
  rw [← @metrics_length _ _ _ _ scan measured]
  rcases @collects _ _ _ _ sampling settings clock graph (computeMetrics scan measured) with
    ⟨idle, left⟩ | ⟨on, large, chosen, drawn, few, whole, taken⟩
  · rw [left]
    refine ⟨[], rfl, none_collected, fun _ => rfl, ?_⟩
    intro on large
    rcases idle with off | small
    · exact absurd off on
    · exact absurd small (not_le.mpr large)
  · rw [taken]
    refine ⟨chosen, rfl, forgets_collected drawn few, ?_, ?_⟩
    · rintro (off | small)
      · exact absurd off on
      · exact absurd small (not_le.mpr large)
    · intro _ _ id earlier node known live found unprotected low
      rcases whole with rfl | full
      · left
        have listed : (id, metricOf measured id) ∈ computeMetrics scan measured :=
          mem_compute_metrics.mpr ⟨rfl, earlier, known, live⟩
        have eligible : collectable settings clock graph (id, metricOf measured id) =
            some (id, (metricOf measured id).fitness) :=
          collectable_some.mpr ⟨rfl, node, found, unprotected, low⟩
        exact List.mem_map_of_mem (List.mem_filterMap.mpr ⟨_, listed, eligible⟩)
      · exact .inr full

end

/-! ## What becomes a core memory -/

section

def settled (fittest : Bool) (node : Node Id) : Node Id :=
  if node.nodeType = coreMemory then
    let kept := if node.unpinned && node.live then makePermanent node else node
    if fittest then kept else demote kept
  else if fittest && node.live then enshrine node
  else node

variable [DecidableEq Id] {scan : Scan} {measured graph : Graph Id Weight Blob}
variable {metrics : List (Id × Metric)}

theorem find_promoted (some_metrics : metrics ≠ []) (id : Id) :
    (promoteCoreMemories graph metrics).2.nodes.find id =
      (graph.nodes.find id).map (settled (decide (id ∈ shouldBeCore metrics))) := by
  rw [promoteCoreMemories, if_neg some_metrics]
  simp only [Table.find_update, Option.map_map]
  cases found : graph.nodes.find id with
  | none => rfl
  | some node =>
      obtain ⟨member, rfl⟩ := Table.find_eq_some.mp found
      have current : node.id ∈ (graph.nodes.rows.filter fun node =>
          decide (node.nodeType = coreMemory)).map Node.id ↔ node.nodeType = coreMemory := by
        simp only [List.mem_map, List.mem_filter, decide_eq_true_eq]
        constructor
        · rintro ⟨other, ⟨listed, core⟩, same⟩
          rwa [graph.nodes.unique listed member same] at core
        · intro core
          exact ⟨node, ⟨member, core⟩, rfl⟩
      generalize (graph.nodes.rows.filter fun node =>
        decide (node.nodeType = coreMemory)).map Node.id = held at current ⊢
      simp only [Option.map_some, Function.comp_apply, Option.some.injEq, List.mem_filter,
        decide_eq_true_eq]
      by_cases core : node.nodeType = coreMemory
      · have not_seed : ¬coreMemory = str "seed" := by decide
        have untouched : (if (decide (node.id ∈ shouldBeCore metrics ∧ node.id ∉ held) &&
            node.live) = true then enshrine node else node) = node := by
          simp [current.mpr core]
        simp only [untouched, settled, if_pos core]
        by_cases weak : (node.unpinned && node.live) = true
        · by_cases fittest : node.id ∈ shouldBeCore metrics <;>
            simp [core, current.mpr core, weak, fittest, not_seed]
        · by_cases fittest : node.id ∈ shouldBeCore metrics <;>
            simp [core, current.mpr core, weak, fittest, not_seed]
      · have outside : node.id ∉ held := mt current.mp core
        rw [settled, if_neg core]
        by_cases chosen : node.id ∈ shouldBeCore metrics ∧ node.live = true
        · simp [chosen, outside]
        · simp [core, chosen, outside]

end

/-- What the promotion leaves, when these are the fittest of the measured graph. -/
structure CoreMemories [DecidableEq Id] (measured before after : Graph Id Weight Blob)
    (fittest : List Id) : Prop where
  count : fittest.length = (measured.nodes.rows.filter Node.live).length.sqrt
  distinct : fittest.Nodup
  outranks : ∀ id ∈ fittest, ∀ other node, measured.nodes.find other = some node →
    node.live = true → other ∉ fittest →
      (metricOf measured other).fitness ≤ (metricOf measured id).fitness
  core : ∀ id node, after.nodes.find id = some node →
    (node.nodeType = coreMemory ↔ id ∈ fittest ∧ ∃ prior, before.nodes.find id = some prior ∧
      (prior.live = true ∨ prior.nodeType = coreMemory))
  few : (after.nodes.rows.filter fun node => decide (node.nodeType = coreMemory)).length ≤
    (measured.nodes.rows.filter Node.live).length.sqrt
  permanent : ∀ id node, after.nodes.find id = some node → node.nodeType = coreMemory →
    node.live = true → node.unpinned = false
  rows : ∀ id, after.nodes.has id ↔ before.nodes.has id
  kept : ∀ id prior node, before.nodes.find id = some prior → after.nodes.find id = some node →
    node.live = prior.live ∧ node.content = prior.content ∧
      (prior.pinned = true → node.pinned = true) ∧
      (node.pinned = true → prior.pinned = true ∨ prior.live = true)
  elsewhere : after.edges = before.edges ∧ after.embeddings = before.embeddings ∧
    after.vecEmbeddings = before.vecEmbeddings ∧ after.decayAudit = before.decayAudit

section

variable {fittest : Bool} {node : Node Id}

theorem settled_type : (settled fittest node).nodeType = coreMemory ↔
    fittest = true ∧ (node.live = true ∨ node.nodeType = coreMemory) := by
  have not_derived : str "derived" ≠ coreMemory := by decide
  rw [settled]
  by_cases core : node.nodeType = coreMemory
  · cases fittest <;> by_cases weak : (node.unpinned && node.live) = true <;>
      simp [core, weak, demote, not_derived]
  · cases fittest <;> by_cases live : node.live = true <;> simp [core, live]

@[simp] theorem settled_live : (settled fittest node).live = node.live := by
  rw [settled]
  split_ifs <;> rfl

@[simp] theorem settled_content : (settled fittest node).content = node.content := by
  rw [settled]
  split_ifs <;> rfl

theorem settled_permanent (core : (settled fittest node).nodeType = coreMemory)
    (live : node.live = true) : (settled fittest node).unpinned = false := by
  obtain ⟨chosen, -⟩ := settled_type.mp core
  rw [settled, chosen, live]
  by_cases held : node.nodeType = coreMemory
  · cases weak : node.unpinned with
    | true => simp [held, makePermanent, Node.unpinned]
    | false => simp [held, weak]
  · simp [held]

theorem settled_pinned :
    (node.pinned = true → (settled fittest node).pinned = true) ∧
      ((settled fittest node).pinned = true → node.pinned = true ∨ node.live = true) := by
  rw [settled]
  by_cases core : node.nodeType = coreMemory
  · cases fittest <;> by_cases weak : node.unpinned = true ∧ node.live = true <;>
      simp +contextual [core, weak]
  · cases fittest <;> by_cases live : node.live = true <;> simp [core, live]

end

section

variable [DecidableEq Id] {scan : Scan} {measured graph : Graph Id Weight Blob}

theorem should_be_distinct : (shouldBeCore (computeMetrics scan measured)).Nodup := by
  have sorted : (((computeMetrics scan measured).mergeSort fitter).map Prod.fst).Nodup :=
    ((List.mergeSort_perm _ _).map Prod.fst).nodup_iff.mpr metrics_distinct
  exact sorted.sublist ((List.take_sublist _ _).map Prod.fst)

theorem fittest_outrank {id : Id} {other : Id × Metric}
    (chosen : id ∈ shouldBeCore (computeMetrics scan measured))
    (listed : other ∈ computeMetrics scan measured)
    (outside : other.1 ∉ shouldBeCore (computeMetrics scan measured)) :
    other.2.fitness ≤ (metricOf measured id).fitness := by
  have sorted := @List.pairwise_mergeSort _ (@fitter Id)
    (fun first second third one other => by
      rw [fitter, decide_eq_true_eq] at one other ⊢
      exact other.trans one)
    (fun first second => by
      rw [fitter, fitter, Bool.or_eq_true, decide_eq_true_eq, decide_eq_true_eq]
      exact le_total _ _)
    (computeMetrics scan measured)
  obtain ⟨entry, taken, rfl⟩ := List.mem_map.mp chosen
  have measured_entry := mem_compute_metrics.mp
    ((List.mergeSort_perm _ _).mem_iff.mp (List.mem_of_mem_take taken))
  have later : other ∈ ((computeMetrics scan measured).mergeSort fitter).drop
      (computeMetrics scan measured).length.sqrt := by
    have whole := (List.mergeSort_perm (computeMetrics scan measured) fitter).mem_iff.mpr listed
    rw [← List.take_append_drop (computeMetrics scan measured).length.sqrt
      ((computeMetrics scan measured).mergeSort fitter), List.mem_append] at whole
    exact whole.resolve_left fun early => outside (List.mem_map_of_mem early)
  rw [← List.take_append_drop (computeMetrics scan measured).length.sqrt
    ((computeMetrics scan measured).mergeSort fitter), List.pairwise_append] at sorted
  rw [← measured_entry.1]
  exact of_decide_eq_true (sorted.2.2 entry taken other later)

/-- The promotion, however old its metrics are, if there are any: the core memories are among
the top `⌊√N⌋` by fitness of the nodes that were measured, every live one of these is one,
every live core memory is permanent, and nothing that is permanent ceases to be. -/
theorem core_memories_promoted (populated : ∃ node ∈ measured.nodes.rows, node.live = true) :
    CoreMemories measured graph
      (promoteCoreMemories graph (computeMetrics scan measured)).2
      (shouldBeCore (computeMetrics scan measured)) := by
  have some_metrics : computeMetrics scan measured ≠ [] := by
    obtain ⟨node, member, live⟩ := populated
    have listed : (node.id, metricOf measured node.id) ∈ computeMetrics scan measured :=
      mem_compute_metrics.mpr ⟨rfl, node, Table.find_of_mem member, live⟩
    exact List.ne_nil_of_mem listed
  have count : (shouldBeCore (computeMetrics scan measured)).length =
      (measured.nodes.rows.filter Node.live).length.sqrt := by
    rw [shouldBeCore, List.length_map, List.length_take, List.length_mergeSort, metrics_length]
    exact Nat.min_eq_left (Nat.sqrt_le_self _)
  have found := @find_promoted _ _ _ _ graph _ some_metrics
  have core : ∀ id node,
      (promoteCoreMemories graph (computeMetrics scan measured)).2.nodes.find id = some node →
      (node.nodeType = coreMemory ↔ id ∈ shouldBeCore (computeMetrics scan measured) ∧
        ∃ prior, graph.nodes.find id = some prior ∧
          (prior.live = true ∨ prior.nodeType = coreMemory)) := by
    intro id node read
    rw [found, Option.map_eq_some_iff] at read
    obtain ⟨prior, there, rfl⟩ := read
    rw [settled_type, decide_eq_true_eq, there]
    simp
  refine ⟨count, should_be_distinct, ?_, core, ?_, ?_, ?_, ?_, ?_⟩
  · intro id chosen other node known live outside
    have listed : (other, metricOf measured other) ∈ computeMetrics scan measured :=
      mem_compute_metrics.mpr ⟨rfl, node, known, live⟩
    exact fittest_outrank chosen listed outside
  · rw [← count, ← List.length_map Node.id]
    apply List.Subperm.length_le
    apply List.subperm_of_subset
    · exact (Table.distinct _).sublist (List.filter_sublist.map Node.id)
    · intro id listed
      obtain ⟨node, member, rfl⟩ := List.mem_map.mp listed
      obtain ⟨there, held⟩ := List.mem_filter.mp member
      exact ((core _ _ (Table.find_of_mem there)).mp (of_decide_eq_true held)).1
  · intro id node read held live
    rw [found, Option.map_eq_some_iff] at read
    obtain ⟨prior, -, rfl⟩ := read
    exact settled_permanent held (settled_live ▸ live)
  · intro id
    rw [Table.has, Table.has, found, Option.isSome_map]
  · intro id prior node there read
    rw [found, there, Option.map_some, Option.some.injEq] at read
    subst read
    exact ⟨settled_live, settled_content, settled_pinned⟩
  · rw [promoteCoreMemories, if_neg some_metrics]
    exact ⟨rfl, rfl, rfl, rfl⟩

end

/-- Five nodes, of which 1 and 2 have the most children; 3 is a core memory. -/
def meadow : Graph Nat Int Unit where
  nodes := ⟨[
    { id := 1, content := [], nodeType := [] },
    { id := 2, content := [], nodeType := [] },
    { id := 3, content := [], nodeType := coreMemory, permanent := some 1 },
    { id := 4, content := [], nodeType := [] },
    { id := 5, content := [], nodeType := [] }], by decide⟩
  edges := ⟨[(1, 2), (1, 3), (1, 4), (2, 4), (2, 5), (3, 5)].map fun ends =>
    ⟨ends.1, ends.2, none, none, none⟩, by decide⟩
  embeddings := .empty
  vecEmbeddings := .empty
  decayAudit := []

/-- The same graph later: 1 is forgotten, and 6 has not been measured. -/
def regrown : Graph Nat Int Unit :=
  { meadow with
    nodes := ⟨[
      { id := 1, content := [], nodeType := [], decayed := some 1 },
      { id := 2, content := [], nodeType := [] },
      { id := 3, content := [], nodeType := coreMemory, permanent := some 1 },
      { id := 4, content := [], nodeType := [] },
      { id := 5, content := [], nodeType := [] },
      { id := 6, content := [], nodeType := [] }], by decide⟩ }

theorem regrown_promoted :
    CoreMemories meadow regrown (promoteCoreMemories regrown (computeMetrics asStored meadow)).2
      (shouldBeCore (computeMetrics asStored meadow)) :=
  core_memories_promoted ⟨_, List.mem_cons_self, rfl⟩

end HermesCashew.SleepForgetting
