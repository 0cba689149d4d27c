import HermesCashew.SleepForgetting
import HermesCashew.SleepMerge
import Mathlib.Logic.Relation

/-!
# The life of a memory

Everything that writes to the nodes of the graph, one transaction after another: the phases
of the sleep cycles, the turns and thoughts that are stored, and the accesses that are
counted. What holds is about every run of these: no permanent memory is forgotten, none is
lost when duplicates are merged, and nothing is forgotten without an audit row.
-/

namespace HermesCashew.SleepCycle

open HermesCashew.JsonText (CodePoint Str codePoint str)
open HermesCashew.KeyedTable HermesCashew.ThoughtGraph
open HermesCashew.SleepDedup HermesCashew.SleepForgetting
open HermesCashew.PreCompress (strip)

set_option autoImplicit false

variable {Id Weight Blob : Type}

/-! ## Dreams -/

/-- Where `splitlines` splits. -/
def lineBreak (point : CodePoint) : Bool :=
  point.val ∈ [0x0a, 0x0b, 0x0c, 0x0d, 0x1c, 0x1d, 0x1e, 0x85, 0x2028, 0x2029]

/-- `response.strip().splitlines()[0].strip()`, of at least twenty characters. -/
def dreamContent (response : Str) : Option Str :=
  let line := strip ((strip response).takeWhile fun point => !lineBreak point)
  if line.length < 20 then none else some line

def dreamPrompt (first second : Node Id) : Str :=
  str "Two thought-snippets surfaced from the same body of work. They were " ++
  str "embedded close in vector space, suggesting they share something. Read " ++
  str "them and find what they JOINTLY point at: a shared assumption, a hidden " ++
  str "invariant, a recurring failure mode, a deeper principle, or a contradiction. " ++
  str "Output ONE statement, in plain prose, that captures the synthesis. " ++
  str "Be specific. Name the concrete thing they share. If they don't share " ++
  str "anything meaningful, output a one-line note about WHY the embedding " ++
  str "linked them anyway (lexical overlap, structural similarity, etc.).\n\n" ++
  str "Rules: no preamble, no headers, no markdown. Output only the synthesis " ++
  str "statement, on a single line.\n\n" ++
  str "SNIPPET A (" ++ first.nodeType ++ str "):\n" ++ first.content ++ str "\n\n" ++
  str "SNIPPET B (" ++ second.nodeType ++ str "):\n" ++ second.content ++ str "\n"

/-- A cross-link: its ends and their similarity. -/
structure Link (Id Weight : Type) where
  one : Id
  other : Id
  sim : Weight

/-- What the code outside decides: SQLite the order of rows, Python that of a sample, and
the hash the id of a content. -/
structure World (Id : Type) where
  scan : Scan
  sampling : Sampling
  contentId : Str → Id

/-- A model's answer, when there is a model and it does not raise. -/
abbrev Model := Str → Option Str

/-- `max`, the first of equals. -/
def strongest [LT Weight] [DecidableLT Weight] : List (Link Id Weight) → Option (Link Id Weight)
  | [] => none
  | link :: rest =>
      some (rest.foldl (fun best other => if best.sim < other.sim then other else best) link)

section

variable [DecidableEq Id]

/-- The rows of `WHERE id IN (?, ?)`. -/
def endsOf (scan : Scan) (graph : Graph Id Weight Blob) (link : Link Id Weight) :
    List (Node Id) :=
  scan.order (graph.nodes.rows.filter fun node =>
    decide (node.id = link.one ∨ node.id = link.other))

def bridges (scan : Scan) (graph : Graph Id Weight Blob) (link : Link Id Weight) : Bool :=
  decide (1 < (((endsOf scan graph link).filterMap Node.sourceFile).filter
    fun source => decide (source ≠ [])).dedup.length)

def dreamNode (now : String) (id : Id) (content : Str) : Node Id where
  id := id
  content := content
  nodeType := str "dream"
  timestamp := some now
  moodState := some (str "dreamy")
  metadata := some (str "\x7b\x7d")
  sourceFile := some (str "sleep_protocol")

def dreamEdge (parent child : Id) (sim : Weight) : Edge Id Weight where
  parentId := parent
  childId := child
  weight := some sim
  reasoning := some (str "derived_from - Dream synthesis")

variable [LT Weight] [DecidableLT Weight]

/-- `_generate_dream`. -/
def generateDream (world : World Id) (now : String) (model : Option Model)
    (links : List (Link Id Weight)) (graph : Graph Id Weight Blob) :
    Option Id × Graph Id Weight Blob :=
  match model, strongest (links.filter (bridges world.scan graph)) with
  | some model, some best =>
      match endsOf world.scan graph best with
      | [first, second] =>
          match (model (dreamPrompt first second)).bind dreamContent with
          | none => (none, graph)
          | some content =>
              let id := world.contentId content
              (some id,
                { graph with
                  nodes := graph.nodes.insertOrReplace (dreamNode now id content)
                  edges := (graph.edges.insertOrIgnore
                    (dreamEdge best.one id best.sim)).insertOrIgnore
                      (dreamEdge best.other id best.sim) })
      | _ => (none, graph)
  | _, _ => (none, graph)

end

/-! ## The other writers -/

section

variable [DecidableEq Id]

def storedNode (now : String) (id : Id) (content nodeType sessionId domain : Str)
    (referentTime : Option String) : Node Id where
  id := id
  content := content
  nodeType := nodeType
  timestamp := some now
  sourceFile := some sessionId
  lastAccessed := some now
  accessCount := some 0
  domain := some domain
  referentTime := referentTime

/-- `_create_node`, which leaves a node alone that exists. -/
def createNode (world : World Id) (now : String) (content nodeType sessionId domain : Str)
    (referentTime : Option String) (graph : Graph Id Weight Blob) : Graph Id Weight Blob :=
  { graph with
    nodes := graph.nodes.insertOrIgnore
      (storedNode now (world.contentId content) content nodeType sessionId domain
        referentTime) }

/-- A counted access; `_update_access_metrics` leaves a count that is null. -/
def access (missing : Option Int) (now : String) (node : Node Id) : Node Id :=
  { node with
    accessCount := (node.accessCount.or missing).map (· + 1)
    lastAccessed := some now }

omit [DecidableEq Id] in
theorem access_id (missing : Option Int) (now : String) (node : Node Id) :
    (access missing now node).id = node.id := rfl

/-- `_update_access_metrics`. -/
def updateAccessMetrics (now : String) (ids : List Id) (graph : Graph Id Weight Blob) :
    Graph Id Weight Blob :=
  { graph with
    nodes := graph.nodes.update (fun node => decide (node.id ∈ ids)) (access none now)
      (access_id none now) }

/-- `_update_access_tracking`. -/
def updateAccessTracking (now : String) (ids : List Id) (graph : Graph Id Weight Blob) :
    Graph Id Weight Blob :=
  { graph with
    nodes := graph.nodes.update (fun node => decide (node.id ∈ ids)) (access (some 0) now)
      (access_id (some 0) now) }

end

/-- `gc_decay_audit`. -/
def gcDecayAudit (cutoff : String) (graph : Graph Id Weight Blob) : Graph Id Weight Blob :=
  { graph with
    decayAudit := graph.decayAudit.filter fun row => !decide (row.decayTimestamp < cutoff) }

/-! ## Runs -/

/-- A transaction that the nodes or the audit are written in. -/
inductive Act (Id Weight Blob : Type) where
  /-- A cluster of `_run_dedup`. -/
  | merge (now : String) (cluster : List Id)
  /-- The metrics are those of a graph that was measured before. -/
  | collect (settings : GcSettings) (clock : Clock) (measured : Graph Id Weight Blob)
  | permanence (stamp : Option String) (accessThreshold : Int)
  | core (measured : Graph Id Weight Blob)
  | dream (now : String) (model : Option Model) (links : List (Link Id Weight))
  | create (now : String) (content nodeType sessionId domain : Str)
      (referentTime : Option String)
  | accessed (now : String) (ids : List Id)
  | tracked (now : String) (ids : List Id)
  | prune (cutoff : String)
  /-- What writes to the other tables only. -/
  | elsewhere (edges : Table (Id × Id) (Edge Id Weight) Edge.ends)
      (embeddings : Table Id (Embedding Id Blob) Embedding.nodeId)
      (vecEmbeddings : Table Id (VecRow Id Blob) VecRow.nodeId)

section

variable [DecidableEq Id] [LT Weight] [DecidableLT Weight]

def perform (world : World Id) : Act Id Weight Blob → Graph Id Weight Blob → Graph Id Weight Blob
  | .merge now cluster, graph => (mergeCluster world.scan now graph cluster).2
  | .collect settings clock measured, graph =>
      (garbageCollect world.sampling settings clock graph
        (computeMetrics world.scan measured)).2
  | .permanence stamp accessThreshold, graph => (evaluatePermanence stamp accessThreshold graph).2
  | .core measured, graph =>
      (promoteCoreMemories graph (computeMetrics world.scan measured)).2
  | .dream now model links, graph => (generateDream world now model links graph).2
  | .create now content nodeType sessionId domain referentTime, graph =>
      createNode world now content nodeType sessionId domain referentTime graph
  | .accessed now ids, graph => updateAccessMetrics now ids graph
  | .tracked now ids, graph => updateAccessTracking now ids graph
  | .prune cutoff, graph => gcDecayAudit cutoff graph
  | .elsewhere edges embeddings vecEmbeddings, graph =>
      { graph with
        edges := edges
        embeddings := embeddings
        vecEmbeddings := vecEmbeddings }

def run (world : World Id) : List (Act Id Weight Blob) → Graph Id Weight Blob →
    Graph Id Weight Blob
  | [], graph => graph
  | act :: rest, graph => run world rest (perform world act graph)

def rowsOf (world : World Id) (act : Act Id Weight Blob) (graph : Graph Id Weight Blob) :
    List (AuditRow Id) :=
  (perform world act graph).decayAudit.drop graph.decayAudit.length

def dreamOf (world : World Id) : Act Id Weight Blob → Graph Id Weight Blob → Option Id
  | .dream now model links, graph => (generateDream world now model links graph).1
  | _, _ => none

def createdBy (world : World Id) : Act Id Weight Blob → Option Id
  | .create _ content _ _ _ _ => some (world.contentId content)
  | _ => none

def written (world : World Id) : List (Act Id Weight Blob) → Graph Id Weight Blob →
    List (AuditRow Id)
  | [], _ => []
  | act :: rest, graph => rowsOf world act graph ++ written world rest (perform world act graph)

def dreamt (world : World Id) : List (Act Id Weight Blob) → Graph Id Weight Blob → List Id
  | [], _ => []
  | act :: rest, graph =>
      (dreamOf world act graph).toList ++ dreamt world rest (perform world act graph)

end

/-! ## What an act does to a memory -/

/-- The audit rows of a merge that took a permanent node into its keeper. -/
def Absorbs (rows : List (AuditRow Id)) (loser keeper : Id) : Prop :=
  ∃ row ∈ rows, row.nodeId = loser ∧ row.decayReason = .dedupLoser ∧
    row.relatedNodes = some (.keeper keeper) ∧ row.metadata = some .absorbedPermanent

section

variable [DecidableEq Id]

/-- A collection that deletes its nodes. -/
def Act.hard : Act Id Weight Blob → Bool
  | .collect settings _ _ => decide (settings.mode = .hard)
  | _ => false

inductive Fate (before after : Graph Id Weight Blob) (rows : List (AuditRow Id))
    (dream created : Option Id) (hard : Bool) (id : Id) : Prop where
  | absent (missing : before.nodes.find id = none) (still : after.nodes.find id = none)
  | kept (prior node : Node Id) (found : before.nodes.find id = some prior)
      (read : after.nodes.find id = some node) (live : node.live = prior.live)
      (holds : prior.pinned = true → node.pinned = true)
      (gains : node.pinned = true → prior.pinned = true ∨ prior.live = true)
  | absorbed (prior : Node Id) (keeper : Id) (found : before.nodes.find id = some prior)
      (read : after.nodes.find id = some (retired prior))
      (audited : ∃ row ∈ rows, row.nodeId = id)
      (held : prior.pinned = true → Absorbs rows id keeper ∧
        ∃ kept, after.nodes.find keeper = some kept ∧ kept.pinned = true)
  | collected (prior : Node Id) (found : before.nodes.find id = some prior)
      (unpinned : prior.pinned = false)
      (read : after.nodes.find id = if hard then none else some prior.decay)
      (audited : ∃ row ∈ rows, row.nodeId = id)
  | dreamt (node : Node Id) (named : dream = some id) (read : after.nodes.find id = some node)
      (live : node.live = true)
  | created (node : Node Id) (named : created = some id)
      (missing : before.nodes.find id = none) (read : after.nodes.find id = some node)
      (live : node.live = true)

variable {before after graph : Graph Id Weight Blob} {rows : List (AuditRow Id)}
variable {dream created : Option Id} {hard : Bool} {id : Id}

theorem Fate.same (unchanged : after.nodes.find id = before.nodes.find id) :
    Fate before after rows dream created hard id := by
  cases found : before.nodes.find id with
  | none => exact .absent found (unchanged.trans found)
  | some node => exact .kept node node found (unchanged.trans found) rfl (fun pinned => pinned) .inl

theorem Fate.changed {change : Node Id → Node Id}
    (read : after.nodes.find id = (before.nodes.find id).map change)
    (live : ∀ node : Node Id, (change node).live = node.live)
    (holds : ∀ node : Node Id, node.pinned = true → (change node).pinned = true)
    (gains : ∀ node : Node Id, (change node).pinned = true →
      node.pinned = true ∨ node.live = true) :
    Fate before after rows dream created hard id := by
  cases found : before.nodes.find id with
  | none =>
      rw [found] at read
      exact .absent found read
  | some node =>
      rw [found] at read
      exact .kept node _ found read (live node) (holds node) (gains node)

/-! ### The phases -/

theorem merge_shape {scan : Scan} {now : String} {cluster : List Id} :
    mergeCluster scan now graph cluster = (none, graph) ∨
      ∃ keeper, keeperOf scan graph cluster = some keeper ∧
        (mergeCluster scan now graph cluster).2 =
          absorb scan now graph keeper.id (cluster.filter fun id => decide (id ≠ keeper.id))
            (permanentOf graph cluster) := by
  rw [mergeCluster]
  split
  · exact .inl rfl
  split
  · exact .inl rfl
  · rename_i keeper chosen
    dsimp only
    split
    · exact .inl rfl
    · exact .inr ⟨keeper, chosen, rfl⟩

omit [DecidableEq Id] in
theorem pinned_of_rank {first second : Node Id} (ahead : rank first ≤ rank second)
    (pinned : second.pinned = true) : first.pinned = true := by
  simp only [Node.pinned, decide_eq_true_eq] at pinned ⊢
  have lexicographic := (Prod.Lex.toLex_le_toLex).mp ahead
  rcases lexicographic with above | ⟨equal, -⟩
  · have stronger : second.permanent.getD 0 < first.permanent.getD 0 := above
    omega
  · have same : first.permanent.getD 0 = second.permanent.getD 0 := equal
    omega

theorem merge_fate (scan : Scan) (now : String) (cluster : List Id) (id : Id) :
    Fate graph (mergeCluster scan now graph cluster).2
      ((mergeCluster scan now graph cluster).2.decayAudit.drop graph.decayAudit.length)
      dream created hard id := by
  rcases @merge_shape _ _ _ _ graph scan now cluster with idle | ⟨keeper, chosen, shape⟩
  · rw [idle]
    exact .same rfl
  obtain ⟨keeper_found, keeper_inside, first⟩ := keeper_some chosen
  have within : ∀ loser ∈ cluster.filter (fun id => decide (id ≠ keeper.id)), loser ∈ cluster :=
    fun _ loser => List.mem_of_mem_filter loser
  have nodes := @absorb_nodes _ _ _ _ scan now keeper.id _ graph cluster within
  obtain ⟨rows, audit, losers, described⟩ :=
    @absorb_audit _ _ _ _ scan now keeper.id _ graph cluster within
  rw [shape, audit, List.drop_left]
  by_cases loser : id ∈ cluster.filter fun id => decide (id ≠ keeper.id)
  · cases found : graph.nodes.find id with
    | none => exact .absent found (by rw [nodes, found, Option.map_none])
    | some prior =>
        obtain ⟨row, listed, rfl⟩ := List.mem_map.mp (losers ▸ loser)
        obtain ⟨reason, related, absorbed⟩ := described row listed
        refine .absorbed prior keeper.id found ?_ ⟨row, listed, rfl⟩ ?_
        · rw [nodes, found, Option.map_some, if_pos loser]
        · intro pinned
          refine ⟨⟨row, listed, rfl, reason, related, absorbed.mpr ⟨prior, found, pinned⟩⟩,
            keeper, ?_, ?_⟩
          · rw [nodes, keeper_found, Option.map_some, if_neg]
            simp
          · exact pinned_of_rank (first row.nodeId (within _ loser) prior found) pinned
  · apply Fate.same
    rw [nodes]
    simp only [if_neg loser, Option.map_id_fun', id_eq]

theorem collect_fate (world : World Id) (settings : GcSettings) (clock : Clock)
    (measured : Graph Id Weight Blob) (id : Id) :
    Fate graph
      (garbageCollect world.sampling settings clock graph (computeMetrics world.scan measured)).2
      ((garbageCollect world.sampling settings clock graph
        (computeMetrics world.scan measured)).2.decayAudit.drop graph.decayAudit.length)
      dream created (decide (settings.mode = .hard)) id := by
  rcases @collects _ _ _ _ world.sampling settings clock graph
    (computeMetrics world.scan measured) with ⟨-, left⟩ | ⟨-, -, chosen, drawn, few, -, taken⟩
  · rw [left]
    exact .same rfl
  have collected := forgets_collected drawn few
  rw [taken, collected.audit, List.drop_left]
  by_cases listed : id ∈ chosen.map Prod.fst
  · obtain ⟨entry, member, rfl⟩ := List.mem_map.mp listed
    obtain ⟨prior, found, unprotected, -⟩ := collected.unfit entry member
    refine .collected prior found ?_ ?_ ⟨_, List.mem_map_of_mem member, rfl⟩
    · rw [Node.pinned, decide_eq_false_iff_not, not_le]
      exact unprotected.impermanent
    · rw [collected.nodes, if_pos listed, found, Option.bind_some, forgotten]
      simp only [decide_eq_true_eq]
  · apply Fate.same
    rw [collected.nodes, if_neg listed]

theorem permanence_fate (stamp : Option String) (accessThreshold : Int) (id : Id) :
    Fate graph (evaluatePermanence stamp accessThreshold graph).2 rows dream created hard id := by
  refine .changed (find_evaluated id) ?_ ?_ ?_
  · intro node
    split
    · rfl
    · rfl
  · intro node pinned
    split
    · rfl
    · exact pinned
  · intro node
    split
    · rename_i meets
      simp only [promotable, Bool.and_eq_true] at meets
      exact fun _ => .inr meets.2
    · exact .inl

theorem core_fate (metrics : List (Id × Metric)) (id : Id) :
    Fate graph (promoteCoreMemories graph metrics).2 rows dream created hard id := by
  by_cases empty : metrics = []
  · rw [promoteCoreMemories, if_pos empty]
    exact .same rfl
  · exact .changed (find_promoted empty id) (fun _ => settled_live)
      (fun _ => settled_pinned.1) (fun _ => settled_pinned.2)

theorem access_fate {missing : Option Int} {now : String} {ids : List Id}
    (read : after.nodes = before.nodes.update (fun node => decide (node.id ∈ ids))
      (access missing now) (access_id missing now)) :
    Fate before after rows dream created hard id := by
  refine .changed (by rw [read, Table.find_update]) ?_ ?_ ?_
  · intro node
    split
    · rfl
    · rfl
  · intro node pinned
    split
    · exact pinned
    · exact pinned
  · intro node pinned
    split at pinned
    · exact .inl pinned
    · exact .inl pinned

theorem create_fate (world : World Id) (now : String) (content nodeType sessionId domain : Str)
    (referentTime : Option String) (id : Id) :
    Fate graph (createNode world now content nodeType sessionId domain referentTime graph) rows
      dream (some (world.contentId content)) hard id := by
  cases found : graph.nodes.find id with
  | some node =>
      apply Fate.same
      rw [createNode, Table.find_insert_or_ignore, found]
      split
      · rfl
      · rfl
  | none =>
      by_cases named : world.contentId content = id
      · refine .created (storedNode now (world.contentId content) content nodeType sessionId
          domain referentTime) (congrArg some named) found ?_ rfl
        rw [createNode, Table.find_insert_or_ignore, found, Option.getD_none]
        exact if_pos named
      · apply Fate.same
        rw [createNode, Table.find_insert_or_ignore]
        exact if_neg named

variable [LT Weight] [DecidableLT Weight]

theorem dream_shape (world : World Id) (now : String) (model : Option Model)
    (links : List (Link Id Weight)) :
    generateDream world now model links graph = (none, graph) ∨
      ∃ content edges, generateDream world now model links graph =
        (some (world.contentId content),
          { graph with
            nodes := graph.nodes.insertOrReplace
              (dreamNode now (world.contentId content) content)
            edges := edges }) := by
  unfold generateDream
  split
  · split
    · dsimp only
      split
      · exact .inl rfl
      · rename_i content answer
        exact .inr ⟨content, _, rfl⟩
    · exact .inl rfl
  · exact .inl rfl

theorem dream_fate (world : World Id) (now : String) (model : Option Model)
    (links : List (Link Id Weight)) (id : Id) :
    Fate graph (generateDream world now model links graph).2 rows
      (generateDream world now model links graph).1 created hard id := by
  rcases @dream_shape _ _ _ _ graph _ _ world now model links with idle | ⟨content, edges, shape⟩
  · rw [idle]
    exact .same rfl
  rw [shape]
  by_cases named : world.contentId content = id
  · refine .dreamt (dreamNode now (world.contentId content) content) (congrArg some named) ?_ rfl
    rw [Table.find_insert_or_replace]
    exact if_pos named
  · apply Fate.same
    rw [Table.find_insert_or_replace]
    exact if_neg named

/-- Every act, told node by node. -/
theorem perform_fate (world : World Id) (act : Act Id Weight Blob) (id : Id) :
    Fate graph (perform world act graph) (rowsOf world act graph) (dreamOf world act graph)
      (createdBy world act) act.hard id := by
  cases act with
  | merge now cluster => exact merge_fate world.scan now cluster id
  | collect settings clock measured => exact collect_fate world settings clock measured id
  | permanence stamp accessThreshold => exact permanence_fate stamp accessThreshold id
  | core measured => exact core_fate (computeMetrics world.scan measured) id
  | dream now model links => exact dream_fate world now model links id
  | create now content nodeType sessionId domain referentTime =>
      exact create_fate world now content nodeType sessionId domain referentTime id
  | accessed now ids => exact access_fate rfl
  | tracked now ids => exact access_fate rfl
  | prune cutoff => exact .same rfl
  | elsewhere edges embeddings vecEmbeddings => exact .same rfl

end

/-! ## A sleep cycle is a run -/

structure SleepSummary (Id : Type) where
  dedupComponents : Nat
  dedupNodesMerged : Nat
  nodesGcDecayed : Nat
  nodesMadePermanent : Nat
  corePromoted : Nat
  coreDemoted : Nat
  dreamId : Option Id
  totalNodes : Nat

section

variable [DecidableEq Id] [LT Weight] [DecidableLT Weight]

/-- The phases of `run_sleep_cycle` that write to the nodes, once the duplicates of the page
and the cross-links are known. -/
def sleepPhases (world : World Id) (listing : Listing Id) (settings : GcSettings)
    (clock : Clock) (stamp : Option String) (model : Option Model) (ids : List Id)
    (dedupPairs : List (Nat × Nat)) (links : List (Link Id Weight))
    (graph : Graph Id Weight Blob) : SleepSummary Id × Graph Id Weight Blob :=
  let deduped := runDedup listing world.scan clock.now graph ids dedupPairs
  let metrics := computeMetrics world.scan deduped.2
  let collected := garbageCollect world.sampling settings clock deduped.2 metrics
  let promoted := evaluatePermanence stamp 10 collected.2
  let cored := promoteCoreMemories promoted.2 metrics
  let dreamed := generateDream world clock.now model links cored.2
  ({ dedupComponents := deduped.1.components
     dedupNodesMerged := deduped.1.nodesMerged
     nodesGcDecayed := collected.1.length
     nodesMadePermanent := promoted.1
     corePromoted := cored.1.promoted
     coreDemoted := cored.1.demoted
     dreamId := dreamed.1
     totalNodes := metrics.length }, dreamed.2)

theorem run_append (world : World Id) (first second : List (Act Id Weight Blob))
    (graph : Graph Id Weight Blob) :
    run world (first ++ second) graph = run world second (run world first graph) := by
  induction first generalizing graph with
  | nil => rfl
  | cons act rest induction => exact induction (perform world act graph)

theorem merges_run (world : World Id) (now : String) (found : List (List Id))
    (stats : DedupStats) (graph : Graph Id Weight Blob) :
    (found.foldl (mergeNext world.scan now) (stats, graph)).2 =
      run world (found.map (Act.merge now)) graph := by
  induction found generalizing stats graph with
  | nil => rfl
  | cons cluster rest induction =>
      rw [List.foldl_cons, List.map_cons, run, perform]
      have merged : (mergeNext world.scan now (stats, graph) cluster).2 =
          (mergeCluster world.scan now graph cluster).2 := by
        rw [mergeNext]
        split <;> rename_i shape <;> rw [shape]
      rw [← merged]
      exact induction _ _

/-- A cycle merges the clusters of its page and goes on with one act for each phase. -/
theorem sleep_phases_run (world : World Id) (listing : Listing Id) (settings : GcSettings)
    (clock : Clock) (stamp : Option String) (model : Option Model) (ids : List Id)
    (dedupPairs : List (Nat × Nat)) (links : List (Link Id Weight))
    (graph : Graph Id Weight Blob) :
    ∃ (found : List (List Id)) (measured : Graph Id Weight Blob),
      (sleepPhases world listing settings clock stamp model ids dedupPairs links graph).2 =
        run world (found.map (Act.merge clock.now) ++
          [.collect settings clock measured, .permanence stamp 10, .core measured,
            .dream clock.now model links]) graph := by
  refine ⟨clusters listing (named ids dedupPairs),
    (runDedup listing world.scan clock.now graph ids dedupPairs).2, ?_⟩
  rw [run_append, ← merges_run world clock.now _ {} graph, ← run_dedup_eq]
  rfl

end

/-! ## What holds of every run -/

def firstRows : Sampling where
  sample rows count := rows.take count
  drawn rows count enough :=
    ⟨List.length_take_of_le enough, (List.take_sublist count rows).subperm⟩

def waking : World Nat where
  scan := asStored
  sampling := firstRows
  contentId := List.length

def household : Graph Nat Int Unit where
  nodes := ⟨[{ id := 5, content := [], nodeType := [], permanent := some 1 },
    { id := 7, content := [], nodeType := [] },
    { id := 0, content := [], nodeType := [], decayed := some 1 }], by decide⟩
  edges := .empty
  embeddings := .empty
  vecEmbeddings := .empty
  decayAudit := []

def strict : GcSettings where
  threshold := 1
  sampleK := 1
  thinkCyclePenalty := 1
  mode := .soft

def noon : Clock := ⟨"", fun _ => none⟩

def night : List (Act Nat Int Unit) :=
  [.collect strict noon household, .create "" [] [] [] [] none]

section

variable [DecidableEq Id] [LT Weight] [DecidableLT Weight] {world : World Id}
variable {graph : Graph Id Weight Blob} {id : Id}

/-- No permanent node is forgotten. -/
def Safe (graph : Graph Id Weight Blob) : Prop :=
  ∀ id node, graph.nodes.find id = some node → node.pinned = true → node.live = true

omit [LT Weight] [DecidableLT Weight] in
theorem safe_of_rows (safe : ∀ node ∈ graph.nodes.rows, node.pinned = true → node.live = true) :
    Safe graph := by
  intro id node found
  exact safe node (Table.find_eq_some.mp found).1

theorem household_safe : Safe household := safe_of_rows (by decide)

omit [DecidableEq Id] [LT Weight] [DecidableLT Weight] in
theorem retired_pinned (node : Node Id) : (retired node).pinned = false := by
  rw [retired]
  split
  · rfl
  · rename_i unpinned
    rw [Node.decay_pinned]
    exact Bool.eq_false_iff.mpr unpinned

omit [DecidableEq Id] [LT Weight] [DecidableLT Weight] in
theorem retired_live (node : Node Id) : (retired node).live = false := by
  rw [retired]
  split
  · rfl
  · rfl

theorem perform_safe (safe : Safe graph) (act : Act Id Weight Blob) :
    Safe (perform world act graph) := by
  intro id node read pinned
  cases perform_fate world act id with
  | absent missing still =>
      rw [still] at read
      cases read
  | kept prior after found unchanged live holds gains =>
      obtain rfl := Option.some.inj (unchanged.symm.trans read)
      rw [live]
      exact (gains pinned).elim (safe id prior found) fun alive => alive
  | absorbed prior keeper found gone audited held =>
      obtain rfl := Option.some.inj (gone.symm.trans read)
      rw [retired_pinned] at pinned
      cases pinned
  | collected prior found unpinned gone audited =>
      rw [read] at gone
      split at gone
      · cases gone
      · obtain rfl := Option.some.inj gone
        rw [Node.decay_pinned, unpinned] at pinned
        cases pinned
  | dreamt fresh dreamed stored live =>
      obtain rfl := Option.some.inj (stored.symm.trans read)
      exact live
  | created fresh named missing stored live =>
      obtain rfl := Option.some.inj (stored.symm.trans read)
      exact live

/-- No run forgets a permanent node, when there is none that is forgotten already. -/
theorem permanent_never_decays (safe : Safe graph) (acts : List (Act Id Weight Blob)) :
    Safe (run world acts graph) := by
  induction acts generalizing graph with
  | nil => exact safe
  | cons act rest induction => exact induction (perform_safe safe act)

theorem household_never_decays : Safe (run waking night household) :=
  permanent_never_decays household_safe night

omit [DecidableEq Id] [LT Weight] [DecidableLT Weight] in
theorem Absorbs.mono {rows wider : List (AuditRow Id)} (within : rows ⊆ wider) {loser keeper : Id}
    (absorbs : Absorbs rows loser keeper) : Absorbs wider loser keeper := by
  obtain ⟨row, listed, described⟩ := absorbs
  exact ⟨row, within listed, described⟩

/-- A permanent memory is never lost. From its node the audit rows of the merges lead, keeper
by keeper, to a node that is permanent and not forgotten, unless a dream was stored over a
node on the way. -/
theorem permanent_memory_survives (safe : Safe graph) {node : Node Id}
    (found : graph.nodes.find id = some node) (pinned : node.pinned = true)
    (acts : List (Act Id Weight Blob)) :
    ∃ last, Relation.ReflTransGen (Absorbs (written world acts graph)) id last ∧
      ((∃ kept, (run world acts graph).nodes.find last = some kept ∧ kept.pinned = true ∧
        kept.live = true) ∨ last ∈ dreamt world acts graph) := by
  induction acts generalizing graph id node with
  | nil => exact ⟨id, .refl, .inl ⟨node, found, pinned, safe id node found pinned⟩⟩
  | cons act rest induction =>
      have later : written world rest (perform world act graph) ⊆
          written world (act :: rest) graph := List.subset_append_right _ _
      have now : rowsOf world act graph ⊆ written world (act :: rest) graph :=
        List.subset_append_left _ _
      have onwards : ∀ {start kept}, (perform world act graph).nodes.find start = some kept →
          kept.pinned = true →
          ∃ last, Relation.ReflTransGen (Absorbs (written world (act :: rest) graph)) start last ∧
            ((∃ kept, (run world (act :: rest) graph).nodes.find last = some kept ∧
              kept.pinned = true ∧ kept.live = true) ∨
                last ∈ dreamt world (act :: rest) graph) := by
        intro start kept there holds
        obtain ⟨last, path, ends⟩ := induction (perform_safe safe act) there holds
        refine ⟨last, Relation.ReflTransGen.mono (fun _ _ => Absorbs.mono later) _ _ path,
          ends.imp_right ?_⟩
        exact List.mem_append_right _
      cases perform_fate world act id with
      | absent missing still =>
          rw [found] at missing
          cases missing
      | kept prior after there read live holds gains =>
          obtain rfl := Option.some.inj (there.symm.trans found)
          exact onwards read (holds pinned)
      | absorbed prior keeper there gone audited held =>
          obtain rfl := Option.some.inj (there.symm.trans found)
          obtain ⟨absorbs, kept, keeps, permanent⟩ := held pinned
          obtain ⟨last, path, ends⟩ := onwards keeps permanent
          exact ⟨last, .head (absorbs.mono now) path, ends⟩
      | collected prior there unpinned gone audited =>
          obtain rfl := Option.some.inj (there.symm.trans found)
          rw [unpinned] at pinned
          cases pinned
      | dreamt fresh dreamed stored live =>
          refine ⟨id, .refl, .inr (List.mem_append_left _ ?_)⟩
          rw [dreamed]
          exact List.mem_singleton_self id
      | created fresh named missing stored live =>
          rw [found] at missing
          cases missing

/-- Three permanent nodes of different use, and a node. -/
def triplets : Graph Nat Int Unit where
  nodes := ⟨[
    { id := 5, content := [], nodeType := [], permanent := some 1, accessCount := some 2 },
    { id := 6, content := [], nodeType := [], permanent := some 1 },
    { id := 7, content := [], nodeType := [], permanent := some 1, accessCount := some 3 },
    { id := 8, content := [], nodeType := [] }], by decide⟩
  edges := .empty
  embeddings := .empty
  vecEmbeddings := .empty
  decayAudit := []

/-- The second merge absorbs the keeper of the first. -/
def reunion : List (Act Nat Int Unit) :=
  [.merge "" [5, 6], .create "" (str "new") [] [] [] none, .merge "" [5, 7]]

def halfway : Graph Nat Int Unit :=
  createNode waking "" (str "new") [] [] [] none (absorb asStored "" triplets 5 [6] [5, 6])

theorem reunion_merges : run waking reunion triplets = absorb asStored "" halfway 7 [5] [5, 7] := by
  have older : triplets.nodes.find triplets.nodes.rows[0].id = some triplets.nodes.rows[0] := rfl
  have eldest : halfway.nodes.find halfway.nodes.rows[2].id = some halfway.nodes.rows[2] := rfl
  have first : mergeCluster asStored "" triplets [5, 6] =
      (some 5, absorb asStored "" triplets 5 [6] [5, 6]) :=
    merge_cluster_of_first older (by decide) (by decide) (by decide) (by decide)
  have second : mergeCluster asStored "" halfway [5, 7] =
      (some 7, absorb asStored "" halfway 7 [5] [5, 7]) :=
    merge_cluster_of_first eldest (by decide) (by decide) (by decide) (by decide)
  simp only [reunion, run, perform]
  rw [show waking.scan = asStored from rfl, first]
  exact congrArg Prod.snd second

theorem triplets_survive :
    Relation.ReflTransGen (Absorbs (written waking reunion triplets)) 6 7 ∧
      ∃ kept, (run waking reunion triplets).nodes.find 7 = some kept ∧ kept.pinned = true ∧
        kept.live = true := by
  obtain ⟨last, path, ends⟩ := permanent_memory_survives
    (safe_of_rows (by decide) : Safe triplets)
    (show triplets.nodes.find 6 = some triplets.nodes.rows[1] from rfl) rfl reunion
  have only : ∀ node ∈ (run waking reunion triplets).nodes.rows, node.pinned = true →
      node.id = 7 := by
    rw [reunion_merges]
    decide
  rcases ends with ⟨kept, found, pinned, live⟩ | dreamed
  · obtain ⟨stored, rfl⟩ := Table.find_eq_some.mp found
    have same := only kept stored pinned
    rw [same] at path found
    exact ⟨path, kept, found, pinned, live⟩
  · cases dreamed

/-! ### What is forgotten -/

/-- An audit row is there until it is pruned. -/
theorem perform_audit (world : World Id) (act : Act Id Weight Blob)
    (graph : Graph Id Weight Blob) {row : AuditRow Id}
    (listed : row ∈ graph.decayAudit ∨ row ∈ rowsOf world act graph)
    (recent : ∀ cutoff, act = .prune cutoff → ¬row.decayTimestamp < cutoff) :
    row ∈ (perform world act graph).decayAudit := by
  rcases listed with before | now
  · cases act with
    | merge stamp cluster =>
        rcases @merge_shape _ _ _ _ graph world.scan stamp cluster with
          idle | ⟨keeper, chosen, shape⟩
        · rw [perform, idle]
          exact before
        · rw [perform, shape, absorb_eq]
          exact List.mem_append_left _ before
    | collect settings clock measured =>
        rcases @collects _ _ _ _ world.sampling settings clock graph
          (computeMetrics world.scan measured) with ⟨-, left⟩ | ⟨-, -, chosen, drawn, few, -, taken⟩
        · rw [perform, left]
          exact before
        · rw [perform, taken, (forgets_collected drawn few).audit]
          exact List.mem_append_left _ before
    | permanence stamp accessThreshold => exact before
    | core measured =>
        by_cases empty : computeMetrics world.scan measured = []
        · rw [perform, promoteCoreMemories, if_pos empty]
          exact before
        · rw [perform, promoteCoreMemories, if_neg empty]
          exact before
    | dream stamp model links =>
        rcases @dream_shape _ _ _ _ graph _ _ world stamp model links with
          idle | ⟨content, edges, shape⟩
        · rw [perform, idle]
          exact before
        · rw [perform, shape]
          exact before
    | create stamp content nodeType sessionId domain referentTime => exact before
    | accessed stamp ids => exact before
    | tracked stamp ids => exact before
    | prune cutoff =>
        apply List.mem_filter.mpr
        refine ⟨before, ?_⟩
        simp [recent cutoff rfl]
    | elsewhere edges embeddings vecEmbeddings => exact before
  · exact List.mem_of_mem_drop now

theorem run_audit {acts : List (Act Id Weight Blob)} {row : AuditRow Id}
    (listed : row ∈ graph.decayAudit ∨ row ∈ written world acts graph)
    (recent : ∀ cutoff, Act.prune cutoff ∈ acts → ¬row.decayTimestamp < cutoff) :
    row ∈ (run world acts graph).decayAudit := by
  induction acts generalizing graph with
  | nil => exact listed.resolve_right List.not_mem_nil
  | cons act rest induction =>
      apply induction _ fun cutoff pruned => recent cutoff (List.mem_cons_of_mem _ pruned)
      have first : row ∈ graph.decayAudit ∨ row ∈ rowsOf world act graph →
          row ∈ (perform world act graph).decayAudit := fun there =>
        perform_audit world act graph there fun cutoff pruned =>
          recent cutoff (pruned ▸ List.mem_cons_self)
      rcases listed with before | now
      · exact .inl (first (.inl before))
      · rcases List.mem_append.mp now with here | later
        · exact .inl (first (.inr here))
        · exact .inr later

/-- Nothing is forgotten in silence. A node that was live, and at the end of a run has no
live row, was audited in the run, and its audit row is still there if every pruning spared
its time. -/
theorem forgotten_audited {node : Node Id} (found : graph.nodes.find id = some node)
    (live : node.live = true) (acts : List (Act Id Weight Blob))
    (forgotten : ∀ left, (run world acts graph).nodes.find id = some left → left.live = false) :
    ∃ row ∈ written world acts graph, row.nodeId = id ∧
      ((∀ cutoff, Act.prune cutoff ∈ acts → ¬row.decayTimestamp < cutoff) →
        row ∈ (run world acts graph).decayAudit) := by
  suffices ∃ row ∈ written world acts graph, row.nodeId = id by
    obtain ⟨row, listed, named⟩ := this
    exact ⟨row, listed, named, run_audit (.inr listed)⟩
  induction acts generalizing graph node with
  | nil =>
      have dead := forgotten node found
      rw [live] at dead
      cases dead
  | cons act rest induction =>
      have here : (∃ row ∈ rowsOf world act graph, row.nodeId = id) →
          ∃ row ∈ written world (act :: rest) graph, row.nodeId = id := by
        rintro ⟨row, listed, named⟩
        exact ⟨row, List.mem_append_left _ listed, named⟩
      have onwards : ∀ {after}, (perform world act graph).nodes.find id = some after →
          after.live = true → ∃ row ∈ written world (act :: rest) graph, row.nodeId = id := by
        intro after there alive
        obtain ⟨row, listed, named⟩ := induction there alive forgotten
        exact ⟨row, List.mem_append_right _ listed, named⟩
      cases perform_fate world act id with
      | absent missing still =>
          rw [found] at missing
          cases missing
      | kept prior after there read unchanged holds gains =>
          obtain rfl := Option.some.inj (there.symm.trans found)
          exact onwards read (unchanged.trans live)
      | absorbed prior keeper there gone audited held => exact here audited
      | collected prior there unpinned gone audited => exact here audited
      | dreamt fresh dreamed stored alive => exact onwards stored alive
      | created fresh named missing stored alive =>
          rw [found] at missing
          cases missing

theorem household_audited :
    ∃ row ∈ written waking night household, row.nodeId = 7 ∧
      ((∀ cutoff, Act.prune cutoff ∈ night → ¬row.decayTimestamp < cutoff) →
        row ∈ (run waking night household).decayAudit) :=
  forgotten_audited (show household.nodes.find 7 = some household.nodes.rows[1] from rfl) rfl night
    (by decide +kernel)

/-- Forgetting is final, where nothing is deleted: storing the same content again does not
bring a forgotten node back, nor does any other act but a dream of its very text. -/
theorem forgetting_final {node : Node Id} (found : graph.nodes.find id = some node)
    (dead : node.live = false) (acts : List (Act Id Weight Blob))
    (soft : ∀ act ∈ acts, act.hard = false) :
    (∃ left, (run world acts graph).nodes.find id = some left ∧ left.live = false) ∨
      id ∈ dreamt world acts graph := by
  induction acts generalizing graph node with
  | nil => exact .inl ⟨node, found, dead⟩
  | cons act rest induction =>
      have onwards : ∀ {after}, (perform world act graph).nodes.find id = some after →
          after.live = false →
          (∃ left, (run world (act :: rest) graph).nodes.find id = some left ∧
            left.live = false) ∨ id ∈ dreamt world (act :: rest) graph := by
        intro after there gone
        exact (induction there gone fun other listed =>
          soft other (List.mem_cons_of_mem _ listed)).imp_right (List.mem_append_right _)
      cases perform_fate world act id with
      | absent missing still =>
          rw [found] at missing
          cases missing
      | kept prior after there read unchanged holds gains =>
          obtain rfl := Option.some.inj (there.symm.trans found)
          exact onwards read (unchanged.trans dead)
      | absorbed prior keeper there gone audited held => exact onwards gone (retired_live prior)
      | collected prior there unpinned gone audited =>
          rw [soft act List.mem_cons_self] at gone
          exact onwards gone prior.decay_live
      | dreamt fresh dreamed stored alive =>
          refine .inr (List.mem_append_left _ ?_)
          rw [dreamed]
          exact List.mem_singleton_self id
      | created fresh named missing stored alive =>
          rw [found] at missing
          cases missing

theorem household_final :
    (∃ left, (run waking night household).nodes.find 0 = some left ∧ left.live = false) ∨
      0 ∈ dreamt waking night household :=
  forgetting_final (show household.nodes.find 0 = some household.nodes.rows[2] from rfl) rfl night
    (by decide)

end

end HermesCashew.SleepCycle
