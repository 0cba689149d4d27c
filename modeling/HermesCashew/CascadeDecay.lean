import HermesCashew.VectorIndex
import Mathlib

/-!
# The cascade of a decay

`cascade_decay` goes down from a decayed node. A child that nothing else anchors, that was
never accessed and that is old enough decays in its turn, and its own children are looked at
later. Whatever the order of the rows, the cascade ends, and it leaves no child of what
decayed that it should have taken: one that is left and meets the gate has a live parent.
`auto_decay` starts a cascade below each node that it prunes, and `get_decay_candidates`
previews both.
-/

namespace HermesCashew.CascadeDecay

open HermesCashew.JsonText (Str str)
open HermesCashew.KeyedTable HermesCashew.ThoughtGraph
open HermesCashew.VectorIndex (isLive is_live_iff)

set_option autoImplicit false

variable {Id Weight Blob : Type}

/-! ## State -/

/-- A call of `log_decay_event` with the reason `organic_cascade`. -/
structure CascadeEvent (Id : Type) where
  nodeId : Id
  parentId : Id
  rootId : Id

structure Sweep (Id Weight Blob : Type) where
  graph : Graph Id Weight Blob
  nodesToProcess : List Id
  processedNodes : List Id := []
  events : List (CascadeEvent Id) := []
  cascadedCount : Nat := 0

structure Setting where
  now : String
  /-- A stamp that parses, of an age of `CASCADE_MIN_AGE_DAYS` at least. -/
  aged : String → Bool
  /-- The table `decay_audit` exists, which no function here creates. -/
  hasAudit : Bool
  minAgeDays : Int

/-- `_cascade_eligible`, of a row that was found. -/
def cascadeEligible (setting : Setting) (node : Node Id) : Bool :=
  decide (node.accessCount.getD 0 ≤ 0) &&
    node.timestamp.any fun stamp => decide (stamp ≠ "") && setting.aged stamp

def cascaded (setting : Setting) (node : Node Id) : Node Id :=
  { node with
    decayed := some 1
    lastUpdated := some setting.now }

@[simp] theorem cascaded_id (setting : Setting) (node : Node Id) :
    (cascaded setting node).id = node.id := rfl

@[simp] theorem cascaded_live (setting : Setting) (node : Node Id) :
    (cascaded setting node).live = false := rfl

section

variable [DecidableEq Id]

/-- `log_decay_event`, which returns silently where the table is absent. -/
def logEvent (setting : Setting) (graph : Graph Id Weight Blob) (nodeId : Id)
    (reason : DecayReason) (related : Option (Related Id)) (metadata : Option AuditMetadata) :
    Graph Id Weight Blob :=
  if setting.hasAudit then logDecayEvent setting.now graph nodeId reason related metadata
  else graph

def anchored (graph : Graph Id Weight Blob) (current child : Id) : Bool :=
  graph.edges.rows.any fun edge =>
    decide (edge.childId = child) && isLive graph edge.parentId && decide (edge.parentId ≠ current)

def children (scan : Scan) (graph : Graph Id Weight Blob) (current : Id) : List Id :=
  (scan.order (graph.edges.rows.filter fun edge => decide (edge.parentId = current))).map
    Edge.childId

def updateChild (setting : Setting) (graph : Graph Id Weight Blob) (child : Id) :
    Graph Id Weight Blob :=
  { graph with
    nodes := graph.nodes.update (fun node => decide (node.id = child))
      (cascaded setting) (cascaded_id setting) }

def fall (setting : Setting) (root current child : Id) (sweep : Sweep Id Weight Blob) :
    Sweep Id Weight Blob :=
  { sweep with
    graph := logEvent setting (updateChild setting sweep.graph child) child .organicCascade
      (some (.lineage current root)) none
    nodesToProcess := sweep.nodesToProcess ++ [child]
    events := sweep.events ++ [⟨child, current, root⟩]
    cascadedCount := sweep.cascadedCount + 1 }

def visit (setting : Setting) (root current : Id) (sweep : Sweep Id Weight Blob) (child : Id) :
    Sweep Id Weight Blob :=
  if anchored sweep.graph current child then sweep
  else
    match sweep.graph.nodes.find child with
    | none => sweep
    | some node =>
        if !node.live || !node.unpinned then sweep
        else if cascadeEligible setting node then fall setting root current child sweep
        else sweep

/-- The loop; `none` is one that has not ended within the fuel. -/
def process (scan : Scan) (setting : Setting) (root : Id) :
    Nat → Sweep Id Weight Blob → Option (Sweep Id Weight Blob)
  | 0, _ => none
  | fuel + 1, sweep =>
      match sweep.nodesToProcess with
      | [] => some sweep
      | current :: rest =>
          if current ∈ sweep.processedNodes then
            process scan setting root fuel { sweep with nodesToProcess := rest }
          else
            process scan setting root fuel
              ((children scan sweep.graph current).foldl (visit setting root current)
                { sweep with
                  nodesToProcess := rest
                  processedNodes := current :: sweep.processedNodes })

/-- `cascade_decay`. -/
def cascadeDecay (scan : Scan) (setting : Setting) (fuel : Nat) (graph : Graph Id Weight Blob)
    (decayedNodeId : Id) : Option (Sweep Id Weight Blob) :=
  process scan setting decayedNodeId fuel { graph := graph, nodesToProcess := [decayedNodeId] }

end

/-! ## What a cascade is -/

def Derives (graph : Graph Id Weight Blob) (parent child : Id) : Prop :=
  ∃ edge ∈ graph.edges.rows, edge.parentId = parent ∧ edge.childId = child

section

variable [DecidableEq Id] {setting : Setting} {scan : Scan} {root current child id : Id}
variable {start graph : Graph Id Weight Blob} {sweep : Sweep Id Weight Blob}

/-- A live node that the gate lets decay. -/
def Gated (setting : Setting) (graph : Graph Id Weight Blob) (id : Id) : Prop :=
  ∃ node, graph.nodes.find id = some node ∧ node.live = true ∧ node.unpinned = true ∧
    cascadeEligible setting node = true

def Sweep.fallen (sweep : Sweep Id Weight Blob) : List Id :=
  sweep.events.map CascadeEvent.nodeId

/-- The row of `decay_audit` for an event. -/
def cascadeRow (setting : Setting) (start : Graph Id Weight Blob) (event : CascadeEvent Id) :
    AuditRow Id :=
  auditRow setting.now start event.nodeId .organicCascade
    (some (.lineage event.parentId event.rootId)) none

structure Fell (setting : Setting) (start graph : Graph Id Weight Blob) (root : Id)
    (event : CascadeEvent Id) : Prop where
  gated : Gated setting start event.nodeId
  derives : Derives start event.parentId event.nodeId
  named : event.rootId = root
  reached : Relation.TransGen (Derives start) root event.nodeId
  unanchored : ∀ parent, Derives start parent event.nodeId → isLive graph parent = false

/-- What holds of the loop at any time. -/
structure Sound (setting : Setting) (start : Graph Id Weight Blob) (root : Id)
    (sweep : Sweep Id Weight Blob) : Prop where
  nodes : ∀ id, sweep.graph.nodes.find id = (start.nodes.find id).map fun node =>
    if id ∈ sweep.fallen then cascaded setting node else node
  edges : sweep.graph.edges = start.edges
  embeddings : sweep.graph.embeddings = start.embeddings
  index : sweep.graph.vecEmbeddings = start.vecEmbeddings
  audit : sweep.graph.decayAudit =
    if setting.hasAudit then start.decayAudit ++ sweep.events.map (cascadeRow setting start)
    else start.decayAudit
  distinct : sweep.fallen.Nodup
  count : sweep.cascadedCount = sweep.events.length
  fell : ∀ event ∈ sweep.events, Fell setting start sweep.graph root event
  dead : ∀ id, id ∈ sweep.nodesToProcess ∨ id ∈ sweep.processedNodes →
    isLive sweep.graph id = false
  reached : ∀ id, id ∈ sweep.nodesToProcess ∨ id ∈ sweep.processedNodes →
    Relation.ReflTransGen (Derives start) root id
  known : ∀ id, id = root ∨ id ∈ sweep.fallen →
    id ∈ sweep.nodesToProcess ∨ id ∈ sweep.processedNodes

/-- A child that meets the gate has a parent that is live or that is still to be looked at,
or it is among those that are looked at now. -/
def Covered (setting : Setting) (sweep : Sweep Id Weight Blob) (now : List Id) : Prop :=
  ∀ parent ∈ sweep.processedNodes, ∀ child, Derives sweep.graph parent child →
    Gated setting sweep.graph child →
    child ∈ now ∨ ∃ other, Derives sweep.graph other child ∧
      (isLive sweep.graph other = true ∨
        other ∈ sweep.nodesToProcess ∧ other ∉ sweep.processedNodes)

/-! ## One child -/

theorem anchored_iff : anchored graph current child = true ↔
    ∃ parent, Derives graph parent child ∧ isLive graph parent = true ∧ parent ≠ current := by
  simp only [anchored, Derives, List.any_eq_true, Bool.and_eq_true, decide_eq_true_eq]
  constructor
  · rintro ⟨edge, stored, ⟨same, live⟩, other⟩
    exact ⟨edge.parentId, ⟨edge, stored, rfl, same⟩, live, other⟩
  · rintro ⟨parent, ⟨edge, stored, rfl, same⟩, live, other⟩
    exact ⟨edge, stored, ⟨same, live⟩, other⟩

theorem mem_children : child ∈ children scan graph current ↔ Derives graph current child := by
  simp only [children, Derives, List.mem_map, Scan.mem, List.mem_filter, decide_eq_true_eq]
  constructor
  · rintro ⟨edge, ⟨stored, same⟩, named⟩
    exact ⟨edge, stored, same, named⟩
  · rintro ⟨edge, stored, same, named⟩
    exact ⟨edge, ⟨stored, same⟩, named⟩

theorem visit_cases :
    (visit setting root current sweep child = sweep ∧
      (anchored sweep.graph current child = true ∨ ¬Gated setting sweep.graph child)) ∨
    (visit setting root current sweep child = fall setting root current child sweep ∧
      anchored sweep.graph current child = false ∧ Gated setting sweep.graph child) := by
  rw [visit]
  split
  · rename_i held
    exact .inl ⟨rfl, .inl held⟩
  rename_i loose
  split
  · rename_i missing
    refine .inl ⟨rfl, .inr ?_⟩
    rintro ⟨node, found, -⟩
    rw [missing] at found
    cases found
  rename_i node found
  split
  · rename_i exempt
    refine .inl ⟨rfl, .inr ?_⟩
    rintro ⟨other, same, live, unpinned, -⟩
    obtain rfl := Option.some.inj (found.symm.trans same)
    rw [live, unpinned] at exempt
    cases exempt
  rename_i subject
  have gate : node.live = true ∧ node.unpinned = true := by
    simpa using subject
  split
  · rename_i eligible
    exact .inr ⟨rfl, Bool.eq_false_iff.mpr loose, node, found, gate.1, gate.2, eligible⟩
  · rename_i ineligible
    refine .inl ⟨rfl, .inr ?_⟩
    rintro ⟨other, same, -, -, eligible⟩
    obtain rfl := Option.some.inj (found.symm.trans same)
    exact ineligible eligible

theorem Gated.live (gated : Gated setting graph id) : isLive graph id = true := by
  obtain ⟨node, found, live, -⟩ := gated
  exact is_live_iff.mpr ⟨node, found, live⟩

@[simp] theorem log_event_nodes {reason : DecayReason} {related : Option (Related Id)}
    {metadata : Option AuditMetadata} :
    (logEvent setting graph id reason related metadata).nodes = graph.nodes := by
  rw [logEvent]
  split <;> rfl

@[simp] theorem log_event_edges {reason : DecayReason} {related : Option (Related Id)}
    {metadata : Option AuditMetadata} :
    (logEvent setting graph id reason related metadata).edges = graph.edges := by
  rw [logEvent]
  split <;> rfl

@[simp] theorem log_event_embeddings {reason : DecayReason} {related : Option (Related Id)}
    {metadata : Option AuditMetadata} :
    (logEvent setting graph id reason related metadata).embeddings = graph.embeddings := by
  rw [logEvent]
  split <;> rfl

@[simp] theorem log_event_index {reason : DecayReason} {related : Option (Related Id)}
    {metadata : Option AuditMetadata} :
    (logEvent setting graph id reason related metadata).vecEmbeddings = graph.vecEmbeddings := by
  rw [logEvent]
  split <;> rfl

theorem log_event_audit (reason : DecayReason) (related : Option (Related Id))
    (metadata : Option AuditMetadata) :
    (logEvent setting graph id reason related metadata).decayAudit =
      if setting.hasAudit then
        graph.decayAudit ++ [auditRow setting.now graph id reason related metadata]
      else graph.decayAudit := by
  rw [logEvent]
  split <;> rfl

/-- An audit row shows nothing of the columns that a decay writes. -/
theorem audit_row_decayed {other : Graph Id Weight Blob} {listed : Node Id → Prop}
    [DecidablePred listed]
    (same : other.nodes.find id = (graph.nodes.find id).map fun node =>
      if listed node then cascaded setting node else node)
    (reason : DecayReason) (related : Option (Related Id)) (metadata : Option AuditMetadata) :
    auditRow setting.now other id reason related metadata =
      auditRow setting.now graph id reason related metadata := by
  rw [auditRow, same, auditRow]
  cases graph.nodes.find id with
  | none => rfl
  | some node =>
      by_cases decays : listed node
      · simp [decays, cascaded]
      · simp [decays]

theorem find_update_child (id : Id) :
    (updateChild setting graph child).nodes.find id =
      (graph.nodes.find id).map fun node => if id = child then cascaded setting node else node := by
  rw [updateChild]
  dsimp only
  rw [Table.find_update]
  cases found : graph.nodes.find id with
  | none => rfl
  | some node =>
      obtain ⟨-, rfl⟩ := Table.find_eq_some.mp found
      simp

theorem fall_nodes : (fall setting root current child sweep).graph.nodes =
    (updateChild setting sweep.graph child).nodes :=
  log_event_nodes

theorem fall_derives {parent other : Id} :
    Derives (fall setting root current child sweep).graph parent other ↔
      Derives sweep.graph parent other := by
  rw [Derives, Derives, fall, log_event_edges]
  rfl

theorem find_fall (id : Id) :
    (fall setting root current child sweep).graph.nodes.find id =
      (sweep.graph.nodes.find id).map fun node =>
        if id = child then cascaded setting node else node := by
  rw [fall_nodes, find_update_child]

theorem fall_live (id : Id) :
    isLive (fall setting root current child sweep).graph id =
      (isLive sweep.graph id && decide (id ≠ child)) := by
  rw [isLive, find_fall, isLive]
  cases sweep.graph.nodes.find id with
  | none => rfl
  | some node =>
      by_cases same : id = child
      · simp [same]
      · simp [same]

theorem fall_fallen :
    (fall setting root current child sweep).fallen = sweep.fallen ++ [child] := by
  rw [Sweep.fallen, fall, List.map_append]
  rfl

theorem fall_gated (gated : Gated setting (fall setting root current child sweep).graph id) :
    id ≠ child ∧ Gated setting sweep.graph id := by
  have live := gated.live
  rw [fall_live, Bool.and_eq_true, decide_eq_true_eq] at live
  refine ⟨live.2, ?_⟩
  obtain ⟨node, found, rest⟩ := gated
  rw [find_fall] at found
  simp only [if_neg live.2, Option.map_id_fun', id_eq] at found
  exact ⟨node, found, rest⟩

theorem Sound.live (sound : Sound setting start root sweep) (id : Id) :
    isLive sweep.graph id = (isLive start id && decide (id ∉ sweep.fallen)) := by
  rw [isLive, sound.nodes, isLive]
  cases start.nodes.find id with
  | none => rfl
  | some node =>
      by_cases listed : id ∈ sweep.fallen
      · simp [listed]
      · simp [listed]

theorem Sound.derives (sound : Sound setting start root sweep) {parent : Id} :
    Derives sweep.graph parent child ↔ Derives start parent child := by
  rw [Derives, Derives, sound.edges]

theorem Sound.gated (sound : Sound setting start root sweep)
    (gated : Gated setting sweep.graph id) : id ∉ sweep.fallen ∧ Gated setting start id := by
  have live := gated.live
  rw [sound.live, Bool.and_eq_true, decide_eq_true_eq] at live
  refine ⟨live.2, ?_⟩
  obtain ⟨node, found, rest⟩ := gated
  rw [sound.nodes] at found
  simp only [if_neg live.2, Option.map_id_fun', id_eq] at found
  exact ⟨node, found, rest⟩

theorem fall_sound (sound : Sound setting start root sweep)
    (looked : current ∈ sweep.processedNodes) (derives : Derives sweep.graph current child)
    (loose : anchored sweep.graph current child = false)
    (gated : Gated setting sweep.graph child) :
    Sound setting start root (fall setting root current child sweep) := by
  obtain ⟨fresh, was_gated⟩ := sound.gated gated
  have down : ∀ id, isLive sweep.graph id = false →
      isLive (fall setting root current child sweep).graph id = false := by
    intro id dead
    rw [fall_live, dead, Bool.false_and]
  have step : Derives start current child := sound.derives.mp derives
  have path : Relation.TransGen (Derives start) root child :=
    Relation.TransGen.tail' (sound.reached current (.inr looked)) step
  have nodes (id : Id) : (fall setting root current child sweep).graph.nodes.find id =
      (start.nodes.find id).map fun node =>
        if id ∈ (fall setting root current child sweep).fallen then cascaded setting node
        else node := by
    rw [find_fall, sound.nodes, Option.map_map, fall_fallen]
    cases start.nodes.find id with
    | none => rfl
    | some node =>
        by_cases same : id = child
        · subst same
          simp [fresh]
        · simp [same]
  refine ⟨nodes, log_event_edges.trans sound.edges,
    log_event_embeddings.trans sound.embeddings, log_event_index.trans sound.index,
    ?_, ?_, ?_, ?_, ?_, ?_, ?_⟩
  · have row : auditRow setting.now (updateChild setting sweep.graph child) child
        .organicCascade (some (.lineage current root)) none =
          cascadeRow setting start ⟨child, current, root⟩ := by
      have found := nodes child
      rw [fall_nodes] at found
      exact audit_row_decayed found _ _ _
    rw [fall]
    dsimp only
    rw [log_event_audit, row, List.map_append, ← List.append_assoc]
    change (if setting.hasAudit then sweep.graph.decayAudit ++ _ else sweep.graph.decayAudit) = _
    rw [sound.audit]
    split <;> rfl
  · rw [fall_fallen]
    exact List.nodup_append'.mpr ⟨sound.distinct, List.nodup_singleton child,
      List.disjoint_singleton.mpr fresh⟩
  · rw [fall, List.length_append, ← sound.count]
    rfl
  · intro row listed
    rcases List.mem_append.mp listed with old | new
    · have fell := sound.fell row old
      exact ⟨fell.gated, fell.derives, fell.named, fell.reached,
        fun parent edge => down parent (fell.unanchored parent edge)⟩
    · obtain rfl := List.mem_singleton.mp new
      refine ⟨was_gated, step, rfl, path, fun parent edge => ?_⟩
      by_cases same : parent = current
      · exact down parent (sound.dead parent (.inr (same ▸ looked)))
      · refine down parent (Bool.eq_false_iff.mpr fun live => ?_)
        have held := anchored_iff.mpr ⟨parent, sound.derives.mpr edge, live, same⟩
        rw [loose] at held
        cases held
  · rintro id (waits | done)
    · rcases List.mem_append.mp waits with old | new
      · exact down id (sound.dead id (.inl old))
      · rw [List.mem_singleton.mp new, fall_live]
        simp
    · exact down id (sound.dead id (.inr done))
  · rintro id (waits | done)
    · rcases List.mem_append.mp waits with old | new
      · exact sound.reached id (.inl old)
      · rw [List.mem_singleton.mp new]
        exact path.to_reflTransGen
    · exact sound.reached id (.inr done)
  · intro id named
    rw [fall_fallen, List.mem_append, ← or_assoc] at named
    rcases named with old | new
    · rcases sound.known id old with waits | done
      · exact .inl (List.mem_append_left _ waits)
      · exact .inr done
    · exact .inl (List.mem_append_right _ new)

/-- The next of the children that are looked at. -/
theorem visit_covers (sound : Sound setting start root sweep) {rest : List Id}
    (looked : current ∈ sweep.processedNodes) (derives : Derives sweep.graph current child)
    (covered : Covered setting sweep (child :: rest)) :
    Sound setting start root (visit setting root current sweep child) ∧
      Covered setting (visit setting root current sweep child) rest ∧
      (visit setting root current sweep child).processedNodes = sweep.processedNodes := by
  rcases @visit_cases _ _ _ _ setting root current child sweep with
    ⟨same, spared⟩ | ⟨fell, loose, gated⟩
  · rw [same]
    refine ⟨sound, fun parent done other edge gate => ?_, rfl⟩
    rcases covered parent done other edge gate with now | held
    · rcases List.mem_cons.mp now with rfl | later
      · have held := anchored_iff.mp (spared.resolve_right fun out => out gate)
        obtain ⟨anchor, from_anchor, live, -⟩ := held
        exact .inr ⟨anchor, from_anchor, .inl live⟩
      · exact .inl later
    · exact .inr held
  · rw [fell]
    refine ⟨fall_sound sound looked derives loose gated,
      fun parent done other edge gate => ?_, rfl⟩
    obtain ⟨apart, was_gated⟩ := fall_gated gate
    rcases covered parent done other (fall_derives.mp edge) was_gated with
      now | ⟨anchor, from_anchor, state⟩
    · exact .inl ((List.mem_cons.mp now).resolve_left apart)
    · refine .inr ⟨anchor, fall_derives.mpr from_anchor, ?_⟩
      rcases state with live | ⟨waits, fresh⟩
      · by_cases gone : anchor = child
        · subst gone
          refine .inr ⟨List.mem_append_right _ (List.mem_singleton_self _), fun again => ?_⟩
          have dead := sound.dead anchor (.inr again)
          rw [dead] at live
          cases live
        · left
          rw [fall_live, live, Bool.true_and, decide_eq_true_eq]
          exact gone
      · exact .inr ⟨List.mem_append_left _ waits, fresh⟩

theorem visits_cover {listed : List Id} (sound : Sound setting start root sweep)
    (looked : current ∈ sweep.processedNodes)
    (derives : ∀ child ∈ listed, Derives start current child)
    (covered : Covered setting sweep listed) :
    Sound setting start root (listed.foldl (visit setting root current) sweep) ∧
      Covered setting (listed.foldl (visit setting root current) sweep) [] := by
  induction listed generalizing sweep with
  | nil => exact ⟨sound, covered⟩
  | cons child rest induction =>
      obtain ⟨next, covers, same⟩ := visit_covers sound looked
        (sound.derives.mpr (derives child List.mem_cons_self)) covered
      exact induction next (same ▸ looked)
        (fun other later => derives other (List.mem_cons_of_mem _ later)) covers

/-! ## The whole cascade -/

def liveCount (graph : Graph Id Weight Blob) : Nat :=
  (graph.nodes.rows.filter Node.live).length

/-- What the loop has left to do at most: every node that it adds was live before. -/
def Sweep.work (sweep : Sweep Id Weight Blob) : Nat :=
  sweep.nodesToProcess.length + liveCount sweep.graph

theorem fall_work (gated : Gated setting sweep.graph child) :
    (fall setting root current child sweep).work ≤ sweep.work := by
  obtain ⟨node, found, live, -⟩ := gated
  obtain ⟨stored, rfl⟩ := Table.find_eq_some.mp found
  have left : liveCount (fall setting root current node.id sweep).graph =
      ((sweep.graph.nodes.rows.filter Node.live).filter
        fun row => decide (row.id ≠ node.id)).length := by
    rw [liveCount, fall_nodes, updateChild, List.filter_filter, ← List.countP_eq_length_filter,
      ← List.countP_eq_length_filter]
    dsimp only
    rw [Table.update, List.countP_map]
    refine List.countP_congr fun row _ => ?_
    by_cases same : row.id = node.id
    · simp [same]
    · simp [same]
  have fewer : ((sweep.graph.nodes.rows.filter Node.live).filter
      fun row => decide (row.id ≠ node.id)).length <
        (sweep.graph.nodes.rows.filter Node.live).length := by
    rw [List.length_filter_lt_length_iff_exists]
    exact ⟨node, List.mem_filter.mpr ⟨stored, live⟩, by simp⟩
  rw [Sweep.work, Sweep.work, left, liveCount, fall, List.length_append, List.length_singleton]
  omega

theorem visits_work (listed : List Id) :
    (listed.foldl (visit setting root current) sweep).work ≤ sweep.work := by
  induction listed generalizing sweep with
  | nil => exact le_refl _
  | cons child rest induction =>
      refine induction.trans ?_
      rcases @visit_cases _ _ _ _ setting root current child sweep with
        ⟨same, -⟩ | ⟨fell, -, gated⟩
      · rw [same]
      · rw [fell]
        exact fall_work gated

/-- The next node to process, which has been taken from the list. -/
theorem taken_sound (sound : Sound setting start root sweep) {rest : List Id}
    (next : sweep.nodesToProcess = current :: rest) {processed : List Id}
    (more : ∀ id, id ∈ processed ↔ id = current ∨ id ∈ sweep.processedNodes) :
    Sound setting start root
      { sweep with
        nodesToProcess := rest
        processedNodes := processed } := by
  have before : ∀ id, id ∈ rest ∨ id ∈ processed →
      id ∈ sweep.nodesToProcess ∨ id ∈ sweep.processedNodes := by
    rintro id (waits | done)
    · exact .inl (next ▸ List.mem_cons_of_mem _ waits)
    · rcases (more id).mp done with rfl | old
      · exact .inl (next ▸ List.mem_cons_self)
      · exact .inr old
  refine ⟨sound.nodes, sound.edges, sound.embeddings, sound.index, sound.audit, sound.distinct,
    sound.count, sound.fell, fun id listed => sound.dead id (before id listed),
    fun id listed => sound.reached id (before id listed), fun id named => ?_⟩
  rcases sound.known id named with waits | done
  · rw [next] at waits
    rcases List.mem_cons.mp waits with rfl | later
    · exact .inr ((more id).mpr (.inl rfl))
    · exact .inl later
  · exact .inr ((more id).mpr (.inr done))

/-- A node that was looked at before is passed over. -/
theorem skipped_covers {rest : List Id} (covered : Covered setting sweep [])
    (next : sweep.nodesToProcess = current :: rest) (again : current ∈ sweep.processedNodes) :
    Covered setting { sweep with nodesToProcess := rest } [] := by
  intro parent done child edge gate
  rcases covered parent done child edge gate with now | ⟨other, from_other, state⟩
  · cases now
  · refine .inr ⟨other, from_other, state.imp_right ?_⟩
    rintro ⟨waits, fresh⟩
    rw [next] at waits
    rcases List.mem_cons.mp waits with rfl | later
    · exact absurd again fresh
    · exact ⟨later, fresh⟩

/-- What only the next node anchors is among its children. -/
theorem taken_covers {rest : List Id} (scan : Scan) (covered : Covered setting sweep [])
    (next : sweep.nodesToProcess = current :: rest) :
    Covered setting
      { sweep with
        nodesToProcess := rest
        processedNodes := current :: sweep.processedNodes }
      (children scan sweep.graph current) := by
  intro parent done child edge gate
  rcases List.mem_cons.mp done with rfl | old
  · exact .inl (mem_children.mpr edge)
  rcases covered parent old child edge gate with now | ⟨other, from_other, live | ⟨waits, unseen⟩⟩
  · cases now
  · exact .inr ⟨other, from_other, .inl live⟩
  · by_cases same : other = current
    · subst same
      exact .inl (mem_children.mpr from_other)
    · rw [next] at waits
      refine .inr ⟨other, from_other, .inr
        ⟨(List.mem_cons.mp waits).resolve_left same, fun seen => ?_⟩⟩
      exact (List.mem_cons.mp seen).elim same unseen

theorem process_ends {fuel : Nat} (sound : Sound setting start root sweep)
    (covered : Covered setting sweep []) (enough : sweep.work < fuel) :
    ∃ done, process scan setting root fuel sweep = some done ∧
      Sound setting start root done ∧ Covered setting done [] ∧ done.nodesToProcess = [] := by
  induction fuel generalizing sweep with
  | zero => exact absurd enough (Nat.not_lt_zero _)
  | succ fuel induction =>
      rw [process]
      cases next : sweep.nodesToProcess with
      | nil => exact ⟨sweep, rfl, sound, covered, next⟩
      | cons current rest =>
          have shorter : rest.length + liveCount sweep.graph < fuel := by
            rw [Sweep.work, next, List.length_cons] at enough
            omega
          dsimp only
          split
          · rename_i again
            refine induction (taken_sound sound next fun id => ?_)
              (skipped_covers covered next again) shorter
            constructor
            · exact .inr
            · rintro (rfl | done)
              · exact again
              · exact done
          · have taken : Sound setting start root
                { sweep with
                  nodesToProcess := rest
                  processedNodes := current :: sweep.processedNodes } :=
              taken_sound sound next fun id => List.mem_cons
            obtain ⟨settled, all⟩ := visits_cover taken List.mem_cons_self
              (fun child listed => sound.derives.mp (mem_children.mp listed))
              (taken_covers scan covered next)
            exact induction settled all ((visits_work _).trans_lt shorter)

/-- What a cascade leaves: the nodes that fell, each with its audit row if there is a table for
it, and nothing else changed; and a child that is left, although it meets the gate, has a
live parent. -/
structure Settled (setting : Setting) (start : Graph Id Weight Blob) (root : Id)
    (done : Sweep Id Weight Blob) : Prop where
  nodes : ∀ id, done.graph.nodes.find id = (start.nodes.find id).map fun node =>
    if id ∈ done.fallen then cascaded setting node else node
  edges : done.graph.edges = start.edges
  embeddings : done.graph.embeddings = start.embeddings
  index : done.graph.vecEmbeddings = start.vecEmbeddings
  audit : done.graph.decayAudit =
    if setting.hasAudit then start.decayAudit ++ done.events.map (cascadeRow setting start)
    else start.decayAudit
  distinct : done.fallen.Nodup
  count : done.cascadedCount = done.fallen.length
  fell : ∀ event ∈ done.events, Fell setting start done.graph root event
  rests : ∀ parent, parent = root ∨ parent ∈ done.fallen → ∀ child,
    Derives start parent child → Gated setting done.graph child →
    ∃ other, Derives start other child ∧ isLive done.graph other = true

/-- Below a node that has decayed the cascade ends, with fuel for its live nodes, and takes
every node that it should and no other. -/
theorem cascade_settles (scan : Scan) (decayed : isLive start root = false) {fuel : Nat}
    (enough : liveCount start + 1 < fuel) :
    ∃ done, cascadeDecay scan setting fuel start root = some done ∧
      Settled setting start root done := by
  have begins : Sound setting start root { graph := start, nodesToProcess := [root] } := by
    refine ⟨fun id => ?_, rfl, rfl, rfl, ?_, List.nodup_nil, rfl, fun event listed => ?_,
      fun id listed => ?_, fun id listed => ?_, fun id named => ?_⟩
    · simp [Sweep.fallen]
    · simp
    · cases listed
    · obtain rfl := List.mem_singleton.mp (listed.resolve_right List.not_mem_nil)
      exact decayed
    · obtain rfl := List.mem_singleton.mp (listed.resolve_right List.not_mem_nil)
      exact .refl
    · exact .inl (List.mem_singleton.mpr (named.resolve_right List.not_mem_nil))
  have uncovered : Covered setting ({ graph := start, nodesToProcess := [root] } :
      Sweep Id Weight Blob) [] := fun parent done => absurd done List.not_mem_nil
  have fueled : ({ graph := start, nodesToProcess := [root] } : Sweep Id Weight Blob).work <
      fuel := by
    change 1 + liveCount start < fuel
    omega
  obtain ⟨done, ends, sound, covered, idle⟩ := @process_ends _ _ _ _ setting scan root start _
    fuel begins uncovered fueled
  refine ⟨done, ends, sound.nodes, sound.edges, sound.embeddings, sound.index, sound.audit,
    sound.distinct, ?_, sound.fell, ?_⟩
  · rw [sound.count, Sweep.fallen, List.length_map]
  · intro parent named child edge gate
    have processed : parent ∈ done.processedNodes := by
      rcases sound.known parent named with waits | seen
      · rw [idle] at waits
        cases waits
      · exact seen
    rcases covered parent processed child (sound.derives.mpr edge) gate with
      now | ⟨other, from_other, live | ⟨waits, -⟩⟩
    · cases now
    · exact ⟨other, sound.derives.mp from_other, live⟩
    · rw [idle] at waits
      cases waits

end

/-- Two children of a decayed node, the second of which has a live parent too. -/
def thoughts : Graph Nat Int Unit where
  nodes := ⟨[{ id := 0, content := [], nodeType := [], decayed := some 1 },
    { id := 1, content := [], nodeType := [], timestamp := some "old" },
    { id := 2, content := [], nodeType := [], timestamp := some "old" },
    { id := 3, content := [], nodeType := [], timestamp := some "old" },
    { id := 4, content := [], nodeType := [], timestamp := some "new" }], by decide⟩
  edges := ⟨[⟨0, 1, none, none, none⟩, ⟨0, 2, none, none, none⟩, ⟨1, 3, none, none, none⟩,
    ⟨4, 2, none, none, none⟩], by decide⟩
  embeddings := .empty
  vecEmbeddings := .empty
  decayAudit := []

def spring : Setting where
  now := "now"
  aged := fun stamp => decide (stamp = "old")
  hasAudit := true
  minAgeDays := 14

theorem thoughts_settle : ∃ done, cascadeDecay asStored spring 6 thoughts 0 = some done ∧
    Settled spring thoughts 0 done :=
  cascade_settles asStored (by decide) (by decide)

/-- Without the table the same nodes fall. -/
example : (cascadeDecay asStored { spring with hasAudit := false } 6 thoughts 0).map
    (fun done => (done.fallen, done.graph.decayAudit.length)) = some ([1, 3], 0) := by
  decide +kernel

/-! ## The decay that starts cascades -/

structure DecayStats where
  pruned : Nat
  cascaded : Nat
  total : Nat

section

variable [DecidableEq Id]

def liveNeighbor (graph : Graph Id Weight Blob) (id : Id) : Bool :=
  graph.edges.rows.any fun edge =>
    (decide (edge.parentId = id) && isLive graph edge.childId) ||
      (decide (edge.childId = id) && isLive graph edge.parentId)

/-- The `direct_filter`. -/
def direct (cutoff : String) (graph : Graph Id Weight Blob) (node : Node Id) : Bool :=
  node.live && node.unpinned && decide (node.accessCount = some 0) &&
    node.timestamp.any (fun stamp => decide (stamp < cutoff)) && !liveNeighbor graph node.id

def prune (setting : Setting) (cutoff : String) (graph : Graph Id Weight Blob) :
    Graph Id Weight Blob :=
  { graph with
    nodes := graph.nodes.update (direct cutoff graph) (cascaded setting) (cascaded_id setting) }

/-- The row of `decay_audit` for a pruned node. -/
def pruneRow (setting : Setting) (cutoff : String) (graph : Graph Id Weight Blob) (nodeId : Id) :
    AuditRow Id :=
  auditRow setting.now graph nodeId .organicAgeNoAccess none
    (some (.organic setting.minAgeDays cutoff))

def auditPruned (setting : Setting) (cutoff : String) (graph : Graph Id Weight Blob)
    (nodeId : Id) : Graph Id Weight Blob :=
  logEvent setting graph nodeId .organicAgeNoAccess none
    (some (.organic setting.minAgeDays cutoff))

def cascadeAll (scan : Scan) (setting : Setting) (fuel : Nat) :
    List Id → Graph Id Weight Blob → Option (Nat × Graph Id Weight Blob)
  | [], graph => some (0, graph)
  | nodeId :: rest, graph =>
      (cascadeDecay scan setting fuel graph nodeId).bind fun done =>
        (cascadeAll scan setting fuel rest done.graph).map fun after =>
          (done.cascadedCount + after.1, after.2)

/-- `auto_decay`. -/
def autoDecay (scan : Scan) (setting : Setting) (cutoff : String) (enableCascading : Bool)
    (fuel : Nat) (graph : Graph Id Weight Blob) : Option (DecayStats × Graph Id Weight Blob) :=
  let nodesToDecay := (scan.order (graph.nodes.rows.filter (direct cutoff graph))).map Node.id
  let directCount := nodesToDecay.length
  let audited := nodesToDecay.foldl (auditPruned setting cutoff) (prune setting cutoff graph)
  if enableCascading then
    (cascadeAll scan setting fuel nodesToDecay audited).map fun after =>
      ({ pruned := directCount, cascaded := after.1, total := directCount + after.1 }, after.2)
  else some ({ pruned := directCount, cascaded := 0, total := directCount }, audited)

/-- The loop of `simulate_cascade_decay`, which writes nothing. -/
structure Simulation (Id : Type) where
  nodesToProcess : List Id
  processedNodes : List Id := []
  wouldCascade : Nat := 0

def weigh (setting : Setting) (graph : Graph Id Weight Blob) (current : Id)
    (simulation : Simulation Id) (child : Id) : Simulation Id :=
  if anchored graph current child then simulation
  else
    match graph.nodes.find child with
    | none => simulation
    | some node =>
        if !node.live || !node.unpinned then simulation
        else if cascadeEligible setting node then
          { simulation with
            nodesToProcess := simulation.nodesToProcess ++ [child]
            wouldCascade := simulation.wouldCascade + 1 }
        else simulation

def simulate (scan : Scan) (setting : Setting) (graph : Graph Id Weight Blob) :
    Nat → Simulation Id → Option Nat
  | 0, _ => none
  | fuel + 1, simulation =>
      match simulation.nodesToProcess with
      | [] => some simulation.wouldCascade
      | current :: rest =>
          if current ∈ simulation.processedNodes then
            simulate scan setting graph fuel { simulation with nodesToProcess := rest }
          else
            simulate scan setting graph fuel
              ((children scan graph current).foldl (weigh setting graph current)
                { simulation with
                  nodesToProcess := rest
                  processedNodes := current :: simulation.processedNodes })

def simulateCascadeDecay (scan : Scan) (setting : Setting) (fuel : Nat)
    (graph : Graph Id Weight Blob) (decayedNodeId : Id) : Option Nat :=
  simulate scan setting graph fuel { nodesToProcess := [decayedNodeId] }

structure Candidates where
  candidates : Nat
  cascadePreview : Option Nat := none
  totalPreview : Option Nat := none

def simulateAll (scan : Scan) (setting : Setting) (fuel : Nat) (graph : Graph Id Weight Blob) :
    List Id → Option Nat
  | [] => some 0
  | nodeId :: rest =>
      (simulateCascadeDecay scan setting fuel graph nodeId).bind fun count =>
        (simulateAll scan setting fuel graph rest).map fun total => count + total

/-- `get_decay_candidates`. -/
def getDecayCandidates (scan : Scan) (setting : Setting) (cutoff : String)
    (showCascadePreview : Bool) (fuel : Nat) (graph : Graph Id Weight Blob) :
    Option Candidates :=
  let count := graph.nodes.rows.countP (direct cutoff graph)
  if showCascadePreview && decide (0 < count) then
    let candidateIds := (scan.order (graph.nodes.rows.filter (direct cutoff graph))).map Node.id
    (simulateAll scan setting fuel graph candidateIds).map fun total =>
      { candidates := count
        cascadePreview := some total
        totalPreview := some (count + total) }
  else some { candidates := count }

variable {setting : Setting} {scan : Scan} {cutoff : String} {root current id : Id}
variable {graph : Graph Id Weight Blob} {sweep : Sweep Id Weight Blob}

theorem visits_idle {listed : List Id}
    (spared : ∀ child ∈ listed, ¬Gated setting sweep.graph child) :
    listed.foldl (visit setting root current) sweep = sweep := by
  induction listed with
  | nil => rfl
  | cons child rest induction =>
      have same : visit setting root current sweep child = sweep := by
        rcases @visit_cases _ _ _ _ setting root current child sweep with
          ⟨same, -⟩ | ⟨-, -, gated⟩
        · exact same
        · exact absurd gated (spared child List.mem_cons_self)
      rw [List.foldl_cons, same]
      exact induction fun other later => spared other (List.mem_cons_of_mem _ later)

/-- A cascade below a node none of whose children is live ends at once. -/
theorem cascade_idle {fuel : Nat} (barren : ∀ child, Derives graph root child →
    isLive graph child = false) :
    ∃ done, cascadeDecay scan setting (fuel + 2) graph root = some done ∧
      done.cascadedCount = 0 ∧ done.graph = graph := by
  have idle : (children scan graph root).foldl (visit setting root root)
      { graph := graph, nodesToProcess := [], processedNodes := [root] } =
        { graph := graph, nodesToProcess := [], processedNodes := [root] } := by
    refine visits_idle fun child listed gated => ?_
    have dead := barren child (mem_children.mp listed)
    rw [gated.live] at dead
    cases dead
  refine ⟨{ graph := graph, nodesToProcess := [], processedNodes := [root] }, ?_, rfl, rfl⟩
  rw [cascadeDecay, process]
  dsimp only
  rw [if_neg List.not_mem_nil, idle, process]

theorem pruned_live (live : isLive (prune setting cutoff graph) id = true) :
    isLive graph id = true := by
  obtain ⟨node, found, alive⟩ := is_live_iff.mp live
  rw [prune, Table.find_update] at found
  obtain ⟨prior, stored, same⟩ := Option.map_eq_some_iff.mp found
  refine is_live_iff.mpr ⟨prior, stored, ?_⟩
  split at same
  · rw [← same, cascaded_live] at alive
    cases alive
  · rwa [same]

theorem direct_barren {node : Node Id} (pruned : direct cutoff graph node = true) (child : Id)
    (edge : Derives graph node.id child) : isLive graph child = false := by
  obtain ⟨row, stored, same, rfl⟩ := edge
  rw [direct, Bool.and_eq_true, Bool.not_eq_true'] at pruned
  have none_live := List.any_eq_false.mp pruned.2 row stored
  rw [Bool.eq_false_iff]
  intro live
  rw [same, live] at none_live
  simp at none_live

/-- What is pruned has no live neighbour, so nothing is left for its cascade. -/
theorem pruned_barren {node : Node Id} (pruned : direct cutoff graph node = true) (child : Id)
    (edge : Derives (prune setting cutoff graph) node.id child) :
    isLive (prune setting cutoff graph) child = false := by
  rw [Bool.eq_false_iff]
  intro live
  have dead := direct_barren pruned child edge
  rw [pruned_live live] at dead
  cases dead

theorem cascades_idle {fuel : Nat} {ids : List Id}
    (barren : ∀ id ∈ ids, ∀ child, Derives graph id child → isLive graph child = false) :
    cascadeAll scan setting (fuel + 2) ids graph = some (0, graph) := by
  induction ids with
  | nil => rfl
  | cons first rest induction =>
      obtain ⟨done, ends, none_fell, same⟩ := @cascade_idle _ _ _ _ setting scan first graph fuel
        (barren first List.mem_cons_self)
      rw [cascadeAll, ends, Option.bind_some, same, none_fell,
        induction fun id later => barren id (List.mem_cons_of_mem _ later)]
      rfl

/-- The audit of the pruned nodes. -/
theorem audited_eq (ids : List Id) :
    ids.foldl (auditPruned setting cutoff) graph =
      { graph with
        decayAudit := if setting.hasAudit then
            graph.decayAudit ++ ids.map (pruneRow setting cutoff graph)
          else graph.decayAudit } := by
  induction ids generalizing graph with
  | nil => simp
  | cons first rest induction =>
      have rows (other : Id) : pruneRow setting cutoff (auditPruned setting cutoff graph first)
          other = pruneRow setting cutoff graph other := by
        refine audit_row_congr ?_ _ _ _
        rw [auditPruned, log_event_nodes]
      rw [List.foldl_cons, induction, List.map_congr_left fun other _ => rows other]
      unfold auditPruned logEvent
      cases setting.hasAudit with
      | true => simp [logDecayEvent, pruneRow]
      | false => simp

theorem prune_row_pruned (nodeId : Id) :
    pruneRow setting cutoff (prune setting cutoff graph) nodeId =
      pruneRow setting cutoff graph nodeId := by
  refine audit_row_decayed (?_ : _ = (graph.nodes.find nodeId).map fun node =>
    if direct cutoff graph node = true then cascaded setting node else node) _ _ _
  rw [prune, Table.find_update]

/-- The graph behind `auto_decay`: what the one UPDATE leaves, with a row of `decay_audit` for
each pruned node if there is a table for it. -/
def prunedGraph (scan : Scan) (setting : Setting) (cutoff : String)
    (graph : Graph Id Weight Blob) : Graph Id Weight Blob :=
  let nodesToDecay := (scan.order (graph.nodes.rows.filter (direct cutoff graph))).map Node.id
  { prune setting cutoff graph with
    decayAudit := if setting.hasAudit then
        graph.decayAudit ++ nodesToDecay.map (pruneRow setting cutoff graph)
      else graph.decayAudit }

theorem auto_decay_eq (enableCascading : Bool) (fuel : Nat) :
    autoDecay scan setting cutoff enableCascading (fuel + 2) graph =
      some ({ pruned := graph.nodes.rows.countP (direct cutoff graph)
              cascaded := 0
              total := graph.nodes.rows.countP (direct cutoff graph) },
        prunedGraph scan setting cutoff graph) := by
  have count : ((scan.order (graph.nodes.rows.filter (direct cutoff graph))).map
      Node.id).length = graph.nodes.rows.countP (direct cutoff graph) := by
    rw [List.length_map, (scan.perm _).length_eq, List.countP_eq_length_filter]
  have audited : ((scan.order (graph.nodes.rows.filter (direct cutoff graph))).map Node.id).foldl
      (auditPruned setting cutoff) (prune setting cutoff graph) =
        prunedGraph scan setting cutoff graph := by
    rw [audited_eq, List.map_congr_left fun nodeId _ => prune_row_pruned nodeId]
    rfl
  rw [autoDecay, count, audited]
  split
  · rw [cascades_idle fun id listed => ?_, Option.map_some]
    · rfl
    · obtain ⟨node, among, rfl⟩ := List.mem_map.mp listed
      intro child edge
      change Derives (prune setting cutoff graph) node.id child at edge
      exact pruned_barren (List.mem_filter.mp (scan.mem.mp among)).2 child edge
  · rfl

/-- The cascades of `auto_decay` take nothing: a node is pruned only when it has no live
neighbour, and then none of its children can follow it. -/
theorem auto_decay_never_cascades (scan : Scan) (setting : Setting) (cutoff : String)
    (enableCascading : Bool) (fuel : Nat) (graph : Graph Id Weight Blob) :
    ∃ stats, autoDecay scan setting cutoff enableCascading (fuel + 2) graph =
        some (stats, prunedGraph scan setting cutoff graph) ∧
      stats.cascaded = 0 ∧ stats.total = stats.pruned ∧
      stats.pruned = graph.nodes.rows.countP (direct cutoff graph) :=
  ⟨_, auto_decay_eq enableCascading fuel, rfl, rfl, rfl⟩

theorem weigh_spared {simulation : Simulation Id} {child : Id}
    (dead : isLive graph child = false) :
    weigh setting graph current simulation child = simulation := by
  rw [weigh]
  split
  · rfl
  split
  · rfl
  · rename_i node found
    have withered : node.live = false := by
      rw [isLive, found] at dead
      exact dead
    rw [withered]
    rfl

/-- A simulation below a node none of whose children is live ends at once. -/
theorem simulation_idle {fuel : Nat} (barren : ∀ child, Derives graph root child →
    isLive graph child = false) :
    simulateCascadeDecay scan setting (fuel + 2) graph root = some 0 := by
  have idle : ∀ (listed : List Id) (simulation : Simulation Id),
      (∀ child ∈ listed, isLive graph child = false) →
        listed.foldl (weigh setting graph root) simulation = simulation := by
    intro listed simulation dead
    induction listed with
    | nil => rfl
    | cons child rest induction =>
        rw [List.foldl_cons, weigh_spared (dead child List.mem_cons_self)]
        exact induction fun other later => dead other (List.mem_cons_of_mem _ later)
  rw [simulateCascadeDecay, simulate]
  dsimp only
  rw [if_neg List.not_mem_nil,
    idle _ _ fun child listed => barren child (mem_children.mp listed), simulate]

theorem simulations_idle {fuel : Nat} {ids : List Id}
    (barren : ∀ id ∈ ids, ∀ child, Derives graph id child → isLive graph child = false) :
    simulateAll scan setting (fuel + 2) graph ids = some 0 := by
  induction ids with
  | nil => rfl
  | cons first rest induction =>
      rw [simulateAll, simulation_idle (barren first List.mem_cons_self), Option.bind_some,
        induction fun id later => barren id (List.mem_cons_of_mem _ later)]
      rfl

/-- The preview is what `auto_decay` does to the same graph, whatever the order of the rows
in either of them. -/
theorem preview_agrees (previewed decayed : Scan) (setting : Setting) (cutoff : String)
    (fuel : Nat) (graph : Graph Id Weight Blob) :
    ∃ preview stats after,
      getDecayCandidates previewed setting cutoff true (fuel + 2) graph = some preview ∧
      autoDecay decayed setting cutoff true (fuel + 2) graph = some (stats, after) ∧
      preview.candidates = stats.pruned ∧
      (stats.pruned = 0 ∨ preview.cascadePreview = some stats.cascaded ∧
        preview.totalPreview = some stats.total) := by
  have barren : ∀ id ∈ (previewed.order (graph.nodes.rows.filter (direct cutoff graph))).map
      Node.id, ∀ child, Derives graph id child → isLive graph child = false := by
    intro id listed child edge
    obtain ⟨node, among, rfl⟩ := List.mem_map.mp listed
    have pruned := (List.mem_filter.mp (previewed.mem.mp among)).2
    exact direct_barren pruned child edge
  rw [auto_decay_eq, getDecayCandidates]
  dsimp only
  split
  · rw [simulations_idle barren]
    exact ⟨_, _, _, rfl, rfl, rfl, .inr ⟨rfl, rfl⟩⟩
  · rename_i none_shown
    refine ⟨_, _, _, rfl, rfl, rfl, .inl ?_⟩
    simpa using none_shown

end

end HermesCashew.CascadeDecay
