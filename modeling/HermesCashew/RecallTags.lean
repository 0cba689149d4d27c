import HermesCashew.Recall

/-!
# Excluded tags

No route of a recall returns a node that carries an excluded tag. The upstream
retrieval is taken to apply the condition of the keyword search to the ids it returns,
and a warm result belongs to a request without excluded tags.
-/

namespace HermesCashew.Recall

open HermesCashew.JsonText (Str str)
open HermesCashew.SqlLike
open HermesCashew.PrefetchWorker
open HermesCashew.Lifecycle (Generation)
open HermesCashew.Transition

set_option autoImplicit false

def Carries (node : Node) (tag : Str) : Prop :=
  ∃ tags, node.tags = some tags ∧ tag <:+: tags

def Hides (excludeTags : List Str) (node : Node) : Prop :=
  ∀ tag ∈ excludeTags, tag ≠ [] → ¬ Carries node tag

/-- A row that every `tags NOT LIKE` of the excluded tags lets through. -/
def passes (excludeTags : List Str) (node : Node) : Bool :=
  excludeTags.all fun tag => tag = [] || Clause.tagsNotLike.holds node [surround wildcards tag]

/-- Every row with one of the ids is let through. -/
def FiltersTags (graph : Graph) (excludeTags : List Str) (nodeIds : List String) : Prop :=
  ∀ node ∈ graph.rows, node.id ∈ nodeIds → passes excludeTags node = true

/-- `LIKE` finds a tag wherever it is part of the tags, whatever characters it has. -/
theorem hides_of_passes {excludeTags : List Str} {node : Node}
    (through : passes excludeTags node = true) : Hides excludeTags node := by
  rintro tag member solid ⟨tags, stored, part⟩
  have own := List.all_eq_true.mp through tag member
  rw [decide_eq_false solid, Bool.false_or, Clause.holds, stored, Option.all_some,
    like_surround part] at own
  cases own

/-! ## The keyword search -/

def Statement.holds (statement : Statement) (node : Node) : Bool :=
  holdsAll node statement.clauses statement.params

/-- Conditions that are put together take their values one after the other. -/
theorem holds_all_append (node : Node) {clauses : List Clause} {values : List Str}
    (bound : values.length = placeholders clauses) (more : List Clause) (rest : List Str) :
    holdsAll node (clauses ++ more) (values ++ rest) =
      (holdsAll node clauses values && holdsAll node more rest) := by
  induction clauses generalizing values with
  | nil =>
      rw [List.length_eq_zero_iff.mp bound]
      rfl
  | cons clause clauses induction =>
      have sum : values.length = clause.placeholders + placeholders clauses := bound
      have enough : clause.placeholders ≤ values.length := by omega
      have left : (values.drop clause.placeholders).length = placeholders clauses := by
        rw [List.length_drop]
        omega
      rw [List.cons_append, holdsAll, holdsAll, List.take_append_of_le_length enough,
        List.drop_append_of_le_length enough, induction left, Bool.and_assoc]

theorem holds_add (statement : Statement) (node : Node) {clause : Clause} {params : List Str}
    (bound : params.length = clause.placeholders) :
    (statement.add clause params bound).holds node =
      (statement.holds node && clause.holds node params) := by
  have all : params.take clause.placeholders = params := List.take_of_length_le bound.le
  rw [Statement.holds, Statement.add, holds_all_append node statement.bound, holdsAll, all,
    holdsAll, Bool.and_true]
  rfl

theorem holds_exclude {statement : Statement} {node : Node} {tag : Str}
    (holds : (statement.exclude tag).holds node = true) :
    statement.holds node = true ∧
      (tag = [] || Clause.tagsNotLike.holds node [surround wildcards tag]) = true := by
  unfold Statement.exclude at holds
  split at holds
  · rename_i empty
    exact ⟨holds, by rw [decide_eq_true empty, Bool.true_or]⟩
  · have both : (statement.holds node &&
        Clause.tagsNotLike.holds node [surround wildcards tag]) = true :=
      (holds_add statement node rfl).symm.trans holds
    rw [Bool.and_eq_true] at both
    exact ⟨both.1, by rw [both.2, Bool.or_true]⟩

theorem holds_excluded {excludeTags : List Str} {statement : Statement} {node : Node}
    (holds : (excludeTags.foldl Statement.exclude statement).holds node = true) :
    statement.holds node = true ∧ passes excludeTags node = true := by
  induction excludeTags generalizing statement with
  | nil => exact ⟨holds, rfl⟩
  | cons tag rest induction =>
      obtain ⟨excluded, through⟩ := induction holds
      obtain ⟨before, own⟩ := holds_exclude excluded
      exact ⟨before, by rw [passes, List.all_cons, own, Bool.true_and]; exact through⟩

theorem mem_limit {count : Int} {rows : List Node} {node : Node}
    (member : node ∈ limit count rows) : node ∈ rows := by
  unfold limit at member
  split at member
  · exact member
  · exact List.mem_of_mem_take member

theorem keyword_search_passes {order : RowOrder} {graph : Graph} {asked : Asked} {node : Node}
    (member : node ∈ keywordSearch order graph asked) : passes asked.excludeTags node = true := by
  have arranged := List.mem_mergeSort.mp (mem_limit member)
  have matched := List.mem_filter.mp ((order.perm _).mem_iff.mp arranged)
  have holds := holds_all_append node (keywordStatement asked).bound [] (orderParams asked)
  rw [List.append_nil, matched.2] at holds
  have where_ : (keywordStatement asked).holds node = true := (Bool.and_eq_true_iff.mp holds.symm).1
  exact (holds_excluded where_).2

/-! ## Every route -/

theorem enriched_passes {order : RowOrder} {graph : Graph} {excludeTags : List Str}
    {nodeIds : List String} (filters : FiltersTags graph excludeTags nodeIds) {node : Node}
    (member : node ∈ enrichResults order graph nodeIds) : passes excludeTags node = true :=
  filters node (mem_enriched member).1 (mem_enriched member).2

theorem cold_nodes_pass {layers : Layers} {order : RowOrder} {graph : Graph}
    {identityReady : Bool} {asked : Asked} {nodes : List Node}
    (filters : ∀ nodeIds, layers.retrieve asked = some nodeIds →
      FiltersTags graph asked.excludeTags nodeIds)
    (recalled : coldNodes layers order graph identityReady asked = some nodes) :
    ∀ node ∈ nodes, passes asked.excludeTags node = true := by
  intro node member
  rcases cold_nodes_cases recalled with ⟨nodeId, rest, retrieved, rfl⟩ | ⟨-, rfl⟩
  · exact enriched_passes (filters _ retrieved) member
  · exact keyword_search_passes member

theorem query_nodes_pass {tools : ToolCall.Layers String Node} {opens : Bool} {order : RowOrder}
    {graph : Graph} {identityReady : Bool} {request : ToolCall.Request} {asked : Asked}
    {log after : List ToolCall.Failure} {nodes : List Node}
    (typed : askedOfRequest request = some asked)
    (filters : ∀ nodeIds, tools.retrieve request request.tags = some nodeIds →
      FiltersTags graph asked.excludeTags nodeIds)
    (ran : ToolCall.queryNodes (queryLayers tools opens order graph) identityReady request log =
      (.ok nodes, after)) :
    ∀ node ∈ nodes, passes asked.excludeTags node = true := by
  intro node member
  rcases query_nodes_cases ran with ⟨nodeId, rest, retrieved, enriched⟩ | ⟨-, searched⟩
  · obtain ⟨-, same⟩ := Option.ite_none_right_eq_some.mp enriched
    rw [← Option.some.inj same] at member
    exact enriched_passes (filters _ retrieved) member
  · simp only [queryLayers, typed] at searched
    obtain ⟨-, same⟩ := Option.ite_none_right_eq_some.mp searched
    rw [← Option.some.inj same] at member
    exact keyword_search_passes member

/-- A warm hit answers a call that excludes nothing. -/
theorem hit_excludes_nothing {profiles : Generation → Profile} {text : Text} {world : World Node}
    (reached : Reaches (step profiles text Node.id) anyStep (emptyWorld Node) world)
    {call : PrefetchCall} {nodes : List Node}
    (hit : (PrefetchWorker.prefetch profiles text world call).2 = some nodes) (node : Node) :
    Hides ((call.excludeTags.getD []).map str) node := by
  have warm := warm_hit (reachable_coherent reached).traced hit
  intro tag member solid
  cases given : call.excludeTags with
  | none =>
      rw [given] at member
      cases member
  | some tags =>
      rw [given] at member
      obtain ⟨text, listed, rfl⟩ := List.mem_map.mp member
      rw [warm.excludeTags tags given text listed] at solid
      exact absurd rfl solid

/-- In every run, whatever route answers `prefetch` or `cashew_query`, no node that it returns
carries an excluded tag. -/
theorem excluded_tags_never_surface {profiles : Generation → Profile} {text : Text}
    {world : World Node}
    (reached : Reaches (step profiles text Node.id) anyStep (emptyWorld Node) world)
    (graph : Graph) (order : RowOrder) :
    (∀ layers call nodes,
      (∀ asked nodeIds, layers.retrieve asked = some nodeIds →
        FiltersTags graph asked.excludeTags nodeIds) →
      prefetchNodes profiles text layers order graph world call = some nodes →
      ∀ node ∈ nodes, Hides ((call.excludeTags.getD []).map str) node) ∧
    ∀ tools opens identityReady request asked log nodes after,
      askedOfRequest request = some asked →
      (∀ nodeIds, tools.retrieve request request.tags = some nodeIds →
        FiltersTags graph asked.excludeTags nodeIds) →
      ToolCall.queryNodes (queryLayers tools opens order graph) identityReady request log =
        (.ok nodes, after) →
      ∀ node ∈ nodes, Hides asked.excludeTags node := by
  constructor
  · intro layers call nodes filters answered node member
    unfold prefetchNodes at answered
    split at answered
    · rename_i hit
      exact hit_excludes_nothing reached hit node
    · simp only [Option.bind_eq_bind, Option.bind_eq_some_iff] at answered
      obtain ⟨config, -, _, -, recalled⟩ := answered
      exact hides_of_passes (cold_nodes_pass (filters _) recalled node member)
  · intro tools opens identityReady request asked log nodes after typed filters ran node member
    exact hides_of_passes (query_nodes_pass typed filters ran node member)

def filtering (graph : Graph) : Layers where
  admits := true
  releases := true
  retrieve asked :=
    some ((graph.rows.filter fun node => passes asked.excludeTags node).map Node.id)
  validatesBefore := true
  validatesAfter := true
  opens := true

theorem filtering_filters (graph : Graph) (asked : Asked) (nodeIds : List String)
    (retrieved : (filtering graph).retrieve asked = some nodeIds) :
    FiltersTags graph asked.excludeTags nodeIds := by
  obtain rfl := Option.some.inj retrieved
  intro node stored member
  obtain ⟨other, kept, same⟩ := List.mem_map.mp member
  obtain ⟨listed, through⟩ := List.mem_filter.mp kept
  rw [← List.inj_on_of_nodup_map graph.distinct listed stored same]
  exact through

def taggedRow (id tags : String) : Node where
  id := id
  content := str "fact"
  nodeType := none
  domain := none
  permanent := none
  tags := some (str tags)
  decayed := none
  referentTime := none
  timestamp := none

def taggedGraph : Graph where
  rows := [taggedRow "a" "work", taggedRow "b" "work,vault:private"]
  distinct := by decide

def asStored : RowOrder where
  arrange := id
  perm := List.Perm.refl

def readySchedule : List (Action Node) :=
  (Lifecycle.toAcquired ++ Lifecycle.Action.advance :: Lifecycle.toIdentity ++
    Lifecycle.Action.identify true :: Lifecycle.toReturn).map .lifecycle

def privateCall : PrefetchCall :=
  { sampleCall with excludeTags := some ["vault:private"] }

theorem private_row_is_hidden :
    ∃ world : World Node,
      prefetchNodes (fun _ => sampleProfile) sampleText (filtering taggedGraph) asStored taggedGraph
        world privateCall = some [taggedRow "a" "work"] ∧
      ∀ node ∈ [taggedRow "a" "work"], Hides [str "vault:private"] node := by
  have ran : (execute (step (fun _ => sampleProfile) sampleText Node.id) (emptyWorld Node)
      readySchedule).map (fun world =>
        prefetchNodes (fun _ => sampleProfile) sampleText (filtering taggedGraph) asStored
          taggedGraph world privateCall) = some (some [taggedRow "a" "work"]) := by
    decide +kernel
  obtain ⟨world, ran, recalled⟩ := Option.map_eq_some_iff.mp ran
  have reached := reaches_of_execute (step (fun _ => sampleProfile) sampleText Node.id)
    (emptyWorld Node) readySchedule ran
  exact ⟨world, recalled, (excluded_tags_never_surface reached taggedGraph asStored).1
    (filtering taggedGraph) privateCall _ (filtering_filters taggedGraph) recalled⟩

end HermesCashew.Recall
