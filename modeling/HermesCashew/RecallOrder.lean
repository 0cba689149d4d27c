import HermesCashew.PrefetchResults
import HermesCashew.Recall

/-!
# The ranking of the upstream retrieval

The ids come ranked, and the rows of the statement that reads them again come in any
order. What is formatted keeps the ranking when there is nothing to order, and a warm
hit keeps the best rows when it cuts nothing off.
-/

namespace HermesCashew.Recall

open HermesCashew.JsonText (Str str)
open HermesCashew.PrefetchWorker
open HermesCashew.Lifecycle (Generation)
open HermesCashew.Transition

set_option autoImplicit false

/-! ## Rankings -/

def Ranked (nodeIds : List String) (nodes : List Node) : Prop :=
  nodes.Pairwise fun earlier later => earlier.id ∈ nodeIds → later.id ∈ nodeIds →
    nodeIds.idxOf earlier.id ≤ nodeIds.idxOf later.id

def better (nodeIds : List String) (retrieved : List Node) (node : Node) : Nat :=
  (retrieved.filter fun other => nodeIds.idxOf other.id < nodeIds.idxOf node.id).length

/-- The `count` best of the retrieved nodes are among those kept. -/
def KeepsBest (nodeIds : List String) (count : Nat) (retrieved kept : List Node) : Prop :=
  ∀ node ∈ retrieved, better nodeIds retrieved node < count → node ∈ kept

/-- The rows of the graph that have a retrieved id. -/
def found (graph : Graph) (nodeIds : List String) : List Node :=
  graph.rows.filter fun node => node.id ∈ nodeIds

def PrefetchKeepsRanking (graph : Graph) (asked : Asked) (nodeIds : List String) : Prop :=
  ∀ layers order nodes, layers.retrieve asked = some nodeIds →
    coldNodes layers order graph true asked = some nodes → Ranked nodeIds nodes

def QueryKeepsRanking (graph : Graph) (request : ToolCall.Request) (nodeIds : List String) : Prop :=
  ∀ layers opens order log nodes after, layers.retrieve request request.tags = some nodeIds →
    ToolCall.queryNodes (queryLayers layers opens order graph) true request log =
      (.ok nodes, after) → Ranked nodeIds nodes

def rankedAfter (nodeIds : List String) (first second : Node) : Bool :=
  nodeIds.idxOf second.id ≤ nodeIds.idxOf first.id

def backwards (nodeIds : List String) : RowOrder where
  arrange rows := rows.mergeSort (rankedAfter nodeIds)
  perm rows := List.mergeSort_perm rows _

section

variable {graph : Graph} {nodeIds : List String} {order : RowOrder}

theorem enriched_length (order : RowOrder) (some_id : nodeIds ≠ []) :
    (enrichResults order graph nodeIds).length = (found graph nodeIds).length :=
  (enrich_perm some_id).length_eq

theorem ranked_after_trans (first second third : Node)
    (one : rankedAfter nodeIds first second = true)
    (two : rankedAfter nodeIds second third = true) : rankedAfter nodeIds first third = true := by
  unfold rankedAfter at *
  rw [decide_eq_true_eq] at *
  omega

theorem ranked_after_total (first second : Node) :
    (rankedAfter nodeIds first second || rankedAfter nodeIds second first) = true := by
  unfold rankedAfter
  rw [Bool.or_eq_true, decide_eq_true_eq, decide_eq_true_eq]
  omega

theorem backwards_pairwise (some_id : nodeIds ≠ []) :
    (enrichResults (backwards nodeIds) graph nodeIds).Pairwise fun earlier later =>
      nodeIds.idxOf later.id ≤ nodeIds.idxOf earlier.id := by
  rw [enrichResults, if_neg some_id]
  have sorted := List.pairwise_mergeSort (@ranked_after_trans nodeIds) ranked_after_total
    (graph.rows.filter fun node => node.id ∈ nodeIds)
  exact sorted.imp fun before => of_decide_eq_true before

theorem ranked_of_at_most_one {nodes : List Node} (few : nodes.length ≤ 1) :
    Ranked nodeIds nodes := by
  match nodes, few with
  | [], _ => exact List.Pairwise.nil
  | [node], _ => exact List.pairwise_singleton _ node

/-- Two retrieved nodes of one rank are one node. -/
theorem same_of_rank {first second : Node} (one : first ∈ enrichResults order graph nodeIds)
    (two : second ∈ enrichResults order graph nodeIds)
    (same : nodeIds.idxOf first.id = nodeIds.idxOf second.id) : first = second := by
  have ids : first.id = second.id := (List.idxOf_inj (mem_enriched one).2).mp same
  exact List.inj_on_of_nodup_map enriched_distinct one two ids

/-- A ranking that also runs backwards is of at most one node. -/
theorem at_most_one_of_ranked (some_id : nodeIds ≠ [])
    (ranked : Ranked nodeIds (enrichResults (backwards nodeIds) graph nodeIds)) :
    (found graph nodeIds).length ≤ 1 := by
  rw [← enriched_length (backwards nodeIds) some_id]
  have after := @backwards_pairwise graph nodeIds some_id
  match rows : enrichResults (backwards nodeIds) graph nodeIds with
  | [] => exact Nat.zero_le _
  | [_] => exact Nat.le_refl _
  | first :: second :: rest =>
      have distinct := @enriched_distinct (backwards nodeIds) graph nodeIds
      have one : first ∈ enrichResults (backwards nodeIds) graph nodeIds := by simp [rows]
      have two : second ∈ enrichResults (backwards nodeIds) graph nodeIds := by simp [rows]
      rw [Ranked, rows] at ranked
      rw [rows] at after distinct
      have below := (List.pairwise_cons.mp ranked).1 second List.mem_cons_self
        (mem_enriched one).2 (mem_enriched two).2
      have above := (List.pairwise_cons.mp after).1 second List.mem_cons_self
      have same := same_of_rank one two (Nat.le_antisymm below above)
      subst same
      simp at distinct

/-! ## The cold path and the tool -/

def answering (nodeIds : List String) : Layers where
  admits := true
  releases := true
  retrieve _ := some nodeIds
  validatesBefore := true
  validatesAfter := true
  opens := true

def answeringTools (nodeIds : List String) : ToolCall.Layers String Node where
  recallK := some .none
  admission := some ()
  retrieve _ _ := some nodeIds
  enrichResults _ := none
  keywordSearch _ := none
  nodeId := Node.id
  updateAccessMetrics _ := some ()
  formatContext _ := none
  release := some ()
  importEndSession := none
  validateRuntimeIdentity := none
  endSession _ _ := none

theorem answering_cold (some_id : nodeIds ≠ []) (asked : Asked) :
    coldNodes (answering nodeIds) order graph true asked =
      some (enrichResults order graph nodeIds) := by
  match nodeIds, some_id with
  | _ :: _, _ => rfl

theorem answering_noted (nodes : List Node) :
    ToolCall.noteAccess (queryLayers (answeringTools nodeIds) true order graph) nodes [] =
      (.ok (), []) := by
  unfold ToolCall.noteAccess
  split <;> rfl

theorem answering_query (some_id : nodeIds ≠ []) (request : ToolCall.Request) :
    ToolCall.queryNodes (queryLayers (answeringTools nodeIds) true order graph) true request [] =
      (.ok (enrichResults order graph nodeIds), []) := by
  have searched :
      ToolCall.foundNodes (queryLayers (answeringTools nodeIds) true order graph) request
        nodeIds [] = (.ok (enrichResults order graph nodeIds), []) := by
    match nodeIds, some_id with
    | _ :: _, _ => rfl
  have recalled : ToolCall.recalledNodes (queryLayers (answeringTools nodeIds) true order graph)
      request [] = (.ok (enrichResults order graph nodeIds), []) := by
    have vector : ToolCall.vectorResults (queryLayers (answeringTools nodeIds) true order graph)
        request [] = (.ok nodeIds, []) := rfl
    rw [ToolCall.recalledNodes, Raising.Block.bind_ok vector, Raising.Block.bind_ok searched,
      Raising.Block.bind_ok (answering_noted _)]
    rfl
  have admitted : ToolCall.ask .admission
      (queryLayers (answeringTools nodeIds) true order graph).admission [] = (.ok (), []) := rfl
  rw [ToolCall.queryNodes, if_pos rfl, ToolCall.operationAdmission, Raising.Block.bind_ok admitted,
    Raising.Block.finish, recalled]
  rfl

theorem ranked_nil (nodes : List Node) : Ranked [] nodes := by
  induction nodes with
  | nil => exact List.Pairwise.nil
  | cons node rest induction =>
      refine List.pairwise_cons.mpr ⟨?_, induction⟩
      intro later _ ranked
      cases ranked

theorem prefetch_keeps_ranking_iff (asked : Asked) :
    PrefetchKeepsRanking graph asked nodeIds ↔ (found graph nodeIds).length ≤ 1 := by
  constructor
  · intro keeps
    by_cases some_id : nodeIds = []
    · simp [found, some_id]
    · exact at_most_one_of_ranked some_id
        (keeps (answering nodeIds) (backwards nodeIds) _ rfl (answering_cold some_id asked))
  · intro few layers order nodes answered recalled
    rcases cold_nodes_cases recalled with ⟨nodeId, rest, retrieved, rfl⟩ | ⟨empty, rfl⟩
    · rw [answered] at retrieved
      obtain rfl := Option.some.inj retrieved
      apply ranked_of_at_most_one
      rw [enriched_length order (List.cons_ne_nil _ _)]
      exact few
    · cases nodeIds with
      | nil => exact ranked_nil _
      | cons nodeId rest => exact absurd answered (empty rfl nodeId rest)

theorem query_keeps_ranking_iff (request : ToolCall.Request) :
    QueryKeepsRanking graph request nodeIds ↔ (found graph nodeIds).length ≤ 1 := by
  constructor
  · intro keeps
    by_cases some_id : nodeIds = []
    · simp [found, some_id]
    · exact at_most_one_of_ranked some_id
        (keeps (answeringTools nodeIds) true (backwards nodeIds) _ _ _ rfl
          (answering_query some_id request))
  · intro few layers opens order log nodes after answered ran
    rcases query_nodes_cases ran with ⟨nodeId, rest, retrieved, enriched⟩ | ⟨empty, -⟩
    · obtain rfl := Option.some.inj (answered.symm.trans retrieved)
      obtain ⟨-, same⟩ := Option.ite_none_right_eq_some.mp enriched
      obtain rfl := Option.some.inj same
      apply ranked_of_at_most_one
      rw [enriched_length order (List.cons_ne_nil _ _)]
      exact few
    · cases nodeIds with
      | nil => exact ranked_nil _
      | cons nodeId rest => exact absurd answered (empty rfl nodeId rest)

/-! ## The warm path -/

/-- The best of the rows that come backwards is the last one. -/
theorem last_is_best {rows : List Node} {last : Node}
    (enriched : enrichResults (backwards nodeIds) graph nodeIds = rows ++ [last])
    (some_id : nodeIds ≠ []) : better nodeIds (rows ++ [last]) last = 0 := by
  have after := @backwards_pairwise graph nodeIds some_id
  rw [enriched] at after
  rw [better, List.length_eq_zero_iff, List.filter_eq_nil_iff]
  intro other member
  rw [decide_eq_true_eq]
  apply Nat.not_lt.mpr
  rcases List.mem_append.mp member with before | itself
  · exact (List.pairwise_append.mp after).2.2 other before last (List.mem_singleton_self last)
  · rw [List.mem_singleton.mp itself]

theorem last_is_cut {rows : List Node} {last : Node} {count : Nat}
    (enriched : enrichResults order graph nodeIds = rows ++ [last])
    (cut : count ≤ rows.length) : last ∉ (rows ++ [last]).take count := by
  have distinct := @enriched_distinct order graph nodeIds
  rw [enriched, List.map_append, List.map_singleton] at distinct
  rw [List.take_append_of_le_length cut]
  intro member
  have before : last.id ∈ rows.map Node.id := List.mem_map_of_mem (List.mem_of_mem_take member)
  exact (List.nodup_append.mp distinct).2.2 last.id before last.id (List.mem_singleton_self _) rfl

theorem keeps_best_iff (some_id : nodeIds ≠ []) (count : Nat) :
    (∀ order, KeepsBest nodeIds count (enrichResults order graph nodeIds)
        ((enrichResults order graph nodeIds).take count)) ↔
      (found graph nodeIds).length ≤ count ∨ count = 0 := by
  constructor
  · intro keeps
    by_contra neither
    obtain ⟨cut, positive⟩ := not_or.mp neither
    have length := @enriched_length graph nodeIds (backwards nodeIds) some_id
    rcases List.eq_nil_or_concat (enrichResults (backwards nodeIds) graph nodeIds) with
      empty | ⟨rows, last, enriched⟩
    · rw [empty] at length
      exact cut (by rw [← length]; exact Nat.zero_le _)
    · rw [List.concat_eq_append] at enriched
      have best := keeps (backwards nodeIds)
      rw [enriched] at best length
      rw [List.length_append, List.length_singleton] at length
      have kept := best last (by simp) (by
        rw [last_is_best enriched some_id]
        omega)
      exact last_is_cut enriched (by omega) kept
  · rintro (whole | none) order node member few
    · rw [List.take_of_length_le (by rw [enriched_length order some_id]; exact whole)]
      exact member
    · rw [none] at few
      exact absurd few (Nat.not_lt_zero _)

end

theorem gather_distinct (nodes rows : List Node)
    (distinct : ((nodes ++ rows).map Node.id).Nodup) :
    gather Node.id nodes rows = nodes ++ rows := by
  induction rows generalizing nodes with
  | nil => exact (List.append_nil nodes).symm
  | cons row rest induction =>
      have unseen : row.id ∉ nodes.map Node.id := by
        intro seen
        rw [List.map_append, List.map_cons] at distinct
        exact (List.nodup_append.mp distinct).2.2 row.id seen row.id List.mem_cons_self rfl
      rw [List.append_cons] at distinct ⊢
      rw [gather, List.foldl_cons, if_neg unseen]
      exact induction (nodes ++ [row]) distinct

theorem cue_nodes_retrieved {layers : Layers} {order : RowOrder} {graph : Graph} {asked : Asked}
    {nodeIds : List String} {nodes : List Node} (some_id : nodeIds ≠ [])
    (answered : layers.retrieve asked = some nodeIds)
    (recalled : cueNodes layers order graph true asked = some nodes) :
    nodes = enrichResults order graph nodeIds := by
  rw [cueNodes, if_neg (by simp), answered] at recalled
  match nodeIds, some_id with
  | nodeId :: rest, _ =>
      simp only [Option.bind_eq_bind, Option.bind_some, Option.bind_eq_some_iff] at recalled
      obtain ⟨_, -, _, -, rows, enriched, _, -, same⟩ := recalled
      obtain rfl := Option.some.inj same
      exact enriched_ok enriched

/-- The cold path and the tool keep the ranking for every order of the rows exactly when no
more than one retrieved id is in the graph. A warm hit of a single cue is the first rows of
what was read for it, and these are the best ones for every order of the rows exactly when
nothing is cut off. -/
theorem recall_keeps_ranking_iff (graph : Graph) (nodeIds : List String) :
    (∀ asked, PrefetchKeepsRanking graph asked nodeIds ↔ (found graph nodeIds).length ≤ 1) ∧
    (∀ request, QueryKeepsRanking graph request nodeIds ↔ (found graph nodeIds).length ≤ 1) ∧
    (∀ profiles text answers (world : World Node),
      Reaches (step profiles text Node.id) (Answered answers) (emptyWorld Node) world →
      ∀ call nodes, (PrefetchWorker.prefetch profiles text world call).2 = some nodes →
        ∃ config result, world.provider.config = some config ∧
          world.prefetchPending = some result ∧
          result.identity = callIdentity profiles world config call ∧
          ∀ cue, result.cues = [cue] → ∀ layers order asked,
            cueNodes layers order graph true asked = some (answers result.identity cue) →
            layers.retrieve asked = some nodeIds → nodeIds ≠ [] →
            nodes = (enrichResults order graph nodeIds).take (profiles config).recallK) ∧
    (nodeIds ≠ [] → ∀ count,
      (∀ order, KeepsBest nodeIds count (enrichResults order graph nodeIds)
          ((enrichResults order graph nodeIds).take count)) ↔
        (found graph nodeIds).length ≤ count ∨ count = 0) := by
  refine ⟨prefetch_keeps_ranking_iff, query_keeps_ranking_iff, ?_, keeps_best_iff⟩
  intro profiles text answers world reached call nodes hit
  obtain ⟨config, result, known, pending, own, cut⟩ := hit_collected reached hit
  refine ⟨config, result, known, pending, own, ?_⟩
  intro cue single layers order asked recalled answered some_id
  have same := cue_nodes_retrieved some_id answered recalled
  have distinct := @enriched_distinct order graph nodeIds
  have whole : gather Node.id [] (enrichResults order graph nodeIds) =
      enrichResults order graph nodeIds := gather_distinct [] _ distinct
  rw [cut, single, collected, List.foldl_cons, List.foldl_nil, same, whole]

/-! ## A ranking that is lost -/

def rowOf (id : String) : Node where
  id := id
  content := str "fact"
  nodeType := none
  domain := none
  permanent := none
  tags := none
  decayed := none
  referentTime := none
  timestamp := none

def pairGraph : Graph where
  rows := [rowOf "a", rowOf "b"]
  distinct := by decide

def reversed : RowOrder where
  arrange := List.reverse
  perm := List.reverse_perm

def pairAsked : Asked where
  query := str "fact"
  maxNodes := 5
  domain := none
  tag := none
  excludeTags := []

def pairRequest : ToolCall.Request where
  query := .str (str "fact")
  maxNodes := .none
  domain := .none
  tag := .none
  excludeTags := .none

def oneProfile : Profile :=
  { sampleProfile with recallK := 1 }

def pairRows : List Node :=
  [rowOf "b", rowOf "a"]

def pairSchedule : List (Action Node) :=
  (Lifecycle.toAcquired ++ Lifecycle.Action.advance :: Lifecycle.toIdentity ++
    Lifecycle.Action.identify true :: Lifecycle.toReturn).map .lifecycle ++
    .queuePrefetch "topic" "" true :: List.replicate 10 (.work 1 none (some pairRows))

def findsPair (_ : World Node) : Action Node → Bool
  | .work _ _ (some found) => found = pairRows
  | _ => true

theorem finds_pair_answered (world : World Node) (action : Action Node)
    (finds : findsPair world action = true) : Answered (fun _ _ => pairRows) world action := by
  intro generation answer found request cues cue remaining nodes same _
  rw [same] at finds
  exact of_decide_eq_true finds

/-- The upstream retrieval ranks `a` before `b`, and the statement gives `b` before `a`. -/
theorem ranking_of_two_is_lost :
    ¬ PrefetchKeepsRanking pairGraph pairAsked ["a", "b"] ∧
    ¬ QueryKeepsRanking pairGraph pairRequest ["a", "b"] ∧
    ∃ world, Reaches (step (fun _ => oneProfile) sampleText Node.id) (Answered fun _ _ => pairRows)
        (emptyWorld Node) world ∧
      cueNodes (answering ["a", "b"]) reversed pairGraph true pairAsked = some pairRows ∧
      (PrefetchWorker.prefetch (fun _ => oneProfile) sampleText world sampleCall).2 =
        some [rowOf "b"] ∧
      ¬ KeepsBest ["a", "b"] 1 pairRows [rowOf "b"] := by
  have two : ¬ (found pairGraph ["a", "b"]).length ≤ 1 := by decide
  have ran : (executeWhere findsPair (step (fun _ => oneProfile) sampleText Node.id)
      (emptyWorld Node) pairSchedule).map (fun world =>
        (PrefetchWorker.prefetch (fun _ => oneProfile) sampleText world sampleCall).2) =
      some (some [rowOf "b"]) := by
    decide +kernel
  obtain ⟨world, ran, hit⟩ := Option.map_eq_some_iff.mp ran
  have reached := reaches_of_execute_where (step (fun _ => oneProfile) sampleText Node.id)
    (Answered fun _ _ => pairRows) findsPair finds_pair_answered (emptyWorld Node) pairSchedule ran
  have best_lost : ¬ KeepsBest ["a", "b"] 1 pairRows [rowOf "b"] := by
    unfold KeepsBest
    decide
  exact ⟨fun keeps => two ((prefetch_keeps_ranking_iff _).mp keeps),
    fun keeps => two ((query_keeps_ranking_iff _).mp keeps),
    world, reached, by decide, hit, best_lost⟩

end HermesCashew.Recall
