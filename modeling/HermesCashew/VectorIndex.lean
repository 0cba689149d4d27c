import HermesCashew.BeamSearch
import HermesCashew.ThoughtGraph
import Mathlib

/-!
# The vector index

`search` answers from the index of sqlite-vec, which keeps the vectors of nodes that have
decayed, or from a scan of the stored embeddings. It asks the index for more rows than it
needs and drops those that are not live. With few enough of these the two paths agree, and
the compaction of the sleep cycle takes them all away.
-/

namespace HermesCashew.VectorIndex

open HermesCashew.BeamSearch
open HermesCashew.JsonText (Str str)
open HermesCashew.KeyedTable HermesCashew.ThoughtGraph

set_option autoImplicit false

variable {Id Weight Score Distance Blob : Type}

/-! ## The two paths -/

/-- The vector of one query against stored bytes: with numpy and with sqlite-vec. -/
structure Engine (Id Score Distance Blob : Type) where
  /-- No score where a norm is zero or the bytes cannot be used. -/
  similarity : Blob → Option Score
  /-- A distance that is `NULL` is none. -/
  distance : Blob → Option Distance
  /-- `1.0 - distance`. -/
  complement : Distance → Score
  /-- `MATCH … ORDER BY distance LIMIT ?` and what comes before `_live_node_ids` is done with
  its rows, which may raise. -/
  nearest : List (VecRow Id Blob) → Int → Option (List (Id × Option Distance))

/-- `max(top_k * _VEC_OVERFETCH, top_k + 20)`. -/
def overfetch (topK : Int) : Int :=
  max (topK * 3) (topK + 20)

section

variable [DecidableEq Id] (engine : Engine Id Score Distance Blob)

/-- Whether `_live_node_ids` has the id. -/
def isLive (graph : Graph Id Weight Blob) (nodeId : Id) : Bool :=
  (graph.nodes.find nodeId).any Node.live

/-- The results of the index; a live row without a distance raises. -/
def indexResults (graph : Graph Id Weight Blob) (topK : Int)
    (rows : List (Id × Option Distance)) : Option (List (Id × Score)) :=
  ((rows.filter fun row : Id × Option Distance => isLive graph row.1).mapM
    fun row : Id × Option Distance =>
      row.2.map fun distance => (row.1, engine.complement distance)).map (upTo topK)

/-- The stored embeddings of live nodes, with their scores. -/
def scored (scan : Scan) (graph : Graph Id Weight Blob) : List (Id × Score) :=
  (scan.order (graph.embeddings.rows.filter fun row => isLive graph row.nodeId)).filterMap
    fun row => (engine.similarity row.vector).map fun score => (row.nodeId, score)

variable [LinearOrder Score]

def bruteForce (scan : Scan) (graph : Graph Id Weight Blob) (topK : Int) : List (Id × Score) :=
  upTo topK (descending (scored engine scan graph))

/-- `search`, with the two states of the database in which it reads the index and the nodes.
What raises in the index falls back to the scan, unless the connection is closed by then. -/
def search (scan : Scan) (usable : Bool) (indexed listed : Graph Id Weight Blob) (query : Str)
    (embedded : Option (Engine Id Score Distance Blob)) (topK : Int) :
    Option (List (Id × Score)) :=
  if PreCompress.strip query = [] then some []
  else
    match embedded with
    | none => none
    | some engine =>
        if usable then
          match engine.nearest indexed.vecEmbeddings.rows (overfetch topK) with
          | none => some (bruteForce engine scan listed topK)
          | some rows => indexResults engine listed topK rows
        else some (bruteForce engine scan listed topK)

end

/-- `compact_vec_index`: the rows whose node is gone or has `decayed = 1`. -/
def compactVecIndex [DecidableEq Id] (usable : Bool) (graph : Graph Id Weight Blob) :
    Graph Id Weight Blob :=
  if usable then
    { graph with
      vecEmbeddings := graph.vecEmbeddings.delete fun row =>
        (graph.nodes.find row.nodeId).all fun node => node.decayed = some 1 }
  else graph

/-! ## What the index is for -/

/-- The documented answer of sqlite-vec when every row has a distance: the nearest rows in
their order. -/
def Documented [LinearOrder Distance] (engine : Engine Id Score Distance Blob) : Prop :=
  ∀ (rows : List (VecRow Id Blob)) (limit : Int) (answer : List (Id × Option Distance)),
    engine.nearest rows limit = some answer → 0 ≤ limit →
    (∀ row ∈ rows, (engine.distance row.embedding).isSome = true) →
    ∃ near far : List (Id × Distance),
      answer = near.map (fun item => (item.1, some item.2)) ∧
      ((near ++ far).map fun item => (item.1, some item.2)).Perm
        (rows.map fun row => (row.nodeId, engine.distance row.embedding)) ∧
      (near ++ far).Pairwise (fun first second => first.2 ≤ second.2) ∧
      near.length = min limit.toNat rows.length

/-- The two ways of measuring one vector agree. -/
structure Measures [LE Score] [LE Distance] (engine : Engine Id Score Distance Blob) : Prop where
  same : ∀ blob distance, engine.distance blob = some distance →
    engine.similarity blob = some (engine.complement distance)
  antitone : ∀ first second, first ≤ second → engine.complement second ≤ engine.complement first

section

variable [DecidableEq Id]

/-- The index has the vectors of the live nodes, and of no other live nodes. -/
def Mirrors (graph : Graph Id Weight Blob) : Prop :=
  ∀ nodeId, isLive graph nodeId = true →
    (graph.vecEmbeddings.find nodeId).map VecRow.embedding =
      (graph.embeddings.find nodeId).map Embedding.vector

/-- The rows of the index that a search drops. -/
def stale (graph : Graph Id Weight Blob) : List (VecRow Id Blob) :=
  graph.vecEmbeddings.rows.filter fun row => !isLive graph row.nodeId

/-- Every vector of the index can be measured. -/
def Measurable (engine : Engine Id Score Distance Blob) (graph : Graph Id Weight Blob) : Prop :=
  ∀ row ∈ graph.vecEmbeddings.rows, (engine.distance row.embedding).isSome = true

theorem is_live_iff {graph : Graph Id Weight Blob} {nodeId : Id} :
    isLive graph nodeId = true ↔
      ∃ node, graph.nodes.find nodeId = some node ∧ node.live = true := by
  rw [isLive, Option.any_eq_true]

theorem mirrors_of_rows {graph : Graph Id Weight Blob}
    (rows : ∀ node ∈ graph.nodes.rows, node.live = true →
      (graph.vecEmbeddings.find node.id).map VecRow.embedding =
        (graph.embeddings.find node.id).map Embedding.vector) : Mirrors graph := by
  intro nodeId alive
  obtain ⟨node, found, live⟩ := is_live_iff.mp alive
  obtain ⟨stored, rfl⟩ := Table.find_eq_some.mp found
  exact rows node stored live

end

/-! ## Agreement -/

/-- A ranking whose first part is already ranked and no worse than the rest. -/
theorem descending_scores {Item : Type} [LinearOrder Score] {all first rest : List (Item × Score)}
    (same : all.Perm (first ++ rest))
    (sorted : first.Pairwise fun one two => two.2 ≤ one.2)
    (ahead : ∀ one ∈ first, ∀ two ∈ rest, two.2 ≤ one.2) :
    (descending all).map Prod.snd = first.map Prod.snd ++ (descending rest).map Prod.snd := by
  have one : ((descending all).map Prod.snd).Pairwise fun one two => two ≤ one :=
    List.pairwise_map.mpr (descending_pairwise all)
  have two : (first.map Prod.snd ++ (descending rest).map Prod.snd).Pairwise
      fun one two => two ≤ one := by
    rw [← List.map_append]
    refine List.pairwise_map.mpr (List.pairwise_append.mpr
      ⟨sorted, descending_pairwise rest, fun item among other later => ?_⟩)
    exact ahead item among other (mem_descending.mp later)
  have perm : ((descending all).map Prod.snd).Perm
      (first.map Prod.snd ++ (descending rest).map Prod.snd) := by
    rw [← List.map_append]
    exact (((descending_perm all).trans same).trans
      ((descending_perm rest).symm.append_left first)).map Prod.snd
  exact perm.eq_of_pairwise (fun _ _ _ _ below above => le_antisymm above below) one two

/-- The scores of a slice come from the part that is already ranked, when it has enough or
there is nothing else. -/
theorem slice_scores {Item : Type} [LinearOrder Score] {all first rest : List (Item × Score)}
    {topK : Int} (some_results : 0 ≤ topK) (same : all.Perm (first ++ rest))
    (sorted : first.Pairwise fun one two => two.2 ≤ one.2)
    (ahead : ∀ one ∈ first, ∀ two ∈ rest, two.2 ≤ one.2)
    (enough : rest = [] ∨ topK.toNat ≤ first.length) :
    (upTo topK (descending all)).map Prod.snd = (upTo topK first).map Prod.snd := by
  have ranked := descending_scores same sorted ahead
  rw [upTo, if_pos some_results, upTo, if_pos some_results, List.map_take, ranked, List.map_take]
  rcases enough with rfl | long
  · rw [show descending ([] : List (Item × Score)) = [] from rfl, List.map_nil, List.append_nil]
  · exact List.take_append_of_le_length (by rwa [List.length_map])

/-- What is made of some of the items has their keys. -/
theorem made_keys {Item Key Value : Type} {key : Item → Key} {make : Item → Option (Key × Value)}
    (named : ∀ item made, make item = some made → made.1 = key item) (items : List Item) :
    ((items.filterMap make).map Prod.fst).Sublist (items.map key) := by
  induction items with
  | nil => exact .slnil
  | cons item rest ih =>
      cases result : make item with
      | none =>
          rw [List.filterMap_cons_none result]
          exact ih.cons _
      | some made =>
          rw [List.filterMap_cons_some result, List.map_cons, named item made result]
          exact ih.cons_cons _

section

variable [DecidableEq Id] {engine : Engine Id Score Distance Blob} {graph : Graph Id Weight Blob}

def liveScore (engine : Engine Id Score Distance Blob) (graph : Graph Id Weight Blob)
    (item : Id × Distance) : Option (Id × Score) :=
  if isLive graph item.1 then some (item.1, engine.complement item.2) else none

theorem index_results_eq (near : List (Id × Distance)) (topK : Int) :
    indexResults engine graph topK (near.map fun item => (item.1, some item.2)) =
      some (upTo topK (near.filterMap (liveScore engine graph))) := by
  suffices collected : ((near.map fun item => (item.1, some item.2)).filter
      fun row : Id × Option Distance => isLive graph row.1).mapM
        (fun row : Id × Option Distance =>
          row.2.map fun distance => (row.1, engine.complement distance)) =
      some (near.filterMap (liveScore engine graph)) by
    rw [indexResults, collected, Option.map_some]
  induction near with
  | nil => rfl
  | cons item rest ih =>
      rw [List.map_cons]
      by_cases live : isLive graph item.1 = true
      · have made : liveScore engine graph item = some (item.1, engine.complement item.2) := by
          rw [liveScore, if_pos live]
        simp only [List.filter_cons, live, if_true]
        rw [List.filterMap_cons_some made, List.mapM_cons, ih]
        rfl
      · have skipped : liveScore engine graph item = none := by
          rw [liveScore, if_neg live]
        simp only [List.filter_cons, live]
        rw [List.filterMap_cons_none skipped, ← ih]
        rfl

def Distances (engine : Engine Id Score Distance Blob) (graph : Graph Id Weight Blob)
    (all : List (Id × Distance)) : Prop :=
  (all.map fun item => (item.1, some item.2)).Perm
    (graph.vecEmbeddings.rows.map fun row => (row.nodeId, engine.distance row.embedding))

omit [DecidableEq Id] in
theorem distances_ids {all : List (Id × Distance)} (whole : Distances engine graph all) :
    (all.map Prod.fst).Nodup := by
  have ids := whole.map Prod.fst
  rw [List.map_map, List.map_map] at ids
  exact ids.nodup_iff.mpr graph.vecEmbeddings.distinct

theorem mem_distances {all : List (Id × Distance)} (whole : Distances engine graph all)
    {nodeId : Id} {distance : Distance} : (nodeId, distance) ∈ all ↔
      ∃ row, graph.vecEmbeddings.find nodeId = some row ∧
        engine.distance row.embedding = some distance := by
  have moved : (nodeId, distance) ∈ all ↔
      (nodeId, some distance) ∈ all.map fun item => (item.1, some item.2) := by
    simp [List.mem_map]
  rw [moved, whole.mem_iff, List.mem_map]
  constructor
  · rintro ⟨row, stored, same⟩
    obtain ⟨rfl, measured⟩ := Prod.mk.inj same
    exact ⟨row, Table.find_of_mem stored, measured⟩
  · rintro ⟨row, found, measured⟩
    obtain ⟨stored, rfl⟩ := Table.find_eq_some.mp found
    exact ⟨row, stored, by rw [measured]⟩

theorem scored_ids (scan : Scan) : ((scored engine scan graph).map Prod.fst).Nodup := by
  have rows : ((scan.order (graph.embeddings.rows.filter fun row =>
      isLive graph row.nodeId)).map Embedding.nodeId).Nodup := by
    rw [((scan.perm _).map _).nodup_iff]
    exact graph.embeddings.distinct.sublist (List.filter_sublist.map _)
  refine rows.sublist (made_keys (fun row made same => ?_) _)
  obtain ⟨score, -, rfl⟩ := Option.map_eq_some_iff.mp same
  rfl

theorem mem_scored {scan : Scan} {nodeId : Id} {score : Score} :
    (nodeId, score) ∈ scored engine scan graph ↔ isLive graph nodeId = true ∧
      ∃ row, graph.embeddings.find nodeId = some row ∧
        engine.similarity row.vector = some score := by
  simp only [scored, List.mem_filterMap, Scan.mem, List.mem_filter, Option.map_eq_some_iff]
  constructor
  · rintro ⟨row, ⟨stored, live⟩, value, measured, same⟩
    obtain ⟨rfl, rfl⟩ := Prod.mk.inj same
    exact ⟨live, row, Table.find_of_mem stored, measured⟩
  · rintro ⟨live, row, found, measured⟩
    obtain ⟨stored, rfl⟩ := Table.find_eq_some.mp found
    exact ⟨row, ⟨stored, live⟩, score, measured, rfl⟩

variable [LinearOrder Score] [LinearOrder Distance]

/-- In a mirror, the live rows of the index and the stored embeddings have the same scores. -/
theorem scored_perm (measures : Measures engine) (mirrors : Mirrors graph)
    (measurable : Measurable engine graph) (scan : Scan) {all : List (Id × Distance)}
    (whole : Distances engine graph all) :
    (scored engine scan graph).Perm (all.filterMap (liveScore engine graph)) := by
  have live_ids : ((all.filterMap (liveScore engine graph)).map Prod.fst).Nodup := by
    refine (distances_ids whole).sublist (made_keys (fun item made same => ?_) all)
    unfold liveScore at same
    split at same
    · exact (Option.some.inj same) ▸ rfl
    · cases same
  refine (List.perm_ext_iff_of_nodup (scored_ids scan).of_map live_ids.of_map).mpr ?_
  rintro ⟨nodeId, score⟩
  rw [mem_scored, List.mem_filterMap]
  constructor
  · rintro ⟨live, row, found, measured⟩
    have mirrored := mirrors nodeId live
    rw [found, Option.map_some] at mirrored
    obtain ⟨copy, indexed, same⟩ := Option.map_eq_some_iff.mp mirrored
    obtain ⟨distance, near⟩ := Option.isSome_iff_exists.mp
      (measurable copy (Table.find_eq_some.mp indexed).1)
    have equal := measures.same _ _ near
    rw [same, measured] at equal
    refine ⟨(nodeId, distance), (mem_distances whole).mpr ⟨copy, indexed, near⟩, ?_⟩
    rw [liveScore, if_pos live, Option.some.inj equal]
  · rintro ⟨⟨other, distance⟩, present, made⟩
    unfold liveScore at made
    split at made
    · rename_i live
      obtain ⟨rfl, rfl⟩ := Prod.mk.inj (Option.some.inj made)
      obtain ⟨copy, indexed, near⟩ := (mem_distances whole).mp present
      have mirrored := mirrors other live
      rw [indexed, Option.map_some] at mirrored
      obtain ⟨row, found, same⟩ := Option.map_eq_some_iff.mp mirrored.symm
      exact ⟨live, row, found, same ▸ measures.same _ _ near⟩
    · cases made

omit [LinearOrder Score] [LinearOrder Distance] in
/-- What a search of the index drops are stale rows. -/
theorem near_length {near far : List (Id × Distance)}
    (whole : Distances engine graph (near ++ far)) :
    near.length ≤ (near.filterMap (liveScore engine graph)).length + (stale graph).length := by
  have kept : (near.filterMap (liveScore engine graph)).length =
      near.countP fun item => isLive graph item.1 := by
    rw [List.length_filterMap_eq_countP]
    refine List.countP_congr fun item _ => ?_
    unfold liveScore
    split
    · rename_i live
      simp [live]
    · rename_i dead
      simp [dead]
  have ids := (whole.map Prod.fst).countP_eq fun nodeId => !isLive graph nodeId
  rw [List.map_map, List.map_map, List.countP_map, List.countP_map, List.countP_append] at ids
  have dropped : (stale graph).length =
      graph.vecEmbeddings.rows.countP fun row => !isLive graph row.nodeId :=
    List.countP_eq_length_filter.symm
  have both : near.length = near.countP (fun item => isLive graph item.1) +
      near.countP (fun item => !isLive graph item.1) := by
    rw [List.length_eq_countP_add_countP fun item : Id × Distance => isLive graph item.1]
    simp
  have bound : near.countP (fun item => !isLive graph item.1) ≤ (stale graph).length := by
    rw [dropped]
    have same : near.countP (fun item => !isLive graph item.1) +
        far.countP (fun item => !isLive graph item.1) =
          graph.vecEmbeddings.rows.countP fun row => !isLive graph row.nodeId := ids
    omega
  omega

/-- The ranking that a search of the index cuts. -/
theorem index_scores {scan : Scan} {topK : Int} {near far : List (Id × Distance)}
    (measures : Measures engine) (mirrors : Mirrors graph) (measurable : Measurable engine graph)
    (some_results : 0 ≤ topK) (few : ((stale graph).length : Int) ≤ max (topK * 2) 20)
    (whole : Distances engine graph (near ++ far))
    (nearer : (near ++ far).Pairwise fun first second => first.2 ≤ second.2)
    (filled : near.length = min (overfetch topK).toNat graph.vecEmbeddings.rows.length) :
    (upTo topK (near.filterMap (liveScore engine graph))).map Prod.snd =
      (bruteForce engine scan graph topK).map Prod.snd := by
  have same := scored_perm measures mirrors measurable scan whole
  rw [List.filterMap_append] at same
  have ranked : (near.filterMap (liveScore engine graph) ++
      far.filterMap (liveScore engine graph)).Pairwise fun one two => two.2 ≤ one.2 := by
    rw [← List.filterMap_append]
    refine List.pairwise_filterMap.mpr (nearer.imp fun {first second} near one made two other => ?_)
    unfold liveScore at made other
    split at made <;> cases made
    split at other <;> cases other
    exact measures.antitone _ _ near
  obtain ⟨sorted, -, ahead⟩ := List.pairwise_append.mp ranked
  refine (slice_scores some_results same sorted ahead ?_).symm
  have rows : (near ++ far).length = graph.vecEmbeddings.rows.length := by
    have lengths := whole.length_eq
    rwa [List.length_map, List.length_map] at lengths
  rw [List.length_append] at rows
  by_cases all_near : far = []
  · exact .inl (by rw [all_near]; rfl)
  · right
    have some_far : 0 < far.length := List.length_pos_iff.mpr all_near
    have most := near_length whole
    unfold overfetch at filled
    omega

omit [LinearOrder Distance] in
theorem search_scan {scan : Scan} {query : Str} (asks : PreCompress.strip query ≠ [])
    (topK : Int) : search scan false graph graph query (some engine) topK =
      some (bruteForce engine scan graph topK) := by
  rw [search, if_neg asks]
  rfl

/-- What a search of the index answers, when few of its rows are stale. -/
theorem search_index {scan : Scan} {query : Str} {topK : Int} (documented : Documented engine)
    (measures : Measures engine) (mirrors : Mirrors graph) (measurable : Measurable engine graph)
    (asks : PreCompress.strip query ≠ []) (some_results : 0 ≤ topK)
    (few : ((stale graph).length : Int) ≤ max (topK * 2) 20) :
    ∃ results, search scan true graph graph query (some engine) topK = some results ∧
      results.map Prod.snd = (bruteForce engine scan graph topK).map Prod.snd ∧
      ∀ item ∈ results, item ∈ scored engine scan graph := by
  rw [search, if_neg asks]
  cases answered : engine.nearest graph.vecEmbeddings.rows (overfetch topK) with
  | none =>
      simp only [if_true]
      exact ⟨_, rfl, rfl,
        fun item taken => mem_descending.mp ((up_to_sublist _ _).subset taken)⟩
  | some answer =>
      have fetches : 0 ≤ overfetch topK := by
        unfold overfetch
        omega
      obtain ⟨near, far, rfl, whole, nearer, filled⟩ := documented _ _ _ answered fetches measurable
      simp only [if_true]
      refine ⟨upTo topK (near.filterMap (liveScore engine graph)), index_results_eq near topK,
        index_scores measures mirrors measurable some_results few whole nearer filled, ?_⟩
      intro item taken
      rw [(scored_perm measures mirrors measurable scan whole).mem_iff, List.filterMap_append]
      exact List.mem_append_left _ ((up_to_sublist _ _).subset taken)

end

/-- Vectors on a line, with the query at the origin. -/
def points : Engine Nat Int Int Int where
  similarity := fun point => some (1 - point)
  distance := some
  complement := fun distance => 1 - distance
  nearest := fun rows limit =>
    some ((((rows.map fun row => (row.nodeId, row.embedding)).insertionSort
      fun first second => first.2 ≤ second.2).take limit.toNat).map
        fun item => (item.1, some item.2))

theorem points_documented : Documented points := by
  intro rows limit answer answered some_limit measured
  obtain rfl := Option.some.inj answered
  let nearer : Nat × Int → Nat × Int → Prop := fun first second => first.2 ≤ second.2
  have total : Std.Total nearer := ⟨fun first second => le_total first.2 second.2⟩
  have transitive : IsTrans (Nat × Int) nearer := ⟨fun _ _ _ one two => le_trans one two⟩
  let all := (rows.map fun row => (row.nodeId, row.embedding)).insertionSort
    fun first second => first.2 ≤ second.2
  have sorted : all.Pairwise nearer := List.pairwise_insertionSort nearer _
  have whole : all.Perm (rows.map fun row => (row.nodeId, row.embedding)) :=
    List.perm_insertionSort _ _
  refine ⟨all.take limit.toNat, all.drop limit.toNat, rfl, ?_, ?_, ?_⟩
  · rw [List.take_append_drop]
    have same := whole.map fun item : Nat × Int => (item.1, some item.2)
    rwa [List.map_map] at same
  · rw [List.take_append_drop]
    exact sorted
  · rw [List.length_take, whole.length_eq, List.length_map]

theorem points_measures : Measures points where
  same := by
    intro blob distance measured
    obtain rfl := Option.some.inj measured
    rfl
  antitone := fun first second nearer => Int.sub_le_sub_left nearer 1

/-- The nearest memory has decayed, and its vectors are still there. -/
def shelf : Graph Nat Int Int where
  nodes := ⟨[{ id := 1, content := str "tea", nodeType := str "fact" },
    { id := 2, content := str "coffee", nodeType := str "fact", decayed := some 1 },
    { id := 3, content := str "water", nodeType := str "fact" }], by decide⟩
  edges := Table.empty
  embeddings := ⟨[⟨1, 4, str "line", ""⟩, ⟨2, 0, str "line", ""⟩, ⟨3, 2, str "line", ""⟩],
    by decide⟩
  vecEmbeddings := ⟨[⟨1, 4⟩, ⟨2, 0⟩, ⟨3, 2⟩], by decide⟩
  decayAudit := []

example : search asStored true shelf shelf (str "drinks") (some points) 1 = some [(3, -1)] := by
  decide +kernel

end HermesCashew.VectorIndex
