import HermesCashew.BfsRetrieval
import HermesCashew.RecallTags

/-!
# What a retrieval returns

Its results are distinct, ranked, live and as they were asked for, and they are reached
from the seeds over edges that it read. What is near and matches is passed over only for
something that is no worse.
-/

namespace HermesCashew.BfsRetrieval

open HermesCashew.BeamSearch
open HermesCashew.JsonDocument (Value)
open HermesCashew.JsonText (Str str)
open HermesCashew.Lifecycle (Generation)
open HermesCashew.PrefetchWorker (PrefetchCall Profile Text World emptyWorld step)
open HermesCashew.Recall (Asked Clause FiltersTags Graph Hides Layers Node RowOrder given
  wildcards)
open HermesCashew.SqlLike (surround)
open HermesCashew.Transition (Reaches anyStep)

set_option autoImplicit false

variable {Vector Weight : Type} {upstream : Upstream Vector Weight} {call : Call}

/-! ## Rows as they were asked for -/

structure Wanted (upstream : Upstream Vector Weight) (call : Call) (node : Node)
    (found : Details) : Prop where
  live : node.decayed = none ∨ node.decayed = some 0
  content : found.content = node.content
  domain : ∀ domain, given call.domain = some domain → found.domain = .str domain
  /-- An old table is not asked for tags. -/
  tags : upstream.columns.domain = true → upstream.columns.tags = true → call.tags ≠ [] →
    ∃ tag ∈ call.tags, Clause.tagsLike.holds node [surround wildcards tag] = true
  excluded : upstream.columns.tags = true → Recall.passes call.excludeTags node = true

theorem details_of_inv {node : Node} {nodeId : String} {found : Details}
    (read : detailsOf upstream call node = .ok (some (nodeId, found))) :
    finalDomain upstream node = .ok found.domain ∧
      elsewhere upstream call found.domain = false ∧ found.content = node.content := by
  unfold detailsOf at read
  cases domain : finalDomain upstream node with
  | error error =>
      rw [domain] at read
      cases read
  | ok value =>
      rw [domain] at read
      have same := Except.ok.inj read
      split at same
      · cases same
      · rename_i here
        obtain ⟨-, rfl⟩ := Prod.mk.inj (Option.some.inj same)
        exact ⟨rfl, Bool.eq_false_iff.mpr here, rfl⟩

theorem is_text_eq {text : Str} {value : Value} (same : isText text value = true) :
    value = .str text := by
  unfold isText at same
  split at same
  · exact congrArg Value.str (of_decide_eq_true same)
  · cases same

theorem given_given {value : Option Str} {text : Str} (is_given : given value = some text) :
    given (some text) = some text := by
  obtain ⟨-, solid⟩ := Option.filter_eq_some_iff.mp is_given
  exact Option.filter_eq_some_iff.mpr ⟨rfl, solid⟩

theorem wanted_of_passes {snapshot : Snapshot Vector} {nodeId : String} {found : Details}
    (passes : Passes upstream call snapshot nodeId found) :
    ∃ node ∈ snapshot.graph.rows, node.id = nodeId ∧ Wanted upstream call node found := by
  obtain ⟨node, stored, same, selected, read⟩ := passes
  obtain ⟨named, here, content⟩ := details_of_inv read
  simp only [selects, Bool.and_eq_true, Bool.or_eq_true, Bool.not_eq_true', Bool.and_eq_false_iff,
    List.isEmpty_iff, List.any_eq_true, List.all_eq_true] at selected
  obtain ⟨⟨⟨live, domain⟩, tags⟩, excluded⟩ := selected
  refine ⟨node, stored, same, ?_, content, ?_, ?_, ?_⟩
  · simpa [Clause.holds] using live
  · intro asked is_given
    cases columns : upstream.columns.domain with
    | true =>
        have stored_domain : node.domain = some asked := by
          rw [columns] at domain
          simpa [is_given, Clause.holds] using domain
        rw [finalDomain, stored_domain, Option.getD_some, given_given is_given] at named
        simp only [columns, if_true] at named
        exact (Except.ok.inj named).symm
    | false =>
        rw [elsewhere, is_given, Option.any_some, columns] at here
        exact is_text_eq (by simpa using here)
  · intro has_domain has_tags some_tag
    rw [has_domain, has_tags] at tags
    rcases tags with (absent | none_asked) | ⟨tag, among, carried⟩
    · rcases absent with absent | absent <;> cases absent
    · exact absurd none_asked some_tag
    · exact ⟨tag, among, carried⟩
  · intro has_tags
    rw [has_tags] at excluded
    rcases excluded with absent | hidden
    · cases absent
    · exact List.all_eq_true.mpr fun tag among => by
        rw [hidden tag among, Bool.or_true]

/-! ## A walk over two notes -/

def noteRow (id tags : String) : Node where
  id := id
  content := str id
  nodeType := none
  domain := none
  permanent := none
  tags := some (str tags)
  decayed := some 0
  referentTime := none
  timestamp := none

def noteGraph : Graph where
  rows := [noteRow "tea" "drink", noteRow "pot" "kitchen"]
  distinct := by decide

def notes : Snapshot Int where
  graph := noteGraph
  edges := [("tea", "pot")]
  vector nodeId := some (if nodeId = "tea" then 2 else 5)

def noteUpstream : Upstream Int Int where
  world _ := some notes
  arrange _ := ThoughtGraph.asStored
  columns := ⟨true, true⟩
  search _ _ := some [("tea", 2)]
  embed _ := some (some .is)
  metadataDomain _ := none

def noteCall : Call where
  query := str "tea"
  topK := 1

theorem note_answer : ∃ results,
    (retrieveRecursiveBfs noteUpstream noteCall { clock := 0 }).1 = .ok results ∧
      results.map RetrievalResult.nodeId = ["pot"] := by
  have ran : ((retrieveRecursiveBfs noteUpstream noteCall { clock := 0 }).1.toOption.map
      fun results => results.map RetrievalResult.nodeId) = some ["pot"] := by
    decide +kernel
  cases outcome : (retrieveRecursiveBfs noteUpstream noteCall { clock := 0 }).1 with
  | error failure =>
      rw [outcome] at ran
      cases ran
  | ok results =>
      rw [outcome] at ran
      exact ⟨results, rfl, Option.some.inj ran⟩

/-! ## The results of an answer -/

section

variable [Zero Weight] [LinearOrder Weight] {now : Nat} {answer : Answer upstream call now}

omit [Zero Weight] [LinearOrder Weight] in
theorem result_of_inv {details : List (String × Details)} {item : String × Weight}
    {result : RetrievalResult Weight} (made : resultOf details item = some result) :
    (result.nodeId, result.score) = item ∧ details.lookup result.nodeId =
      some ⟨result.content, result.nodeType, result.domain⟩ := by
  obtain ⟨found, known, rfl⟩ := Option.map_eq_some_iff.mp made
  exact ⟨rfl, known⟩

omit [Zero Weight] [LinearOrder Weight] in
theorem filter_map_sublist (details : List (String × Details)) (ranked : List (String × Weight)) :
    ((ranked.filterMap (resultOf details)).map fun result =>
      (result.nodeId, result.score)).Sublist ranked := by
  induction ranked with
  | nil => exact .slnil
  | cons item rest ih =>
      cases made : resultOf details item with
      | none =>
          rw [List.filterMap_cons_none made]
          exact ih.cons _
      | some result =>
          rw [List.filterMap_cons_some made, List.map_cons, (result_of_inv made).1]
          exact ih.cons_cons _

theorem Answer.passing_sublist (answer : Answer upstream call now) :
    (answer.passing.map fun result => (result.nodeId, result.score)).Sublist answer.ranked :=
  (filter_map_sublist answer.details _).trans (up_to_sublist _ _)

theorem Answer.sublist (answer : Answer upstream call now) :
    (answer.results.map fun result => (result.nodeId, result.score)).Sublist answer.ranked :=
  ((List.take_sublist _ _).map _).trans answer.passing_sublist

theorem Answer.neighbors_nodup (answer : Answer upstream call now) (nodeId : String) :
    (answer.walked.neighbors nodeId).Nodup := by
  unfold Connection.neighbors
  cases known : answer.walked.neighborCache.lookup nodeId with
  | none => exact List.nodup_nil
  | some nbrs =>
      rcases answer.read.neighborsRead _ _ known with before | ⟨snapshot, -, same⟩
      · cases before
      · exact same.nodup_iff.mpr (List.nodup_dedup _)

theorem Answer.ranked_nodup (answer : Answer upstream call now) :
    (answer.ranked.map Prod.fst).Nodup :=
  answer.ranking.candidates.nodup_iff.mpr
    (walk_nodup answer.neighbors_nodup (List.nodup_dedup _))

theorem Answer.ids_nodup (answer : Answer upstream call now) :
    (answer.results.map RetrievalResult.nodeId).Nodup := by
  have ids := answer.sublist.map Prod.fst
  rw [List.map_map] at ids
  exact answer.ranked_nodup.sublist ids

theorem Answer.passing_sorted (answer : Answer upstream call now) :
    answer.passing.Pairwise fun first second => second.score ≤ first.score :=
  List.pairwise_map.mp (answer.ranking.sorted.sublist answer.passing_sublist)

theorem Answer.known {result : RetrievalResult Weight} (among : result ∈ answer.results) :
    (result.nodeId, result.score) ∈ upTo (call.topK * 3) answer.ranked ∧
      answer.details.lookup result.nodeId =
        some ⟨result.content, result.nodeType, result.domain⟩ := by
  obtain ⟨item, kept, made⟩ := List.mem_filterMap.mp (List.mem_of_mem_take among)
  obtain ⟨rfl, known⟩ := result_of_inv made
  exact ⟨kept, known⟩

/-- All results are rows of one state of the database. -/
theorem Answer.rows (answer : Answer upstream call now) :
    answer.results = [] ∨ ∃ clock snapshot, answer.walked.clock ≤ clock ∧
      upstream.world clock = some snapshot ∧ ∀ result ∈ answer.results,
        Passes upstream call snapshot result.nodeId
          ⟨result.content, result.nodeType, result.domain⟩ := by
  rcases answer.loaded with ⟨none_asked, -⟩ | ⟨clock, snapshot, later, committed, loaded⟩
  · refine .inl (List.eq_nil_iff_forall_not_mem.mpr fun result among => ?_)
    have kept := (List.map_eq_nil_iff.mp none_asked) ▸ (answer.known among).1
    exact absurd kept List.not_mem_nil
  · refine .inr ⟨clock, snapshot, later, committed, fun result among => ?_⟩
    exact ((loaded _ _).mp (answer.known among).2).2

/-- An edge that was committed at some statement from `now` on and before `walked`. -/
def Linked (upstream : Upstream Vector Weight) (now walked : Nat) (first second : String) : Prop :=
  ∃ clock snapshot, now ≤ clock ∧ clock < walked ∧ upstream.world clock = some snapshot ∧
    second ∈ snapshot.neighbors first

theorem Answer.linked {first second : String}
    (near : second ∈ answer.walked.neighbors first) :
    Linked upstream now answer.walked.clock first second := by
  unfold Connection.neighbors at near
  cases known : answer.walked.neighborCache.lookup first with
  | none =>
      rw [known] at near
      exact absurd near List.not_mem_nil
  | some nbrs =>
      rw [known] at near
      rcases answer.read.neighborsRead _ _ known with before | ⟨snapshot, between, same⟩
      · cases before
      · obtain ⟨clock, from_now, to_walked, committed⟩ := between
        exact ⟨clock, snapshot, from_now, to_walked, committed, same.mem_iff.mp near⟩

theorem Answer.within {result : RetrievalResult Weight} (among : result ∈ answer.results) :
    ∃ seed ∈ answer.seeds, Within (Linked upstream now answer.walked.clock)
      call.maxDepth.toNat seed.1 result.nodeId := by
  have ranked := (up_to_sublist _ _).subset (answer.known among).1
  have reached := answer.ranking.candidates.mem_iff.mp (List.mem_map_of_mem ranked)
  rcases walk_within reached with known | ⟨start, among_seeds, near⟩
  · obtain ⟨seed, is_seed, same⟩ := List.mem_map.mp (List.mem_dedup.mp known)
    exact ⟨seed, is_seed, same ▸ .here _ _⟩
  · obtain ⟨seed, is_seed, rfl⟩ := List.mem_map.mp among_seeds
    exact ⟨seed, is_seed, near.imp fun _ _ => answer.linked⟩

theorem Answer.length_le (answer : Answer upstream call now) :
    answer.results.length ≤ room call.topK := by
  rw [Answer.results, List.length_take]
  exact Nat.min_le_left _ _

/-- Among writers that change the database at every statement: the results are distinct and
ranked, no more than asked for, rows as they were asked for of one state that was committed
after the walk, and within the depth of a seed over edges that were committed during it. -/
theorem results_hold {results : List (RetrievalResult Weight)}
    (ran : (retrieveRecursiveBfs upstream call { clock := now }).1 = .ok results) :
    (results.map RetrievalResult.nodeId).Nodup ∧
      results.Pairwise (fun first second => second.score ≤ first.score) ∧
      results.length ≤ room call.topK ∧
      ∃ walked, now ≤ walked ∧
        (results = [] ∨ ∃ clock snapshot, walked ≤ clock ∧ upstream.world clock = some snapshot ∧
          ∀ result ∈ results, ∃ node ∈ snapshot.graph.rows, node.id = result.nodeId ∧
            Wanted upstream call node ⟨result.content, result.nodeType, result.domain⟩) ∧
        ∀ result ∈ results, ∃ seeds, upstream.search call.query call.nSeeds = some seeds ∧
          ∃ seed ∈ seeds, Within (Linked upstream now walked) call.maxDepth.toNat seed.1
            result.nodeId := by
  rcases retrieval_ok ran with ⟨-, rfl⟩ | ⟨answer, rfl⟩
  · exact ⟨List.nodup_nil, .nil, Nat.zero_le _, now, le_refl _, .inl rfl,
      fun _ among => absurd among List.not_mem_nil⟩
  · refine ⟨answer.ids_nodup, answer.passing_sorted.sublist (List.take_sublist _ _),
      answer.length_le, answer.walked.clock, answer.read.clock, ?_, fun result among => ?_⟩
    · rcases answer.rows with none_found | ⟨clock, snapshot, later, committed, passes⟩
      · exact .inl none_found
      · exact .inr ⟨clock, snapshot, later, committed,
          fun result among => wanted_of_passes (passes result among)⟩
    · obtain ⟨seed, is_seed, near⟩ := Answer.within among
      exact ⟨answer.seeds, answer.searched, seed, is_seed, near⟩

theorem note_results_hold : ∃ results walked,
    (retrieveRecursiveBfs noteUpstream noteCall { clock := 0 }).1 = .ok results ∧
      results.map RetrievalResult.nodeId = ["pot"] ∧
      ∀ result ∈ results, ∃ seeds, noteUpstream.search noteCall.query noteCall.nSeeds = some seeds ∧
        ∃ seed ∈ seeds, Within (Linked noteUpstream 0 walked) 3 seed.1 result.nodeId := by
  obtain ⟨results, ran, ids⟩ := note_answer
  obtain ⟨-, -, -, walked, -, -, near⟩ := results_hold ran
  exact ⟨results, walked, ran, ids, near⟩

/-- An edge that no writer takes away from `now` on. -/
def StaysLinked (upstream : Upstream Vector Weight) (now : Nat) (first second : String) : Prop :=
  ∀ clock snapshot, now ≤ clock → upstream.world clock = some snapshot →
    second ∈ snapshot.neighbors first

theorem Answer.neighbors_read {nodeId : String} (asked : answer.walked.asked nodeId) :
    ∃ clock snapshot, now ≤ clock ∧ upstream.world clock = some snapshot ∧
      (answer.walked.neighbors nodeId).Perm (snapshot.neighbors nodeId) := by
  obtain ⟨nbrs, known⟩ := Option.isSome_iff_exists.mp asked
  rcases answer.read.neighborsRead _ _ known with before | ⟨snapshot, between, same⟩
  · cases before
  · obtain ⟨clock, from_now, -, committed⟩ := between
    refine ⟨clock, snapshot, from_now, committed, ?_⟩
    rw [Connection.neighbors, known]
    exact same

/-- A node near a seed is a candidate as long as no node has more neighbours than are
picked. -/
theorem Answer.reaches {seed nodeId : String} (some_picks : 0 ≤ call.picksPerHop)
    (few : ∀ clock snapshot other, now ≤ clock → upstream.world clock = some snapshot →
      (snapshot.neighbors other).length ≤ call.picksPerHop.toNat)
    (is_seed : seed ∈ answer.seeds.map Prod.fst)
    (near : Within (StaysLinked upstream now) call.maxDepth.toNat seed nodeId) :
    nodeId ∈ answer.ranked.map Prod.fst := by
  refine answer.ranking.candidates.mem_iff.mpr ?_
  refine walk_covers some_picks answer.neighbors_nodup (fun _ => List.mem_dedup)
    (fun hops shallow other reached => ?_) is_seed near (le_refl _)
  obtain ⟨clock, snapshot, later, committed, same⟩ :=
    Answer.neighbors_read (answer.ranking.asked hops shallow other reached)
  refine ⟨same.length_eq ▸ few clock snapshot other later committed, fun last stays => ?_⟩
  exact same.mem_iff.mpr (stays clock snapshot later committed)

/-- What a ranked score comes of. -/
theorem Answer.scored {item : String × Weight} (among : item ∈ answer.ranked) :
    ∃ clock snapshot, now ≤ clock ∧ upstream.world clock = some snapshot ∧
      scoreOf answer.cosine answer.seeds item.1 (snapshot.vector item.1) = .ok item.2 := by
  obtain ⟨vec, known, score⟩ := answer.ranking.scored item among
  rcases answer.read.vectorsRead _ _ known with before | ⟨snapshot, between, rfl⟩
  · cases before
  · obtain ⟨clock, from_now, -, committed⟩ := between
    exact ⟨clock, snapshot, from_now, committed, score⟩

/-- A candidate whose row passes is returned, or what is returned instead is no worse. -/
theorem Answer.passes_or_beaten {item : String × Weight} (some_results : 0 < call.topK)
    (among : item ∈ answer.ranked) {found : Details}
    (passes : ∀ clock snapshot, now ≤ clock → upstream.world clock = some snapshot →
      Passes upstream call snapshot item.1 found) :
    (∃ result ∈ answer.results, (result.nodeId, result.score) = item) ∨
      (answer.results.length = room call.topK ∧
        ∀ result ∈ answer.results, item.2 ≤ result.score) ∨
      ((upTo (call.topK * 3) answer.ranked).length = (call.topK * 3).toNat ∧
        ∀ other ∈ upTo (call.topK * 3) answer.ranked, other ≠ item ∧ item.2 ≤ other.2) := by
  by_cases kept : item ∈ upTo (call.topK * 3) answer.ranked
  · have known : answer.details.lookup item.1 = some found := by
      rcases answer.loaded with ⟨none_asked, -⟩ | ⟨clock, snapshot, later, committed, loaded⟩
      · rw [List.map_eq_nil_iff.mp none_asked] at kept
        exact absurd kept List.not_mem_nil
      · exact (loaded _ _).mpr ⟨List.mem_map_of_mem kept,
          passes clock snapshot (answer.read.clock.trans later) committed⟩
    let result : RetrievalResult Weight :=
      ⟨item.1, found.content, found.nodeType, found.domain, item.2, [item.1]⟩
    have made : resultOf answer.details item = some result := by
      rw [resultOf, known, Option.map_some]
    have present : result ∈ answer.passing := List.mem_filterMap.mpr ⟨item, kept, made⟩
    rw [Answer.results, ← up_to_nat]
    by_cases returned : result ∈ upTo (room call.topK) answer.passing
    · exact .inl ⟨result, returned, rfl⟩
    · refine .inr (.inl ⟨up_to_full (Int.natCast_nonneg _) present returned, ?_⟩)
      intro other among_results
      have before := up_to_before answer.passing_sorted among_results present returned
      exact before
  · refine .inr (.inr ⟨up_to_full (by omega) among kept, fun other ahead => ⟨?_, ?_⟩⟩)
    · rintro rfl
      exact kept ahead
    · have before := up_to_before answer.ranking.sorted ahead among kept
      exact before

/-- A node that edges which stay connect to a seed, whose row matches and whose vector stays:
it is returned, unless there are as many results that are no worse, or as many other ranked
nodes that are no worse as are looked at. -/
theorem near_match_not_passed_over {results : List (RetrievalResult Weight)}
    {seeds : List (String × Weight)} {cosine : Vector → Cosine Weight} {seed nodeId : String}
    {found : Details} {score : Weight}
    (ran : (retrieveRecursiveBfs upstream call { clock := now }).1 = .ok results)
    (asks : PreCompress.strip call.query ≠ []) (some_results : 0 < call.topK)
    (some_picks : 0 ≤ call.picksPerHop)
    (searched : upstream.search call.query call.nSeeds = some seeds)
    (embedded : upstream.embed call.query = some (some cosine))
    (is_seed : seed ∈ seeds.map Prod.fst)
    (few : ∀ clock snapshot other, now ≤ clock → upstream.world clock = some snapshot →
      (snapshot.neighbors other).length ≤ call.picksPerHop.toNat)
    (near : Within (StaysLinked upstream now) call.maxDepth.toNat seed nodeId)
    (passes : ∀ clock snapshot, now ≤ clock → upstream.world clock = some snapshot →
      Passes upstream call snapshot nodeId found)
    (scored : ∀ clock snapshot, now ≤ clock → upstream.world clock = some snapshot →
      scoreOf cosine seeds nodeId (snapshot.vector nodeId) = .ok score) :
    (∃ result ∈ results, result.nodeId = nodeId ∧ result.score = score) ∨
      (results.length = room call.topK ∧ ∀ result ∈ results, score ≤ result.score) ∨
      ∃ ahead : List (String × Weight), (ahead.map Prod.fst).Nodup ∧
        ahead.length = (call.topK * 3).toNat ∧
        ∀ item ∈ ahead, item.1 ≠ nodeId ∧ score ≤ item.2 ∧
          ∃ clock snapshot, now ≤ clock ∧ upstream.world clock = some snapshot ∧
            scoreOf cosine seeds item.1 (snapshot.vector item.1) = .ok item.2 := by
  rcases retrieval_ok ran with ⟨blank | none_found | no_norm, -⟩ | ⟨answer, rfl⟩
  · exact absurd blank asks
  · rw [Option.some.inj (searched.symm.trans none_found)] at is_seed
    exact absurd is_seed List.not_mem_nil
  · cases embedded.symm.trans no_norm
  obtain rfl := Option.some.inj (searched.symm.trans answer.searched)
  obtain rfl := Option.some.inj (Option.some.inj (embedded.symm.trans answer.embedded))
  obtain ⟨item, among, rfl⟩ := List.mem_map.mp (answer.reaches some_picks few is_seed near)
  obtain ⟨clock, snapshot, later, committed, own_score⟩ := answer.scored among
  obtain rfl := Except.ok.inj ((scored clock snapshot later committed).symm.trans own_score)
  rcases answer.passes_or_beaten some_results among passes with
    ⟨result, returned, same⟩ | full | ⟨full, ahead⟩
  · exact .inl ⟨result, returned, congrArg Prod.fst same, congrArg Prod.snd same⟩
  · exact .inr (.inl full)
  · refine .inr (.inr ⟨_, answer.ranked_nodup.sublist ((up_to_sublist _ _).map _), full, ?_⟩)
    intro other is_ahead
    obtain ⟨differs, no_worse⟩ := ahead other is_ahead
    have other_ranked := (up_to_sublist _ _).subset is_ahead
    refine ⟨fun same_id => differs ?_, no_worse, answer.scored other_ranked⟩
    exact List.inj_on_of_nodup_map answer.ranked_nodup other_ranked among same_id

theorem note_pot_not_passed_over : ∃ results,
    (retrieveRecursiveBfs noteUpstream noteCall { clock := 0 }).1 = .ok results ∧
      ((∃ result ∈ results, result.nodeId = "pot" ∧ result.score = 5) ∨
        (results.length = room 1 ∧ ∀ result ∈ results, 5 ≤ result.score) ∨
        ∃ ahead : List (String × Int), (ahead.map Prod.fst).Nodup ∧ ahead.length = 3 ∧
          ∀ item ∈ ahead, item.1 ≠ "pot" ∧ 5 ≤ item.2 ∧
            ∃ clock snapshot, 0 ≤ clock ∧ noteUpstream.world clock = some snapshot ∧
              scoreOf .is [("tea", 2)] item.1 (snapshot.vector item.1) = .ok item.2) := by
  obtain ⟨results, ran, -⟩ := note_answer
  have few (other : String) : (notes.neighbors other).length ≤ 3 := by
    refine (List.dedup_sublist _).length_le.trans ?_
    have one := List.length_filter_le (fun edge : String × String => edge.1 = other) notes.edges
    have two := List.length_filter_le (fun edge : String × String => edge.2 = other) notes.edges
    have both : notes.edges.length = 1 := rfl
    simp only [List.length_append, List.length_map]
    omega
  have pot_passes : Passes noteUpstream noteCall notes "pot"
      ⟨str "pot", none, .str (str "unknown")⟩ :=
    ⟨noteRow "pot" "kitchen", List.mem_cons_of_mem _ List.mem_cons_self, rfl,
      by decide +kernel, rfl⟩
  have near : Within (StaysLinked noteUpstream 0) 3 "tea" "pot" := by
    refine .hop (.here 2 "tea") fun clock snapshot _ committed => ?_
    exact Option.some.inj committed ▸ (by decide : "pot" ∈ notes.neighbors "tea")
  refine ⟨results, ran, near_match_not_passed_over ran (by decide +kernel) (by decide) (by decide)
    rfl rfl List.mem_cons_self ?_ near (fun clock snapshot _ committed =>
      Option.some.inj committed ▸ pot_passes) ?_⟩
  · rintro clock snapshot other - committed
    exact Option.some.inj committed ▸ few other
  · rintro clock snapshot - committed
    exact Option.some.inj committed ▸ rfl

/-! ## A recall over the retrieval -/

def callOf (asked : Asked) : Call where
  query := asked.query
  topK := asked.maxNodes
  domain := asked.domain
  tags := (given asked.tag).toList
  excludeTags := asked.excludeTags

/-- The ids of the results, as the routes of a recall take them. -/
def retrieveIds (upstream : Upstream Vector Weight) (now : Nat) (asked : Asked) :
    Option (List String) :=
  match (retrieveRecursiveBfs upstream (callOf asked) { clock := now }).1 with
  | .ok results => some (results.map RetrievalResult.nodeId)
  | .error _ => none

/-- With the rows that a recall reads again still as they were loaded, the retrieval applies
the condition of the keyword search. -/
theorem retrieval_filters_tags {graph : Graph} {asked : Asked} {nodeIds : List String}
    (has_tags : upstream.columns.tags = true)
    (still : ∀ clock snapshot, now ≤ clock → upstream.world clock = some snapshot →
      snapshot.graph = graph)
    (retrieved : retrieveIds upstream now asked = some nodeIds) :
    FiltersTags graph asked.excludeTags nodeIds := by
  unfold retrieveIds at retrieved
  split at retrieved
  · rename_i results ran
    obtain rfl := Option.some.inj retrieved
    intro node stored among
    obtain ⟨result, is_result, same⟩ := List.mem_map.mp among
    rcases retrieval_ok ran with ⟨-, rfl⟩ | ⟨answer, rfl⟩
    · exact absurd is_result List.not_mem_nil
    rcases answer.rows with none_found | ⟨clock, snapshot, later, committed, passes⟩
    · rw [none_found] at is_result
      exact absurd is_result List.not_mem_nil
    obtain ⟨row, row_stored, row_id, wanted⟩ := wanted_of_passes (passes result is_result)
    rw [still clock snapshot (answer.read.clock.trans later) committed] at row_stored
    obtain rfl := same_row row_stored stored (row_id.trans same)
    exact wanted.excluded has_tags
  · cases retrieved

/-- In every run, over this retrieval and with the rows as they were loaded, no route of a
recall returns a node that carries an excluded tag. As for `LIKE`, tags have no NUL. -/
theorem recall_hides_excluded {profiles : Generation → Profile} {text : Text}
    {world : World Node}
    (reached : Reaches (step profiles text Node.id) anyStep (emptyWorld Node) world)
    (graph : Graph) (order : RowOrder) (has_tags : upstream.columns.tags = true)
    (still : ∀ clock snapshot, now ≤ clock → upstream.world clock = some snapshot →
      snapshot.graph = graph) :
    (∀ layers call nodes,
      (∀ asked, layers.retrieve asked = retrieveIds upstream now asked) →
      Recall.prefetchNodes profiles text layers order graph world call = some nodes →
      ∀ node ∈ nodes, Hides ((call.excludeTags.getD []).map str) node) ∧
    ∀ tools opens identityReady request asked log nodes after,
      Recall.askedOfRequest request = some asked →
      tools.retrieve request request.tags = retrieveIds upstream now asked →
      ToolCall.queryNodes (Recall.queryLayers tools opens order graph) identityReady request log =
        (.ok nodes, after) →
      ∀ node ∈ nodes, Hides asked.excludeTags node := by
  constructor
  · intro layers call nodes uses answered node member
    unfold Recall.prefetchNodes at answered
    split at answered
    · rename_i hit
      exact Recall.hit_excludes_nothing reached hit node
    · simp only [Option.bind_eq_bind, Option.bind_eq_some_iff] at answered
      obtain ⟨config, -, _, -, recalled⟩ := answered
      refine Recall.hides_of_passes (Recall.cold_nodes_pass (fun nodeIds retrieved => ?_) recalled
        node member)
      exact retrieval_filters_tags has_tags still (uses _ ▸ retrieved)
  · intro tools opens identityReady request asked log nodes after typed uses ran node member
    refine Recall.hides_of_passes (Recall.query_nodes_pass typed (fun nodeIds retrieved => ?_) ran
      node member)
    exact retrieval_filters_tags has_tags still (uses ▸ retrieved)

end

def noteLayers : Layers where
  admits := true
  releases := true
  retrieve := retrieveIds noteUpstream 0
  validatesBefore := true
  validatesAfter := true
  opens := true

def noDrinks : PrefetchCall :=
  { PrefetchWorker.sampleCall with excludeTags := some ["drink"] }

theorem drinks_are_hidden : ∃ world : World Node,
    Recall.prefetchNodes (fun _ => PrefetchWorker.sampleProfile) PrefetchWorker.sampleText
      noteLayers Recall.asStored noteGraph world noDrinks = some [noteRow "pot" "kitchen"] ∧
      ∀ node ∈ [noteRow "pot" "kitchen"], Hides [str "drink"] node := by
  have ran : (Transition.execute (step (fun _ => PrefetchWorker.sampleProfile)
      PrefetchWorker.sampleText Node.id) (emptyWorld Node) Recall.readySchedule).map (fun world =>
        Recall.prefetchNodes (fun _ => PrefetchWorker.sampleProfile) PrefetchWorker.sampleText
          noteLayers Recall.asStored noteGraph world noDrinks) =
      some (some [noteRow "pot" "kitchen"]) := by
    decide +kernel
  obtain ⟨world, ran, recalled⟩ := Option.map_eq_some_iff.mp ran
  have reached := Transition.reaches_of_execute (step (fun _ => PrefetchWorker.sampleProfile)
    PrefetchWorker.sampleText Node.id) (emptyWorld Node) Recall.readySchedule ran
  have still : ∀ clock snapshot, 0 ≤ clock → noteUpstream.world clock = some snapshot →
      snapshot.graph = noteGraph :=
    fun _ _ _ committed => Option.some.inj committed ▸ rfl
  exact ⟨world, recalled, (recall_hides_excluded reached noteGraph Recall.asStored rfl still).1
    noteLayers noDrinks _ (fun _ => rfl) recalled⟩

end HermesCashew.BfsRetrieval
