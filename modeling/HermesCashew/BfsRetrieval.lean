import HermesCashew.BeamSearch
import HermesCashew.Raising
import HermesCashew.Recall
import HermesCashew.ThoughtGraph
import Mathlib

/-!
# The retrieval behind a recall

`retrieve_recursive_bfs` walks the graph from the hits of the embedding search while other
connections write to it. Every statement reads what is committed when it runs; neighbours
and vectors are read once and kept. After the walk the connection is closed, and only then
are the candidates ranked.
-/

namespace HermesCashew.BfsRetrieval

open HermesCashew.BeamSearch
open HermesCashew.JsonDocument (Value)
open HermesCashew.JsonText (Str str)
open HermesCashew.Raising
open HermesCashew.Recall (Node Graph Clause given wildcards)
open HermesCashew.SqlLike (surround)
open HermesCashew.ThoughtGraph (Scan)

set_option autoImplicit false

/-! ## The database -/

/-- What is committed at some moment. A vector that is `NULL` is none. -/
structure Snapshot (Vector : Type) where
  graph : Graph
  edges : List (String × String)
  vector : String → Option Vector

/-- The rows of the `UNION` over both directions. -/
def Snapshot.neighbors {Vector : Type} (snapshot : Snapshot Vector) (nodeId : String) :
    List String :=
  (((snapshot.edges.filter fun edge => edge.1 = nodeId).map Prod.snd) ++
    ((snapshot.edges.filter fun edge => edge.2 = nodeId).map Prod.fst)).dedup

/-- Which columns `thought_nodes` has. -/
structure Columns where
  domain : Bool
  tags : Bool

inductive Failure where
  /-- A statement on a connection that has been closed. -/
  | closedDatabase
  | statement
  | search
  | embedding
  | vector
  | metadata
  deriving DecidableEq, Repr

/-- What comes of a stored vector and the vector of the query. -/
inductive Cosine (Weight : Type) where
  /-- The stored vector has norm zero. -/
  | noNorm
  | is (cosine : Weight)
  /-- It cannot be read, or has another dimension. -/
  | raises

/-- What a retrieval meets: the states of the database at its successive statements, where a
statement that fails has none; the order of the sets and of the rows; the layers below,
which raise where they have none. Where scores are ranked they are in a linear order: no
cosine is NaN. -/
structure Upstream (Vector Weight : Type) where
  world : Nat → Option (Snapshot Vector)
  arrange : Nat → Scan
  columns : Columns
  search : Str → Int → Option (List (String × Weight))
  /-- The cosine to the vector of the query, when its norm is not zero. -/
  embed : Str → Option (Option (Vector → Cosine Weight))
  /-- `json.loads(metadata).get('domain', 'unknown')`. -/
  metadataDomain : String → Option Value

/-- The arguments, with their defaults. -/
structure Call where
  query : Str
  topK : Int := 10
  nSeeds : Int := 5
  picksPerHop : Int := 3
  maxDepth : Int := 3
  domain : Option Str := none
  tags : List Str := []
  excludeTags : List Str := []

structure Details where
  content : Str
  nodeType : Option Str
  domain : Value

structure RetrievalResult (Weight : Type) where
  nodeId : String
  content : Str
  nodeType : Option Str
  domain : Value
  score : Weight
  path : List String

structure Connection (Vector : Type) where
  clock : Nat := 0
  closed : Bool := false
  neighborCache : List (String × List String) := []
  vecCache : List (String × Option Vector) := []

section

variable {Vector Weight : Type} (upstream : Upstream Vector Weight) (call : Call)

/-- A statement on a connection of its own. -/
def query : Block (Connection Vector) Failure (Snapshot Vector) := fun conn =>
  match upstream.world conn.clock with
  | some snapshot => (.ok snapshot, { conn with clock := conn.clock + 1 })
  | none => (.error .statement, { conn with clock := conn.clock + 1 })

/-- A statement on the connection of the walk. -/
def execute : Block (Connection Vector) Failure (Snapshot Vector) := fun conn =>
  if conn.closed then (.error .closedDatabase, conn) else query upstream conn

def close : Block (Connection Vector) Failure Unit := fun conn =>
  (.ok (), { conn with closed := true })

def ofExcept {Value : Type} (outcome : Except Failure Value) :
    Block (Connection Vector) Failure Value :=
  fun conn => (outcome, conn)

def orRaise {Value : Type} (failure : Failure) : Option Value → Except Failure Value
  | some value => .ok value
  | none => .error failure

def readNeighbors (nodeId : String) : Block (Connection Vector) Failure (List String) :=
  fun conn => (do
    let snapshot ← execute upstream
    pure ((upstream.arrange conn.clock).order (snapshot.neighbors nodeId))) conn

def keepNeighbors (nodeId : String) (nbrs : List String) :
    Block (Connection Vector) Failure (List String) :=
  fun conn => (.ok nbrs, { conn with neighborCache := (nodeId, nbrs) :: conn.neighborCache })

/-- `get_neighbors`. -/
def getNeighbors (nodeId : String) : Block (Connection Vector) Failure (List String) :=
  fun conn =>
    match conn.neighborCache.lookup nodeId with
    | some nbrs => (.ok nbrs, conn)
    | none => (readNeighbors upstream nodeId >>= keepNeighbors nodeId) conn

def readVector (nodeId : String) : Block (Connection Vector) Failure (Option Vector) := do
  let snapshot ← execute upstream
  pure (snapshot.vector nodeId)

def keepVector (nodeId : String) (vec : Option Vector) :
    Block (Connection Vector) Failure (Option Vector) :=
  fun conn => (.ok vec, { conn with vecCache := (nodeId, vec) :: conn.vecCache })

def getVector (nodeId : String) : Block (Connection Vector) Failure (Option Vector) :=
  fun conn =>
    match conn.vecCache.lookup nodeId with
    | some vec => (.ok vec, conn)
    | none => (readVector upstream nodeId >>= keepVector nodeId) conn

section

variable [Zero Weight] (cosine : Vector → Cosine Weight) (seeds : List (String × Weight))

/-- `seed_scores.get(node_id, 0.0)`, where the last one of an id counts. -/
def seedScore (nodeId : String) : Weight :=
  (seeds.reverse.lookup nodeId).getD 0

def scoreOf (nodeId : String) : Option Vector → Except Failure Weight
  | none => .ok (seedScore seeds nodeId)
  | some vec =>
      match cosine vec with
      | .noNorm => .ok (seedScore seeds nodeId)
      | .is value => .ok value
      | .raises => .error .vector

/-- `cosine_sim`. -/
def cosineSim (nodeId : String) : Block (Connection Vector) Failure Weight := do
  let vec ← getVector upstream nodeId
  ofExcept (scoreOf cosine seeds nodeId vec)

def scoreAll : List String → Block (Connection Vector) Failure (List (String × Weight))
  | [] => pure []
  | nodeId :: rest => do
      let score ← cosineSim upstream cosine seeds nodeId
      let scored ← scoreAll rest
      pure ((nodeId, score) :: scored)

variable [LinearOrder Weight]

def visit (candidates : List String) (nodeId : String) :
    Block (Connection Vector) Failure (List (String × Weight)) := do
  let nbrs ← getNeighbors upstream nodeId
  if nbrs = [] then pure []
  else do
    let scored ← scoreAll upstream cosine seeds (nbrs.filter (· ∉ candidates))
    pure (upTo call.picksPerHop (descending scored))

def exploreFrontier (candidates : List String) :
    List String → Block (Connection Vector) Failure (List String)
  | [] => pure []
  | nodeId :: rest => do
      let taken ← visit upstream call cosine seeds candidates nodeId
      let next ← exploreFrontier (candidates ++ taken.map Prod.fst) rest
      pure (taken.map Prod.fst ++ next)

def explore : Nat → List String → List String → Block (Connection Vector) Failure (List String)
  | 0, candidates, _ => pure candidates
  | depth + 1, candidates, frontier => do
      let next ← exploreFrontier upstream call cosine seeds candidates frontier
      if next = [] then pure candidates
      else explore depth (candidates ++ next) next

/-- The final ranking, in whatever order the set of candidates comes. -/
def rank (candidates : List String) :
    Block (Connection Vector) Failure (List (String × Weight)) := fun conn =>
  (do
    let scored ← scoreAll upstream cosine seeds ((upstream.arrange conn.clock).order candidates)
    pure (descending scored)) conn

def rankCandidates : Block (Connection Vector) Failure (List (String × Weight)) := do
  let ids := seeds.map Prod.fst
  let candidates ← explore upstream call cosine seeds call.maxDepth.toNat ids.dedup ids
  let _ ← scoreAll upstream cosine seeds ids
  close
  rank upstream cosine seeds candidates

end

/-! ## The details -/

/-- The `WHERE` of `_load_node_details` past its ids. Without a column for domains the tags
that are asked for are not looked at. -/
def selects (node : Node) : Bool :=
  Clause.notDecayed.holds node [] &&
    (!upstream.columns.domain ||
      (given call.domain).all fun domain => Clause.domainIs.holds node [domain]) &&
    (!(upstream.columns.domain && upstream.columns.tags) || call.tags.isEmpty ||
      call.tags.any fun tag => Clause.tagsLike.holds node [surround wildcards tag]) &&
    (!upstream.columns.tags ||
      call.excludeTags.all fun tag => Clause.tagsNotLike.holds node [surround wildcards tag])

def finalDomain (node : Node) : Except Failure Value :=
  match given (some (node.domain.getD (str "unknown"))) with
  | some domain =>
      if upstream.columns.domain then .ok (.str domain)
      else orRaise .metadata (upstream.metadataDomain node.id)
  | none => orRaise .metadata (upstream.metadataDomain node.id)

def isText (text : Str) : Value → Bool
  | .str value => value = text
  | _ => false

/-- Whether an old database has a row of another domain. -/
def elsewhere (domain : Value) : Bool :=
  (given call.domain).any fun asked => !upstream.columns.domain && !isText asked domain

def detailsOf (node : Node) : Except Failure (Option (String × Details)) := do
  let domain ← finalDomain upstream node
  pure (if elsewhere upstream call domain then none
    else some (node.id, ⟨node.content, node.nodeType, domain⟩))

def loadRows (nodeIds : List String) :
    Block (Connection Vector) Failure (List (String × Details)) :=
  fun conn => (do
    let _ ← query upstream
    let snapshot ← query upstream
    let rows := snapshot.graph.rows.filter fun node : Node =>
      node.id ∈ nodeIds && selects upstream call node
    let loaded ← ofExcept
      (((upstream.arrange conn.clock).order rows).mapM (detailsOf upstream call))
    pure loaded.reduceOption) conn

/-- `_load_node_details`. -/
def loadNodeDetails (nodeIds : List String) :
    Block (Connection Vector) Failure (List (String × Details)) :=
  if nodeIds = [] then pure [] else loadRows upstream call nodeIds

/-- The candidates that passed, until there are enough: one is appended before they are
counted. -/
def buildResults (topK : Int) (details : List (String × Details)) :
    List (String × Weight) → List (RetrievalResult Weight) → List (RetrievalResult Weight)
  | [], results => results
  | (nodeId, score) :: rest, results =>
      match details.lookup nodeId with
      | none => buildResults topK details rest results
      | some found =>
          let results := results ++
            [⟨nodeId, found.content, found.nodeType, found.domain, score, [nodeId]⟩]
          if topK ≤ results.length then results else buildResults topK details rest results

variable [Zero Weight] [LinearOrder Weight]

def walkAndLoad (cosine : Vector → Cosine Weight) (seeds : List (String × Weight)) :
    Block (Connection Vector) Failure (List (RetrievalResult Weight)) := do
  let final ← rankCandidates upstream call cosine seeds
  let kept := upTo (call.topK * 3) final
  let details ← loadNodeDetails upstream call (kept.map Prod.fst)
  pure (buildResults call.topK details kept [])

/-- `retrieve_recursive_bfs`. -/
def retrieveRecursiveBfs : Block (Connection Vector) Failure (List (RetrievalResult Weight)) :=
  if PreCompress.strip call.query = [] then pure []
  else do
    let seeds ← ofExcept (orRaise .search (upstream.search call.query call.nSeeds))
    if seeds = [] then pure []
    else do
      match ← ofExcept (orRaise .embedding (upstream.embed call.query)) with
      | none => pure []
      | some cosine => walkAndLoad upstream call cosine seeds

end

/-! ## What a connection has read -/

section

variable {Vector Weight : Type} {upstream : Upstream Vector Weight}

def Connection.neighbors (conn : Connection Vector) (nodeId : String) : List String :=
  (conn.neighborCache.lookup nodeId).getD []

def Connection.asked (conn : Connection Vector) (nodeId : String) : Prop :=
  (conn.neighborCache.lookup nodeId).isSome

def Connection.knows (conn : Connection Vector) (nodeId : String) : Prop :=
  (conn.vecCache.lookup nodeId).isSome

/-- The score that the connection goes by. -/
def Connection.score [Zero Weight] (conn : Connection Vector) (cosine : Vector → Cosine Weight)
    (seeds : List (String × Weight)) (nodeId : String) : Weight :=
  match conn.vecCache.lookup nodeId with
  | some vec =>
      match scoreOf cosine seeds nodeId vec with
      | .ok score => score
      | .error _ => 0
  | none => 0

def Between (upstream : Upstream Vector Weight) (first second : Connection Vector)
    (snapshot : Snapshot Vector) : Prop :=
  ∃ clock, first.clock ≤ clock ∧ clock < second.clock ∧ upstream.world clock = some snapshot

structure Later (upstream : Upstream Vector Weight) (first second : Connection Vector) :
    Prop where
  clock : first.clock ≤ second.clock
  neighborsKept : ∀ nodeId nbrs, first.neighborCache.lookup nodeId = some nbrs →
    second.neighborCache.lookup nodeId = some nbrs
  vectorsKept : ∀ nodeId vec, first.vecCache.lookup nodeId = some vec →
    second.vecCache.lookup nodeId = some vec
  neighborsRead : ∀ nodeId nbrs, second.neighborCache.lookup nodeId = some nbrs →
    first.neighborCache.lookup nodeId = some nbrs ∨
      ∃ snapshot, Between upstream first second snapshot ∧
        nbrs.Perm (snapshot.neighbors nodeId)
  vectorsRead : ∀ nodeId vec, second.vecCache.lookup nodeId = some vec →
    first.vecCache.lookup nodeId = some vec ∨
      ∃ snapshot, Between upstream first second snapshot ∧ vec = snapshot.vector nodeId

variable {first second third : Connection Vector}

theorem Between.widen {snapshot : Snapshot Vector} {outer last : Connection Vector}
    (between : Between upstream first second snapshot) (before : outer.clock ≤ first.clock)
    (after : second.clock ≤ last.clock) : Between upstream outer last snapshot := by
  obtain ⟨clock, from_first, to_second, committed⟩ := between
  exact ⟨clock, before.trans from_first, lt_of_lt_of_le to_second after, committed⟩

theorem Later.refl (conn : Connection Vector) : Later upstream conn conn :=
  ⟨le_refl _, fun _ _ found => found, fun _ _ found => found, fun _ _ found => .inl found,
    fun _ _ found => .inl found⟩

theorem Later.trans (one : Later upstream first second) (two : Later upstream second third) :
    Later upstream first third where
  clock := one.clock.trans two.clock
  neighborsKept := fun nodeId nbrs found => two.neighborsKept _ _ (one.neighborsKept _ _ found)
  vectorsKept := fun nodeId vec found => two.vectorsKept _ _ (one.vectorsKept _ _ found)
  neighborsRead := by
    intro nodeId nbrs found
    rcases two.neighborsRead _ _ found with before | ⟨snapshot, between, same⟩
    · rcases one.neighborsRead _ _ before with old | ⟨snapshot, between, same⟩
      · exact .inl old
      · exact .inr ⟨snapshot, between.widen (le_refl _) two.clock, same⟩
    · exact .inr ⟨snapshot, between.widen one.clock (le_refl _), same⟩
  vectorsRead := by
    intro nodeId vec found
    rcases two.vectorsRead _ _ found with before | ⟨snapshot, between, same⟩
    · rcases one.vectorsRead _ _ before with old | ⟨snapshot, between, same⟩
      · exact .inl old
      · exact .inr ⟨snapshot, between.widen (le_refl _) two.clock, same⟩
    · exact .inr ⟨snapshot, between.widen one.clock (le_refl _), same⟩

theorem Later.knows (later : Later upstream first second) {nodeId : String}
    (known : first.knows nodeId) : second.knows nodeId := by
  obtain ⟨vec, found⟩ := Option.isSome_iff_exists.mp known
  exact Option.isSome_iff_exists.mpr ⟨vec, later.vectorsKept _ _ found⟩

theorem Later.asked (later : Later upstream first second) {nodeId : String}
    (asked : first.asked nodeId) : second.asked nodeId := by
  obtain ⟨nbrs, found⟩ := Option.isSome_iff_exists.mp asked
  exact Option.isSome_iff_exists.mpr ⟨nbrs, later.neighborsKept _ _ found⟩

/-- Run on an open connection, the block leaves it open and ends with a value for which
`done` holds of whatever the connection goes on to read; what it raises is not about a
closed database. -/
def Reads {Value : Type} (upstream : Upstream Vector Weight)
    (block : Block (Connection Vector) Failure Value)
    (done : Value → Connection Vector → Prop) : Prop :=
  ∀ start : Connection Vector, start.closed = false →
    Block.Ends (· = start) block
      (fun value after => after.closed = false ∧ Later upstream start after ∧
        ∀ final, Later upstream after final → done value final)
      (fun error _ => error ≠ .closedDatabase)

section

variable {Value Result : Type}

theorem Reads.bind {block : Block (Connection Vector) Failure Value}
    {next : Value → Block (Connection Vector) Failure Result}
    {middle : Value → Connection Vector → Prop} (one : Reads upstream block middle)
    (done : Value → Result → Connection Vector → Prop)
    (two : ∀ value, Reads upstream (next value) (done value)) :
    Reads upstream (block >>= next) fun result final =>
      ∃ value, middle value final ∧ done value result final := by
  intro start is_open
  refine (one start is_open).bind fun value => ?_
  rintro state ⟨still_open, later, holds⟩
  refine (two value state still_open).weaken ?_ state rfl
  rintro result after ⟨remains_open, goes_on, done_⟩
  refine ⟨remains_open, later.trans goes_on, fun final last => ?_⟩
  exact ⟨value, holds final (goes_on.trans last), done_ final last⟩

theorem Reads.weaken {block : Block (Connection Vector) Failure Value}
    {done other : Value → Connection Vector → Prop} (one : Reads upstream block done)
    (implied : ∀ value final, done value final → other value final) :
    Reads upstream block other := by
  intro start is_open
  refine (one start is_open).weaken ?_
  rintro value after ⟨still_open, later, holds⟩
  exact ⟨still_open, later, fun final last => implied value final (holds final last)⟩

theorem Reads.value {value : Value} {done : Value → Connection Vector → Prop}
    (holds : ∀ final, done value final) :
    Reads upstream (pure value : Block (Connection Vector) Failure Value) done := by
  intro start is_open
  refine Block.Ends.value ?_
  rintro state rfl
  exact ⟨is_open, .refl _, fun final _ => holds final⟩

theorem Reads.of_except {outcome : Except Failure Value}
    {done : Value → Connection Vector → Prop}
    (holds : ∀ value final, outcome = .ok value → done value final)
    (other : outcome ≠ .error .closedDatabase) :
    Reads upstream (BfsRetrieval.ofExcept outcome) done := by
  rintro start is_open state rfl
  cases outcome with
  | ok value => exact ⟨is_open, .refl _, fun final _ => holds value final rfl⟩
  | error error => exact fun same => other (congrArg Except.error same)

end

/-! ## The reads of a walk -/

section

variable {Value : Type} {cache : List (String × Value)} {key other : String} {added value : Value}

theorem lookup_kept (missed : cache.lookup key = none) (known : cache.lookup other = some value) :
    List.lookup other ((key, added) :: cache) = some value := by
  have differs : (other == key) = false := by
    refine beq_eq_false_iff_ne.mpr ?_
    rintro rfl
    rw [missed] at known
    cases known
  simpa only [List.lookup, differs] using known

theorem lookup_inv (known : List.lookup other ((key, added) :: cache) = some value) :
    other = key ∧ value = added ∨ cache.lookup other = some value := by
  by_cases same_key : other = key
  · subst same_key
    simp only [List.lookup, beq_self_eq_true, Option.some.injEq] at known
    exact .inl ⟨rfl, known.symm⟩
  · have differs : (other == key) = false := beq_eq_false_iff_ne.mpr same_key
    simp only [List.lookup, differs] at known
    exact .inr known

end

theorem Later.keep_neighbors {conn : Connection Vector} {snapshot : Snapshot Vector}
    {nodeId : String} {nbrs : List String} (missed : conn.neighborCache.lookup nodeId = none)
    (committed : upstream.world conn.clock = some snapshot)
    (same : nbrs.Perm (snapshot.neighbors nodeId)) :
    Later upstream conn { conn with
      clock := conn.clock + 1
      neighborCache := (nodeId, nbrs) :: conn.neighborCache } where
  clock := Nat.le_succ _
  neighborsKept := fun _ _ known => lookup_kept missed known
  vectorsKept := fun _ _ known => known
  neighborsRead := by
    intro other found known
    rcases lookup_inv known with ⟨rfl, rfl⟩ | old
    · exact .inr ⟨snapshot, ⟨conn.clock, le_refl _, Nat.lt_succ_self _, committed⟩, same⟩
    · exact .inl old
  vectorsRead := fun _ _ known => .inl known

theorem Later.keep_vector {conn : Connection Vector} {snapshot : Snapshot Vector}
    {nodeId : String} (missed : conn.vecCache.lookup nodeId = none)
    (committed : upstream.world conn.clock = some snapshot) :
    Later upstream conn { conn with
      clock := conn.clock + 1
      vecCache := (nodeId, snapshot.vector nodeId) :: conn.vecCache } where
  clock := Nat.le_succ _
  neighborsKept := fun _ _ known => known
  vectorsKept := fun _ _ known => lookup_kept missed known
  neighborsRead := fun _ _ known => .inl known
  vectorsRead := by
    intro other found known
    rcases lookup_inv known with ⟨rfl, rfl⟩ | old
    · exact .inr ⟨snapshot, ⟨conn.clock, le_refl _, Nat.lt_succ_self _, committed⟩, rfl⟩
    · exact .inl old

theorem execute_open {conn : Connection Vector} (is_open : conn.closed = false) :
    execute upstream conn = query upstream conn := by
  simp [execute, is_open]

theorem get_neighbors_reads (nodeId : String) :
    Reads upstream (getNeighbors upstream nodeId) fun nbrs final =>
      final.asked nodeId ∧ nbrs = final.neighbors nodeId := by
  rintro start is_open state rfl
  have of_lookup : ∀ (nbrs : List String) (final : Connection Vector),
      final.neighborCache.lookup nodeId = some nbrs →
      final.asked nodeId ∧ nbrs = final.neighbors nodeId := by
    intro nbrs final found
    simp [Connection.asked, Connection.neighbors, found]
  rw [getNeighbors]
  cases cached : state.neighborCache.lookup nodeId with
  | some nbrs =>
      exact ⟨is_open, .refl _, fun final last => of_lookup _ _ (last.neighborsKept _ _ cached)⟩
  | none =>
      dsimp only
      rw [Block.bind_apply, readNeighbors, Block.bind_apply, execute_open is_open, query]
      cases committed : upstream.world state.clock with
      | none =>
          intro same
          cases same
      | some snapshot =>
          refine ⟨is_open, .keep_neighbors cached committed ((upstream.arrange _).perm _),
            fun final last => of_lookup _ _ (last.neighborsKept _ _ ?_)⟩
          simp [List.lookup]

theorem get_vector_reads (nodeId : String) :
    Reads upstream (getVector upstream nodeId) fun vec final =>
      final.vecCache.lookup nodeId = some vec := by
  rintro start is_open state rfl
  rw [getVector]
  cases cached : state.vecCache.lookup nodeId with
  | some vec => exact ⟨is_open, .refl _, fun final last => last.vectorsKept _ _ cached⟩
  | none =>
      dsimp only
      rw [Block.bind_apply, readVector, Block.bind_apply, execute_open is_open, query]
      cases committed : upstream.world state.clock with
      | none =>
          intro same
          cases same
      | some snapshot =>
          refine ⟨is_open, .keep_vector cached committed,
            fun final last => last.vectorsKept _ _ ?_⟩
          simp [List.lookup]

section

variable [Zero Weight] {cosine : Vector → Cosine Weight} {seeds : List (String × Weight)}

theorem score_of_error {nodeId : String} {vec : Option Vector} :
    scoreOf cosine seeds nodeId vec ≠ .error .closedDatabase := by
  unfold scoreOf
  split
  · intro same; cases same
  · split <;> intro same <;> cases same

theorem cosine_sim_reads (nodeId : String) :
    Reads upstream (cosineSim upstream cosine seeds nodeId) fun score final =>
      final.knows nodeId ∧ score = final.score cosine seeds nodeId := by
  refine ((get_vector_reads nodeId).bind (fun vec score _ =>
    scoreOf cosine seeds nodeId vec = .ok score) fun vec => ?_).weaken ?_
  · exact .of_except (fun score final read => read) score_of_error
  · rintro score final ⟨vec, found, read⟩
    simp [Connection.knows, Connection.score, found, read]

theorem score_all_reads (nodeIds : List String) :
    Reads upstream (scoreAll upstream cosine seeds nodeIds) fun scored final =>
      (∀ nodeId ∈ nodeIds, final.knows nodeId) ∧
        scored = nodeIds.map fun nodeId => (nodeId, final.score cosine seeds nodeId) := by
  induction nodeIds with
  | nil => exact .value fun _ => ⟨fun _ among => absurd among List.not_mem_nil, rfl⟩
  | cons nodeId rest ih =>
      refine ((cosine_sim_reads nodeId).bind _ fun score => ih.bind (fun others scored _ =>
        scored = (nodeId, score) :: others) fun others => .value fun _ => rfl).weaken ?_
      rintro scored final ⟨score, ⟨known, rfl⟩, others, ⟨all_known, rfl⟩, rfl⟩
      refine ⟨fun other among => ?_, rfl⟩
      rcases List.mem_cons.mp among with rfl | later
      · exact known
      · exact all_known other later

variable [LinearOrder Weight] {call : Call}

theorem visit_reads (candidates : List String) (nodeId : String) :
    Reads upstream (visit upstream call cosine seeds candidates nodeId) fun taken final =>
      final.asked nodeId ∧ (∀ item ∈ taken, final.knows item.1) ∧
        taken = picked final.neighbors (final.score cosine seeds) call.picksPerHop candidates
          nodeId := by
  refine ((get_neighbors_reads nodeId).bind (fun nbrs taken final =>
    (∀ item ∈ taken, final.knows item.1) ∧
      taken = upTo call.picksPerHop (descending ((nbrs.filter (· ∉ candidates)).map fun other =>
        (other, final.score cosine seeds other)))) fun nbrs => ?_).weaken ?_
  · split
    · rename_i none_near
      refine .value fun final => ?_
      subst none_near
      simp [upTo, descending]
    · refine ((score_all_reads _).bind (fun scored taken _ =>
        taken = upTo call.picksPerHop (descending scored)) fun scored => .value fun _ => rfl).weaken
          ?_
      rintro taken final ⟨scored, ⟨known, rfl⟩, rfl⟩
      refine ⟨fun item among => ?_, rfl⟩
      obtain ⟨other, near, rfl⟩ :=
        List.mem_map.mp (mem_descending.mp ((up_to_sublist _ _).subset among))
      exact known other near
  · rintro taken final ⟨nbrs, ⟨asked, rfl⟩, known, same⟩
    exact ⟨asked, known, same⟩

theorem explore_frontier_reads (candidates frontier : List String) :
    Reads upstream (exploreFrontier upstream call cosine seeds candidates frontier)
      fun next final => (∀ nodeId ∈ frontier, final.asked nodeId) ∧
        (∀ nodeId ∈ next, final.knows nodeId) ∧
        next = hop final.neighbors (final.score cosine seeds) call.picksPerHop candidates
          frontier := by
  induction frontier generalizing candidates with
  | nil =>
      exact .value fun _ => ⟨fun _ among => absurd among List.not_mem_nil,
        fun _ among => absurd among List.not_mem_nil, rfl⟩
  | cons nodeId rest ih =>
      refine ((visit_reads candidates nodeId).bind _ fun taken =>
        (ih (candidates ++ taken.map Prod.fst)).bind (fun later next _ =>
          next = taken.map Prod.fst ++ later) fun later => .value fun _ => rfl).weaken ?_
      rintro next final ⟨taken, ⟨asked, known, rfl⟩, later, ⟨all_asked, all_known, rfl⟩, rfl⟩
      refine ⟨fun other among => ?_, fun other among => ?_, rfl⟩
      · rcases List.mem_cons.mp among with rfl | behind
        · exact asked
        · exact all_asked other behind
      · rcases List.mem_append.mp among with first | behind
        · obtain ⟨item, is_taken, rfl⟩ := List.mem_map.mp first
          exact known item is_taken
        · exact all_known other behind

/-- The candidates are those of the plain search over what the connection goes by, which has
read the neighbours of all that it reached before the last depth. -/
theorem explore_reads (depth : Nat) (candidates frontier : List String) :
    Reads upstream (explore upstream call cosine seeds depth candidates frontier)
      fun reached final =>
        reached = walk final.neighbors (final.score cosine seeds) call.picksPerHop depth
          candidates frontier ∧
        (∀ nodeId ∈ reached, nodeId ∈ candidates ∨ final.knows nodeId) ∧
        ∀ hops < depth, ∀ nodeId ∈ walk final.neighbors (final.score cosine seeds)
          call.picksPerHop hops candidates frontier,
          (nodeId ∈ candidates → nodeId ∈ frontier) → final.asked nodeId := by
  induction depth generalizing candidates frontier with
  | zero =>
      exact .value fun _ => ⟨rfl, fun _ among => .inl among,
        fun _ few => absurd few (Nat.not_lt_zero _)⟩
  | succ depth ih =>
      refine ((explore_frontier_reads candidates frontier).bind (fun next reached final =>
        if next = [] then reached = candidates else
          reached = walk final.neighbors (final.score cosine seeds) call.picksPerHop depth
            (candidates ++ next) next ∧
          (∀ nodeId ∈ reached, nodeId ∈ candidates ++ next ∨ final.knows nodeId) ∧
          ∀ hops < depth, ∀ nodeId ∈ walk final.neighbors (final.score cosine seeds)
            call.picksPerHop hops (candidates ++ next) next,
            (nodeId ∈ candidates ++ next → nodeId ∈ next) → final.asked nodeId)
        fun next => ?_).weaken ?_
      · split
        · exact .value fun _ => rfl
        · exact ih _ _
      · rintro reached final ⟨next, ⟨all_asked, all_known, rfl⟩, went⟩
        by_cases ended : hop final.neighbors (final.score cosine seeds) call.picksPerHop
            candidates frontier = []
        · rw [if_pos ended] at went
          subst went
          refine ⟨by rw [walk, if_pos ended], fun _ among => .inl among, ?_⟩
          intro hops _ nodeId among started
          cases hops with
          | zero => exact all_asked nodeId (started among)
          | succ hops =>
              rw [walk, if_pos ended] at among
              exact all_asked nodeId (started among)
        · rw [if_neg ended] at went
          obtain ⟨rfl, known, asked⟩ := went
          refine ⟨by rw [walk, if_neg ended], fun nodeId among => ?_, ?_⟩
          · rcases known nodeId among with old | is_known
            · rcases List.mem_append.mp old with first | taken
              · exact .inl first
              · exact .inr (all_known nodeId taken)
            · exact .inr is_known
          · intro hops few nodeId among started
            by_cases on_front : nodeId ∈ frontier
            · exact all_asked nodeId on_front
            · have fresh : nodeId ∉ candidates := fun old => on_front (started old)
              cases hops with
              | zero => exact absurd among fresh
              | succ hops =>
                  rw [walk, if_neg ended] at among
                  exact asked hops (by omega) nodeId among fun taken =>
                    (List.mem_append.mp taken).resolve_left fresh

/-! ## The ranking on the closed connection -/

omit [Zero Weight] [LinearOrder Weight] in
theorem Later.close (conn : Connection Vector) :
    Later upstream conn { conn with closed := true } :=
  ⟨le_refl _, fun _ _ found => found, fun _ _ found => found, fun _ _ found => .inl found,
    fun _ _ found => .inl found⟩

def Connection.scores (conn : Connection Vector) (cosine : Vector → Cosine Weight)
    (seeds : List (String × Weight)) (item : String × Weight) : Prop :=
  ∃ vec, conn.vecCache.lookup item.1 = some vec ∧
    scoreOf cosine seeds item.1 vec = .ok item.2

omit [LinearOrder Weight] in
/-- What is known is scored without a statement. -/
theorem score_all_known {conn : Connection Vector} {nodeIds : List String}
    (known : ∀ nodeId ∈ nodeIds, conn.knows nodeId) :
    Block.Ends (· = conn) (scoreAll upstream cosine seeds nodeIds)
      (fun scored after => after = conn ∧ scored.map Prod.fst = nodeIds ∧
        ∀ item ∈ scored, conn.scores cosine seeds item)
      (fun error _ => error ≠ .closedDatabase) := by
  induction nodeIds with
  | nil =>
      exact Block.Ends.value fun _ same =>
        ⟨same, rfl, fun _ among => absurd among List.not_mem_nil⟩
  | cons nodeId rest ih =>
      have one : Block.Ends (· = conn) (cosineSim upstream cosine seeds nodeId)
          (fun score after => after = conn ∧ conn.scores cosine seeds (nodeId, score))
          (fun error _ => error ≠ .closedDatabase) := by
        rintro state rfl
        obtain ⟨vec, found⟩ := Option.isSome_iff_exists.mp (known nodeId List.mem_cons_self)
        have score_known : (cosineSim upstream cosine seeds nodeId) state =
            (scoreOf cosine seeds nodeId vec, state) := by
          simp only [cosineSim, Block.bind_apply, getVector, found, ofExcept]
        rw [score_known]
        cases scored : scoreOf cosine seeds nodeId vec with
        | ok score => exact ⟨rfl, vec, found, scored⟩
        | error error => exact fun same => score_of_error (same ▸ scored)
      refine one.bind fun score => ?_
      rintro state ⟨rfl, first⟩
      refine ((ih fun other among => known other (List.mem_cons_of_mem _ among)).bind
        fun others => ?_) state rfl
      refine Block.Ends.value ?_
      rintro after ⟨same, rfl, later⟩
      refine ⟨same, rfl, fun item among => ?_⟩
      rcases List.mem_cons.mp among with rfl | behind
      · exact first
      · exact later item behind

structure Ranking (conn : Connection Vector) (cosine : Vector → Cosine Weight)
    (seeds : List (String × Weight)) (call : Call) (ranked : List (String × Weight)) : Prop where
  candidates : (ranked.map Prod.fst).Perm
    (walk conn.neighbors (conn.score cosine seeds) call.picksPerHop call.maxDepth.toNat
      (seeds.map Prod.fst).dedup (seeds.map Prod.fst))
  sorted : ranked.Pairwise fun first second => second.2 ≤ first.2
  scored : ∀ item ∈ ranked, conn.scores cosine seeds item
  asked : ∀ hops < call.maxDepth.toNat, ∀ nodeId ∈ walk conn.neighbors
    (conn.score cosine seeds) call.picksPerHop hops (seeds.map Prod.fst).dedup
      (seeds.map Prod.fst), conn.asked nodeId

/-- No more nodes are read and ranked than the picks of the hops allow. -/
theorem Ranking.length {conn : Connection Vector} {ranked : List (String × Weight)}
    (ranking : Ranking conn cosine seeds call ranked) (some_picks : 0 ≤ call.picksPerHop) :
    ranked.length ≤ (seeds.map Prod.fst).dedup.length +
      seeds.length * reach call.picksPerHop call.maxDepth.toNat := by
  have same := ranking.candidates.length_eq
  rw [List.length_map] at same
  have most := @walk_length _ _ _ _ conn.neighbors (conn.score cosine seeds) call.picksPerHop
    (seeds.map Prod.fst).dedup (seeds.map Prod.fst) call.maxDepth.toNat some_picks
  rwa [List.length_map, ← same] at most

theorem rank_ends {conn : Connection Vector} {candidates : List String}
    (known : ∀ nodeId ∈ candidates, conn.knows nodeId) :
    Block.Ends (· = conn) (rank upstream cosine seeds candidates)
      (fun ranked after => after = conn ∧ (ranked.map Prod.fst).Perm candidates ∧
        ranked.Pairwise (fun first second => second.2 ≤ first.2) ∧
        ∀ item ∈ ranked, conn.scores cosine seeds item)
      (fun error _ => error ≠ .closedDatabase) := by
  rintro state rfl
  have order := (upstream.arrange state.clock).perm candidates
  refine ((score_all_known fun nodeId among => known nodeId (order.mem_iff.mp among)).bind
    fun scored => ?_) state rfl
  refine Block.Ends.value ?_
  rintro after ⟨rfl, ids, scores⟩
  refine ⟨rfl, ?_, descending_pairwise _, fun item among => scores item (mem_descending.mp among)⟩
  exact ((descending_perm _).map Prod.fst).trans (ids ▸ order)

theorem rank_candidates_ends {start : Connection Vector} (is_open : start.closed = false) :
    Block.Ends (· = start) (rankCandidates upstream call cosine seeds)
      (fun ranked after => Later upstream start after ∧ after.closed = true ∧
        Ranking after cosine seeds call ranked)
      (fun error _ => error ≠ .closedDatabase) := by
  refine (explore_reads _ _ _ start is_open).bind fun reached => ?_
  rintro middle ⟨middle_open, one, walked⟩
  refine ((score_all_reads _ middle middle_open).bind fun _ => ?_) middle rfl
  rintro warmed ⟨-, two, warm⟩
  have closing : Later upstream warmed { warmed with closed := true } := .close warmed
  obtain ⟨same, walked_known, asked⟩ := walked _ (two.trans closing)
  have known : ∀ nodeId ∈ reached, ({ warmed with closed := true } : Connection Vector).knows
      nodeId := by
    intro nodeId among
    rcases walked_known nodeId among with seed | is_known
    · exact (warm _ closing).1 nodeId (List.mem_dedup.mp seed)
    · exact is_known
  refine (rank_ends known).weaken ?_ _ rfl
  rintro ranked after ⟨rfl, candidates, sorted, scored⟩
  exact ⟨one.trans (two.trans closing), rfl, same ▸ candidates, sorted, scored,
    fun hops few nodeId among => asked hops few nodeId among List.mem_dedup.mp⟩

end

end

/-! ## The rows that are loaded -/

section

variable {Vector Weight : Type} {upstream : Upstream Vector Weight} {call : Call}

/-- A row that passes, with what is reported of it. -/
def Passes (upstream : Upstream Vector Weight) (call : Call) (snapshot : Snapshot Vector)
    (nodeId : String) (found : Details) : Prop :=
  ∃ node ∈ snapshot.graph.rows, node.id = nodeId ∧ selects upstream call node = true ∧
    detailsOf upstream call node = .ok (some (nodeId, found))

theorem details_of_id {node : Node} {item : String × Details}
    (read : detailsOf upstream call node = .ok (some item)) : item.1 = node.id := by
  unfold detailsOf at read
  cases domain : finalDomain upstream node with
  | error error =>
      rw [domain] at read
      cases read
  | ok domain' =>
      rw [domain] at read
      change Except.ok _ = Except.ok _ at read
      have same := Except.ok.inj read
      split at same
      · cases same
      · exact (Option.some.inj same) ▸ rfl

theorem or_raise_error {Value : Type} {failure : Failure} {outcome : Option Value}
    (differs : failure ≠ .closedDatabase) : orRaise failure outcome ≠ .error .closedDatabase := by
  cases outcome with
  | none => exact fun same => differs (Except.error.inj same)
  | some value => exact fun same => nomatch same

theorem details_of_error {node : Node} :
    detailsOf upstream call node ≠ .error .closedDatabase := by
  unfold detailsOf
  cases domain : finalDomain upstream node with
  | ok value => exact fun same => nomatch same
  | error error =>
      intro same
      have metadata : orRaise .metadata (upstream.metadataDomain node.id) ≠
          .error .closedDatabase := or_raise_error (by decide)
      refine metadata ?_
      rw [Except.error.inj same] at domain
      unfold finalDomain at domain
      split at domain
      · split at domain
        · cases domain
        · exact domain
      · exact domain

theorem map_m_ends {Row Value : Type} {read : Row → Except Failure Value}
    (other : ∀ row, read row ≠ .error .closedDatabase) (rows : List Row) :
    match rows.mapM read with
    | .ok values => ∀ value, value ∈ values ↔ ∃ row ∈ rows, read row = .ok value
    | .error error => error ≠ .closedDatabase := by
  induction rows with
  | nil => exact fun value => ⟨fun none_ => absurd none_ List.not_mem_nil,
      fun ⟨_, none_, _⟩ => absurd none_ List.not_mem_nil⟩
  | cons row rest ih =>
      rw [List.mapM_cons]
      cases first : read row with
      | error error => exact fun same => other row (same ▸ first)
      | ok value =>
          cases others : rest.mapM read with
          | error error =>
              rw [others] at ih
              exact ih
          | ok later =>
              rw [others] at ih
              intro item
              rw [List.mem_cons, ih item]
              simp only [List.mem_cons, or_and_right, exists_or, exists_eq_left, first,
                Except.ok.injEq, eq_comm (a := item)]

theorem same_row {graph : Graph} {first second : Node} (one : first ∈ graph.rows)
    (two : second ∈ graph.rows) (same : first.id = second.id) : first = second :=
  List.inj_on_of_nodup_map graph.distinct one two same

/-- The details of the rows that pass, found by their ids. -/
theorem lookup_details {snapshot : Snapshot Vector} {nodeIds : List String} {rows : List Node}
    {loaded : List (Option (String × Details))}
    (all : ∀ node, node ∈ rows ↔ node ∈ snapshot.graph.rows ∧ node.id ∈ nodeIds ∧
      selects upstream call node = true)
    (read : ∀ item, item ∈ loaded ↔ ∃ node ∈ rows, detailsOf upstream call node = .ok item)
    (nodeId : String) (found : Details) :
    loaded.reduceOption.lookup nodeId = some found ↔
      nodeId ∈ nodeIds ∧ Passes upstream call snapshot nodeId found := by
  have among : ∀ item, item ∈ loaded.reduceOption ↔ item.1 ∈ nodeIds ∧
      Passes upstream call snapshot item.1 item.2 := by
    intro item
    rw [List.reduceOption_mem_iff, read]
    constructor
    · rintro ⟨node, is_row, made⟩
      obtain ⟨stored, asked, selected⟩ := (all node).mp is_row
      have same := details_of_id made
      exact ⟨same ▸ asked, node, stored, same.symm, selected, made⟩
    · rintro ⟨asked, node, stored, same, selected, made⟩
      exact ⟨node, (all node).mpr ⟨stored, same ▸ asked, selected⟩, made⟩
  have member : ∀ value, loaded.reduceOption.lookup nodeId = some value →
      (nodeId, value) ∈ loaded.reduceOption := by
    intro value known
    obtain ⟨before, after, whole, -⟩ := List.lookup_eq_some_iff.mp known
    rw [whole]
    exact List.mem_append_right _ List.mem_cons_self
  constructor
  · exact fun known => (among _).mp (member found known)
  · intro passes
    have present := (among (nodeId, found)).mpr passes
    obtain ⟨value, known⟩ := Option.isSome_iff_exists.mp
      (List.lookup_isSome_iff.mpr ⟨_, present, beq_self_eq_true nodeId⟩)
    obtain ⟨-, one, one_stored, one_id, -, one_read⟩ := (among _).mp (member value known)
    obtain ⟨-, two, two_stored, two_id, -, two_read⟩ := passes
    obtain rfl := same_row one_stored two_stored (one_id.trans two_id.symm)
    rw [one_read] at two_read
    have same := (Prod.mk.inj (Option.some.inj (Except.ok.inj two_read))).2
    exact known.trans (congrArg some same)

def Loads (upstream : Upstream Vector Weight) (call : Call) (conn : Connection Vector)
    (nodeIds : List String) (details : List (String × Details)) : Prop :=
  (nodeIds = [] ∧ details = []) ∨
    ∃ clock snapshot, conn.clock ≤ clock ∧ upstream.world clock = some snapshot ∧
      ∀ nodeId found, details.lookup nodeId = some found ↔
        nodeId ∈ nodeIds ∧ Passes upstream call snapshot nodeId found

theorem query_ends (conn : Connection Vector) :
    Block.Ends (· = conn) (query upstream)
      (fun snapshot after => upstream.world conn.clock = some snapshot ∧
        after = { conn with clock := conn.clock + 1 })
      (fun error _ => error ≠ .closedDatabase) := by
  rintro state rfl
  rw [query]
  cases committed : upstream.world state.clock with
  | none => exact fun same => nomatch same
  | some snapshot => exact ⟨rfl, rfl⟩

theorem load_node_details_ends (conn : Connection Vector) (nodeIds : List String) :
    Block.Ends (· = conn) (loadNodeDetails upstream call nodeIds)
      (fun details _ => Loads upstream call conn nodeIds details)
      (fun error _ => error ≠ .closedDatabase) := by
  by_cases none_asked : nodeIds = []
  · rw [loadNodeDetails, if_pos none_asked]
    exact Block.Ends.value fun _ _ => .inl ⟨none_asked, rfl⟩
  · rw [loadNodeDetails, if_neg none_asked]
    rintro state rfl
    rw [loadRows]
    refine ((query_ends state).bind fun _ => ?_) state rfl
    rintro _ ⟨-, rfl⟩
    refine ((query_ends _).bind fun snapshot => ?_) _ rfl
    rintro after ⟨committed, -⟩
    have arranged : ∀ node, node ∈ (upstream.arrange state.clock).order
        (snapshot.graph.rows.filter fun node : Node =>
          node.id ∈ nodeIds && selects upstream call node) ↔
        node ∈ snapshot.graph.rows ∧ node.id ∈ nodeIds ∧ selects upstream call node = true := by
      intro node
      rw [Scan.mem, List.mem_filter, Bool.and_eq_true, decide_eq_true_iff]
    have harmless : ∀ row, detailsOf upstream call row ≠ .error .closedDatabase :=
      fun _ => details_of_error
    have read := map_m_ends harmless ((upstream.arrange state.clock).order
        (snapshot.graph.rows.filter fun node : Node =>
          node.id ∈ nodeIds && selects upstream call node))
    rw [Block.bind_apply, ofExcept]
    split at read
    · rename_i loaded ran
      rw [ran]
      exact .inr ⟨_, snapshot, Nat.le_succ _, committed, lookup_details arranged read⟩
    · rename_i error ran
      rw [ran]
      exact read

/-! ## The answer -/

def resultOf (details : List (String × Details)) (item : String × Weight) :
    Option (RetrievalResult Weight) :=
  (details.lookup item.1).map fun found =>
    ⟨item.1, found.content, found.nodeType, found.domain, item.2, [item.1]⟩

/-- How many results there can be; one that was appended is kept. -/
def room (topK : Int) : Nat :=
  (max 1 topK).toNat

theorem build_results_eq {topK : Int} {details : List (String × Details)}
    {ranked : List (String × Weight)} {results : List (RetrievalResult Weight)}
    (fits : results.length < room topK) :
    buildResults topK details ranked results =
      (results ++ ranked.filterMap (resultOf details)).take (room topK) := by
  induction ranked generalizing results with
  | nil =>
      rw [buildResults, List.filterMap_nil, List.append_nil,
        List.take_of_length_le (Nat.le_of_lt fits)]
  | cons item rest ih =>
      obtain ⟨nodeId, score⟩ := item
      rw [buildResults]
      cases known : details.lookup nodeId with
      | none =>
          have skipped : resultOf details (nodeId, score) = none := by simp [resultOf, known]
          rw [List.filterMap_cons_none skipped]
          exact ih fits
      | some found =>
          have made : resultOf details (nodeId, score) = some
              ⟨nodeId, found.content, found.nodeType, found.domain, score, [nodeId]⟩ := by
            simp [resultOf, known]
          rw [List.filterMap_cons_some made, List.append_cons]
          dsimp only
          split
          · rename_i enough
            have full : (results ++ [(⟨nodeId, found.content, found.nodeType, found.domain, score,
                [nodeId]⟩ : RetrievalResult Weight)]).length = room topK := by
              simp only [room, List.length_append, List.length_singleton] at fits enough ⊢
              omega
            exact (List.take_left' full).symm
          · rename_i more
            refine ih ?_
            simp only [room, List.length_append, List.length_singleton] at fits more ⊢
            omega

variable [Zero Weight] [LinearOrder Weight]

/-- What a retrieval that found seeds goes by: what the walk read, the ranking of what it
reached, and the rows that were loaded after it. -/
structure Answer (upstream : Upstream Vector Weight) (call : Call) (now : Nat) where
  seeds : List (String × Weight)
  searched : upstream.search call.query call.nSeeds = some seeds
  cosine : Vector → Cosine Weight
  embedded : upstream.embed call.query = some (some cosine)
  walked : Connection Vector
  read : Later upstream { clock := now } walked
  ranked : List (String × Weight)
  ranking : Ranking walked cosine seeds call ranked
  details : List (String × Details)
  loaded : Loads upstream call walked ((upTo (call.topK * 3) ranked).map Prod.fst) details

def Answer.passing {now : Nat} (answer : Answer upstream call now) :
    List (RetrievalResult Weight) :=
  (upTo (call.topK * 3) answer.ranked).filterMap (resultOf answer.details)

def Answer.results {now : Nat} (answer : Answer upstream call now) :
    List (RetrievalResult Weight) :=
  answer.passing.take (room call.topK)

theorem walk_and_load_ends {now : Nat} {seeds : List (String × Weight)}
    {cosine : Vector → Cosine Weight}
    (searched : upstream.search call.query call.nSeeds = some seeds)
    (embedded : upstream.embed call.query = some (some cosine)) :
    Block.Ends (· = { clock := now }) (walkAndLoad upstream call cosine seeds)
      (fun results _ => ∃ answer : Answer upstream call now, results = answer.results)
      (fun error _ => error ≠ .closedDatabase) := by
  refine (rank_candidates_ends rfl).bind fun ranked => ?_
  rintro walked ⟨read, -, ranking⟩
  refine ((load_node_details_ends walked _).bind fun details => ?_) walked rfl
  refine Block.Ends.value fun _ loaded => ?_
  refine ⟨⟨seeds, searched, cosine, embedded, walked, read, ranked, ranking, details, loaded⟩, ?_⟩
  have start : ([] : List (RetrievalResult Weight)).length < room call.topK := by
    simp only [room, List.length_nil]
    omega
  rw [build_results_eq start, List.nil_append]
  rfl

def Unanswered (upstream : Upstream Vector Weight) (call : Call) : Prop :=
  PreCompress.strip call.query = [] ∨ upstream.search call.query call.nSeeds = some [] ∨
    upstream.embed call.query = some none

theorem retrieval_ends (upstream : Upstream Vector Weight) (call : Call) (now : Nat) :
    Block.Ends (· = { clock := now }) (retrieveRecursiveBfs upstream call)
      (fun results _ => (Unanswered upstream call ∧ results = []) ∨
        ∃ answer : Answer upstream call now, results = answer.results)
      (fun error _ => error ≠ .closedDatabase) := by
  rw [retrieveRecursiveBfs]
  split
  · rename_i blank
    exact Block.Ends.value fun _ _ => .inl ⟨.inl blank, rfl⟩
  · cases searched : upstream.search call.query call.nSeeds with
    | none => exact fun _ _ => Failure.noConfusion
    | some seeds =>
        change Block.Ends _ (if seeds = [] then pure [] else _) _ _
        split
        · rename_i none_found
          exact Block.Ends.value fun _ _ => .inl ⟨.inr (.inl (none_found ▸ searched)), rfl⟩
        · cases embedded : upstream.embed call.query with
          | none => exact fun _ _ => Failure.noConfusion
          | some normed =>
              cases normed with
              | none => exact Block.Ends.value fun _ _ => .inl ⟨.inr (.inr embedded), rfl⟩
              | some cosine =>
                  exact (walk_and_load_ends searched embedded).weaken fun _ _ made => .inr made

theorem retrieval_ok {now : Nat} {results : List (RetrievalResult Weight)}
    (ran : (retrieveRecursiveBfs upstream call { clock := now }).1 = .ok results) :
    (Unanswered upstream call ∧ results = []) ∨
      ∃ answer : Answer upstream call now, results = answer.results := by
  have ended := retrieval_ends upstream call now { clock := now } rfl
  split at ended <;> rename_i outcome <;> rw [outcome] at ran <;> cases ran
  exact ended

/-- Among writers that change the database at every statement, a retrieval returns what the
plain search over its own readings ranks best, and never reads from the connection that it
closed. -/
theorem retrieval_of_its_readings (upstream : Upstream Vector Weight) (call : Call) (now : Nat) :
    match (retrieveRecursiveBfs upstream call { clock := now }).1 with
    | .ok results => (Unanswered upstream call ∧ results = []) ∨
        ∃ answer : Answer upstream call now, results = answer.results
    | .error failure => failure ≠ .closedDatabase := by
  have ended := retrieval_ends upstream call now { clock := now } rfl
  split at ended <;> rename_i outcome <;> rw [outcome] <;> exact ended

end

end HermesCashew.BfsRetrieval
