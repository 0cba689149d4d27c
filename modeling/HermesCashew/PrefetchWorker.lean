import HermesCashew.LifecycleLocation
import Mathlib.Data.List.Dedup
import Mathlib.Data.List.Infix
import Mathlib.Data.List.Sort
import Mathlib.Data.String.Basic

/-!
# The warm cache and its worker

`queue_prefetch` leaves a request in a slot, one daemon worker turns it into a
staged result, and the next `prefetch` consumes that result. All of it runs beside
the lifecycle of the provider. A step is one locked block, or one slow stage of the
worker between two locked blocks. The part of `prefetch` behind its locked block
reads local values only, so the warm path is one step.

The worker of a generation has its slot in `workers`; `waiters` is the queue of
`_prefetch_condition`. What a stage finds is up to the environment. The history
holds the nodes that were retrieved for a request, the requests that were queued
or superseded, and the results that were served.
-/

namespace HermesCashew.PrefetchWorker

open HermesCashew.Lifecycle
open HermesCashew.Transition

set_option autoImplicit false

/-- What `initialize` of a generation puts into the fields that a request reads. -/
structure Profile where
  sessionId : String
  configFingerprint : String
  recallK : Nat
  prefetchK : Nat
  /-- `_model_fn is not None and config.prefetch_cues > 0`. -/
  extractsCues : Bool
  dbPath : String
  embeddingGeneration : String
  deriving DecidableEq, Repr

/-- `str.lower` and `str.split`. -/
structure Text where
  lower : String → String
  split : String → List String

/-- `_PrefetchRequestIdentity`. -/
structure Identity where
  generation : Nat
  sessionId : String
  dbPath : String
  configFingerprint : String
  recallLimit : Nat
  domain : Option String
  tag : Option String
  excludeTags : List String
  embeddingEpoch : Option Int
  embeddingGeneration : Option String
  deriving DecidableEq, Repr

/-- `_PrefetchRequest`. -/
structure Request where
  identity : Identity
  query : String
  dbPath : String
  topK : Nat
  useLlm : Bool
  deriving DecidableEq, Repr

/-- `_PrefetchResult`, as an object: `serial` counts the results staged before it. -/
structure Result (Node : Type) where
  identity : Identity
  cues : List String
  nodes : List Node
  serial : Nat

inductive Point (Node : Type) where
  /-- Before the tests of the loop, also when `wait` has been notified. -/
  | looping
  | waiting
  | starting (request : Request)
  | extracting (request : Request)
  | filtered (request : Request) (cues : List String)
  | searching (request : Request) (cues remaining : List String) (nodes : List Node)
  | retrieving (request : Request) (cues : List String) (cue : String)
      (remaining : List String) (nodes : List Node)
  | gathered (request : Request) (cues : List String) (nodes : List Node)
  | staging (request : Request) (cues : List String) (nodes : List Node)
  | failing (request : Request)
  | finishing
  /-- Behind the `return`, before the `finally`. -/
  | leaving
  /-- Behind the `finally`, or not started. -/
  | finished

/-- The arguments of `prefetch`. -/
structure PrefetchCall where
  query : String
  domain : Option String
  tag : Option String
  excludeTags : Option (List String)
  sessionId : String
  deriving DecidableEq, Repr

structure World (Node : Type) where
  provider : State := fresh
  sessionId : String := ""
  runtimeEpoch : Option Int := none
  prefetchGeneration : Nat := 0
  prefetchPending : Option (Result Node) := none
  pendingRequest : Option Request := none
  activeIdentity : Option Identity := none
  latestIdentity : Option Identity := none
  warmCache : List (String × Result Node) := []
  workers : Generation → Point Node := fun _ => .finished
  waiters : List Generation := []
  retrieved : List (Request × Node) := []
  queued : List Identity := []
  superseded : List Identity := []
  staged : Nat := 0
  served : List Nat := []

def emptyWorld (Node : Type) : World Node := {}

section Model

variable {Node : Type} (profiles : Generation → Profile) (text : Text) (nodeId : Node → String)

/-! ## The condition -/

def World.setWorker (world : World Node) (generation : Generation) (point : Point Node) :
    World Node :=
  { world with workers := Function.update world.workers generation point }

/-- `_prefetch_condition.notify()`. -/
def World.notify (world : World Node) : World Node :=
  match world.waiters with
  | [] => world
  | generation :: rest => { world.setWorker generation .looping with waiters := rest }

/-- `_prefetch_condition.notify_all()`. -/
def World.notifyAll (world : World Node) : World Node :=
  { world with
    workers := fun generation =>
      if generation ∈ world.waiters then .looping else world.workers generation
    waiters := [] }

/-- What ends every request so far, in `queue_prefetch`, `on_session_switch` and
`shutdown`. -/
def World.supersede (world : World Node) : World Node :=
  { world with
    prefetchGeneration := world.prefetchGeneration + 1
    prefetchPending := none
    superseded := world.queued }

/-! ## Identities -/

/-- `value or None`. -/
def orNone (value : Option String) : Option String :=
  value.filter (· ≠ "")

/-- `tuple(sorted({value for value in exclude_tags or [] if value}))`. -/
def sortedTags (excludeTags : Option (List String)) : List String :=
  (((excludeTags.getD []).filter (· ≠ "")).dedup).insertionSort (· ≤ ·)

/-- `str(self._db_path)`. -/
def strDbPath (provider : State) : String :=
  (provider.dbPath.map fun generation => (profiles generation).dbPath).getD "None"

/-- `_prefetch_request_identity`, with the configuration of `config`. -/
def requestIdentity (world : World Node) (config : Generation) (sessionId : String)
    (generation : Nat) (domain tag : Option String) (excludeTags : Option (List String)) :
    Identity where
  generation := generation
  sessionId := sessionId
  dbPath := strDbPath profiles world.provider
  configFingerprint := (profiles config).configFingerprint
  recallLimit := (profiles config).recallK
  domain := orNone domain
  tag := orNone tag
  excludeTags := sortedTags excludeTags
  embeddingEpoch := world.runtimeEpoch
  embeddingGeneration :=
    world.provider.embeddingSupervisor.map fun generation =>
      (profiles generation).embeddingGeneration

def currentIdentity (world : World Node) (config : Generation) (identity : Identity) : Identity :=
  requestIdentity profiles world config identity.sessionId world.prefetchGeneration
    identity.domain identity.tag (some identity.excludeTags)

/-- `_prefetch_request_is_current`. -/
def requestIsCurrent (world : World Node) (identity : Identity) : Bool :=
  match world.provider.config with
  | none => false
  | some config =>
      !world.provider.shutdownStarted && world.provider.initializer.isNone &&
        decide (world.latestIdentity = some identity) && world.provider.dbPath.isSome &&
        decide (currentIdentity profiles world config identity = identity)

/-! ## `queue_prefetch` and `on_session_switch` -/

/-- `session_id or self._session_id`. -/
def World.session (world : World Node) (sessionId : String) : String :=
  if sessionId = "" then world.sessionId else sessionId

/-- The guard of `queue_prefetch` and `prefetch`. -/
def admits (provider : State) : Bool :=
  provider.dbPath.isSome && provider.initializer.isNone && !provider.shutdownStarted

/-- `worker is None or not worker.is_alive()`, negated. -/
def workerAlive (provider : State) : Bool :=
  provider.prefetchWorker.any fun generation => provider.alive (.prefetch generation)

/-- `queue_prefetch`; `starts` tells whether a new thread can be started. -/
def queuePrefetch (world : World Node) (query sessionId : String) (starts : Bool) : World Node :=
  match world.provider.config with
  | none => world
  | some config =>
      if admits world.provider = false then world
      else
        let identity := requestIdentity profiles world config (world.session sessionId)
          (world.prefetchGeneration + 1) none none none
        if query = "" then { world.supersede with latestIdentity := none }
        else
          let request : Request :=
            { identity := identity
              query := query
              dbPath := strDbPath profiles world.provider
              topK := (profiles config).prefetchK
              useLlm := world.provider.embeddingIdentityReady && (profiles config).extractsCues }
          let requested := { world.supersede with
            pendingRequest := some request
            latestIdentity := some identity
            queued := identity :: world.queued }
          if workerAlive world.provider then requested.notify
          else if starts then
            World.notify { requested.setWorker world.provider.healthGeneration .looping with
              provider := Lifecycle.queuePrefetch world.provider }
          else
            { requested with
              provider := { world.provider with prefetchWorker := none }
              pendingRequest := none }

/-- `on_session_switch`. -/
def onSessionSwitch (world : World Node) (newSessionId : String) : World Node :=
  if world.provider.initializer ≠ none ∨ world.provider.shutdownStarted = true then world
  else
    World.notifyAll { world.supersede with
      sessionId := newSessionId
      warmCache := []
      pendingRequest := none
      latestIdentity := none }

/-! ## The worker -/

/-- `cue and cue.strip()`. -/
def nonBlank (cue : String) : Bool := !(text.split cue).isEmpty

def gather (nodes found : List Node) : List Node :=
  found.foldl (fun gathered node =>
    if nodeId node ∈ gathered.map nodeId then gathered else gathered ++ [node]) nodes

/-- `_stage_prefetch_result`. The assertion on `_config` is the only one that can
fail. -/
def stagePrefetchResult (world : World Node) (request : Request) (cues : List String)
    (nodes : List Node) : Option (World Node) :=
  world.provider.config.map fun config =>
    if request.identity ≠ currentIdentity profiles world config request.identity then world
    else
      { world with
        prefetchPending := some
          { identity := request.identity
            cues := cues.filter (nonBlank text)
            nodes := nodes
            serial := world.staged }
        staged := world.staged + 1 }

/-- The `finally` of `_prefetch_worker_loop`. -/
def leave (provider : State) (generation : Generation) : State :=
  { provider with
    prefetchThreads := provider.prefetchThreads.erase generation
    prefetchWorker :=
      if provider.prefetchWorker = some generation then none else provider.prefetchWorker }

/-- The next stage of the worker of a generation. `cues` is what
`_extract_prefetch_cues` gives and `found` what `_prefetch_nodes_for_cue` gives, or
`none` when it raises. -/
def work (world : World Node) (generation : Generation) (cues : Option (List String))
    (found : Option (List Node)) : Option (World Node) :=
  if world.provider.alive (.prefetch generation) = false then none
  else
    match world.workers generation with
    | .looping =>
        match world.pendingRequest with
        | some request =>
            some { world.setWorker generation (.starting request) with
              pendingRequest := none
              activeIdentity := some request.identity }
        | none =>
            if world.provider.shutdownStarted then some (world.setWorker generation .leaving)
            else
              some { world.setWorker generation .waiting with
                waiters := world.waiters ++ [generation] }
    | .waiting => none
    | .starting request =>
        some (world.setWorker generation
          (if requestIsCurrent profiles world request.identity then .extracting request
            else .finishing))
    | .extracting request =>
        let extracted := if request.useLlm then cues.getD [request.query] else [request.query]
        let kept := extracted.filter (nonBlank text)
        some (world.setWorker generation
          (if kept = [] then .finishing else .filtered request kept))
    | .filtered request cues =>
        some (world.setWorker generation
          (if requestIsCurrent profiles world request.identity then
            .searching request cues cues []
          else .finishing))
    | .searching request cues [] nodes =>
        some (world.setWorker generation (.gathered request cues nodes))
    | .searching request cues (cue :: remaining) nodes =>
        some (world.setWorker generation
          (if requestIsCurrent profiles world request.identity then
            .retrieving request cues cue remaining nodes
          else .finishing))
    | .retrieving request cues _ remaining nodes =>
        match found with
        | none => some (world.setWorker generation (.failing request))
        | some found =>
            some { world.setWorker generation
                (.searching request cues remaining (gather nodeId nodes found)) with
              retrieved := found.map (Prod.mk request) ++ world.retrieved }
    | .gathered request cues nodes =>
        some (world.setWorker generation
          (if requestIsCurrent profiles world request.identity && !nodes.isEmpty then
            .staging request cues nodes
          else .finishing))
    | .staging request cues nodes =>
        match stagePrefetchResult profiles text world request cues nodes with
        | none => some (world.setWorker generation (.failing request))
        | some staged => some (staged.setWorker generation .finishing)
    | .failing _ => some (world.setWorker generation .finishing)
    | .finishing =>
        some (World.notifyAll
          { world.setWorker generation .looping with activeIdentity := none })
    | .leaving =>
        some (World.notifyAll
          { world.setWorker generation .finished with
            provider := leave world.provider generation
            activeIdentity := none })
    | .finished => none

/-- The thread ends behind its `finally`. -/
def exitWorker (world : World Node) (generation : Generation) : Option (World Node) :=
  match world.workers generation with
  | .finished =>
      (Lifecycle.exit world.provider (.prefetch generation)).map fun following =>
        { world with provider := following }
  | _ => none

/-! ## `prefetch` -/

/-- `dict.update` with one entry. -/
def setEntry (cache : List (String × Result Node)) (cue : String) (result : Result Node) :
    List (String × Result Node) :=
  if cue ∈ cache.map Prod.fst then
    cache.map fun entry => if entry.1 = cue then (cue, result) else entry
  else cache ++ [(cue, result)]

/-- `_consume_prefetch_pending_locked`, put into the warm cache. -/
def consumed (world : World Node) (identity : Identity) : List (String × Result Node) :=
  match world.prefetchPending with
  | none => world.warmCache
  | some result =>
      if result.identity ≠ identity then world.warmCache
      else result.cues.foldl (fun cache cue => setEntry cache cue result) world.warmCache

/-- `set(w for w in value.split() if len(w) > 3)`. -/
def longWords (value : String) : List String :=
  ((text.split value).filter fun word => 3 < word.length).dedup

def cueMatches (cue query : String) : Bool :=
  let cueLower := text.lower cue
  let queryLower := text.lower query
  decide (cueLower.toList <:+: queryLower.toList) ||
    decide (queryLower.toList <:+: cueLower.toList) ||
    decide (2 ≤ ((longWords text cueLower).filter (· ∈ longWords text queryLower)).length)

def warmHit (identity : Identity) (query : String) (cache : List (String × Result Node)) :
    Option (Result Node) :=
  if (text.split query).isEmpty then none
  else
    (cache.find? fun entry => entry.1 ≠ "" && decide (entry.2.identity = identity) &&
      cueMatches text entry.1 query).map Prod.snd

/-- The identity that `prefetch` asks for. -/
def callIdentity (world : World Node) (config : Generation) (call : PrefetchCall) : Identity :=
  requestIdentity profiles world config (world.session call.sessionId) world.prefetchGeneration
    call.domain call.tag call.excludeTags

/-- The warm path of `prefetch`: the nodes of a hit, or `none` when it goes on to the
cold retrieval or returns `""` at its guard. -/
def prefetch (world : World Node) (call : PrefetchCall) : World Node × Option (List Node) :=
  match world.provider.config with
  | none => (world, none)
  | some config =>
      if admits world.provider = false then (world, none)
      else
        let identity := callIdentity profiles world config call
        let emptied := { world with prefetchPending := none, warmCache := [] }
        match warmHit text identity call.query (consumed world identity) with
        | none => (emptied, none)
        | some result =>
            ({ emptied with served := result.serial :: world.served },
              some (result.nodes.take identity.recallLimit))

/-! ## The lifecycle -/

/-- What the locked blocks of `initialize`, `shutdown` and `_clear_runtime_state` do
to the fields of the warm cache. -/
def lifecycleEffects (world : World Node) (action : Lifecycle.Action) (following : State) :
    World Node :=
  match action with
  | .advance =>
      if world.provider.initializer = some .queueing then
        { world with
          provider := following
          sessionId := (profiles world.provider.healthGeneration).sessionId }
      else { world with provider := following }
  | .identify false =>
      { world with provider := following, warmCache := [], prefetchPending := none }
  | .shutdown cleaner =>
      match following.cleaners cleaner with
      | .signalled _ _ =>
          World.notifyAll { world.supersede with
            provider := following
            pendingRequest := none
            latestIdentity := none }
      | _ => { world with provider := following, superseded := world.queued }
  | .clean cleaner =>
      match world.provider.cleaners cleaner, following.cleaners cleaner with
      | .clearing _ _, .closing _ _ =>
          World.notifyAll { world.supersede with
            provider := following
            warmCache := []
            activeIdentity := none
            pendingRequest := none
            latestIdentity := none }
      | _, _ => { world with provider := following }
  | _ => { world with provider := following }

def lifecycle (world : World Node) (action : Lifecycle.Action) : Option (World Node) :=
  match action with
  | .queuePrefetch | .leavePrefetch _ | .exit (.prefetch _) => none
  | action =>
      (Lifecycle.step world.provider action).map (lifecycleEffects profiles world action)

/-- `_write_runtime_identity`, called by `initialize`. -/
def writeRuntimeIdentity (world : World Node) (epoch : Int) : Option (World Node) :=
  if world.provider.initializer = some (.identifying false) then
    some { world with runtimeEpoch := some epoch }
  else none

inductive Action (Node : Type) where
  | lifecycle (action : Lifecycle.Action)
  | writeRuntimeIdentity (epoch : Int)
  | onSessionSwitch (newSessionId : String)
  | queuePrefetch (query sessionId : String) (starts : Bool)
  | prefetch (call : PrefetchCall)
  | work (generation : Generation) (cues : Option (List String)) (found : Option (List Node))
  | exitWorker (generation : Generation)

def step (world : World Node) : Action Node → Option (World Node)
  | .lifecycle action => lifecycle profiles world action
  | .writeRuntimeIdentity epoch => PrefetchWorker.writeRuntimeIdentity world epoch
  | .onSessionSwitch newSessionId => some (PrefetchWorker.onSessionSwitch world newSessionId)
  | .queuePrefetch query sessionId starts =>
      some (PrefetchWorker.queuePrefetch profiles world query sessionId starts)
  | .prefetch call => some (PrefetchWorker.prefetch profiles text world call).1
  | .work generation cues found =>
      PrefetchWorker.work profiles text nodeId world generation cues found
  | .exitWorker generation => PrefetchWorker.exitWorker world generation

end Model

/-! ## One step, case by case -/

/-- The request that the worker runs. -/
def Point.request {Node : Type} : Point Node → Option Request
  | .starting request | .extracting request | .filtered request _ | .searching request _ _ _
  | .retrieving request _ _ _ _ | .gathered request _ _ | .staging request _ _
  | .failing request => some request
  | _ => none

/-- The nodes that it has gathered. -/
def Point.nodes {Node : Type} : Point Node → List Node
  | .searching _ _ _ nodes | .retrieving _ _ _ _ nodes | .gathered _ _ nodes
  | .staging _ _ nodes => nodes
  | _ => []

def Point.awake {Node : Type} : Point Node → Bool
  | .waiting | .leaving | .finished => false
  | _ => true

def Closed (provider : State) : Prop :=
  provider.initializer ≠ none ∨ provider.syncQueue = none ∨ provider.shutdownStarted = true

structure Beside (provider following : State) : Prop where
  worker : following.prefetchWorker = provider.prefetchWorker
  threads : following.prefetchThreads = provider.prefetchThreads
  alive : ∀ generation, following.alive (.prefetch generation) =
    provider.alive (.prefetch generation)

def startsOrEnds : Lifecycle.Action → Bool
  | .queuePrefetch | .leavePrefetch _ | .exit (.prefetch _) => true
  | _ => false

/-- What a step of the lifecycle does to the prefetch threads and to the admission
of requests. -/
inductive Passes (provider : State) : Lifecycle.Action → State → Prop where
  | beside (action : Lifecycle.Action) (following : State) (beside : Beside provider following)
      (closed : Closed following → Closed provider)
      (kept : ∀ cleaner worker queue target call, action = .clean cleaner →
        provider.cleaners cleaner = .clearing worker queue →
        following.cleaners cleaner ≠ .closing target call) :
      Passes provider action following
  | shuts (cleaner : Nat) (following : State) : Passes provider (.shutdown cleaner) following
  | clear (cleaner : Nat) (worker : Option Generation) (queue : Generation) (call : CloseCall)
      (following : State) (ready : provider.cleaners cleaner = .clearing worker queue)
      (closing : following.cleaners cleaner = .closing queue call)
      (current : provider.syncQueue = some queue) (gone : following.prefetchWorker = none)
      (alive : following.alive = provider.alive) : Passes provider (.clean cleaner) following

theorem lifecycle_passes {provider following : State} {action : Lifecycle.Action}
    (moves : Lifecycle.Moves provider action following) (other : startsOrEnds action = false) :
    Passes provider action following := by
  cases moves with
  | admitted quiet queue clear =>
      exact .beside _ _ ⟨rfl, rfl, fun _ => rfl⟩ (fun _ => .inr (.inl queue)) nofun
  | starts ready kept =>
      exact .beside _ _ ⟨rfl, rfl, fun _ => by simp⟩
        (fun _ => .inl (by rw [ready]; exact nofun)) nofun
  | shutdownIgnored cleaner | cancel cleaner unannounced initializing unpublished
  | retry cleaner cleanup idle flag pending
  | signal cleaner queue idle unannounced published current clear => exact .shuts cleaner _
  | clear cleaner worker queue ready current =>
      exact .clear cleaner worker queue (.enter provider.embeddingSupervisor true) _ ready
        (by simp [State.setCleaner]) current rfl rfl
  | readWorker cleaner queue prefetchThreads ready | retain cleaner cleanup ready
  | defer cleaner cleanup ready | exited cleaner cleanup ready dead
  | handOver cleaner queue ready current | handOverStale cleaner queue ready
  | clearStale cleaner worker queue ready | cleanerRelease cleaner queue ready
  | cleanerReset cleaner queue ready =>
      refine .beside _ _ ⟨rfl, rfl, fun _ => rfl⟩ id ?_
      intro other worker target _ call same
      obtain rfl := Lifecycle.Action.clean.inj same
      simp [State.setCleaner]
  | cleanerTest cleaner queue point ready next =>
      refine .beside _ _ ⟨rfl, rfl, fun _ => rfl⟩ id ?_
      intro other worker target _ call same
      obtain rfl := Lifecycle.Action.clean.inj same
      rcases next with rfl | rfl <;> simp [State.setCleaner]
  | cleanerClose cleaner queue call writes next ready closes =>
      refine .beside _ _ ⟨rfl, rfl, fun _ => rfl⟩ ?_ ?_
      · rintro (initializing | gone | set)
        · exact .inl initializing
        · exact .inr (.inl gone)
        · exact .inr (.inr (lowered closes.lowers set))
      · intro other worker target _ _ same clearing
        obtain rfl := Lifecycle.Action.clean.inj same
        rw [ready] at clearing
        cases clearing
  | runCallback supervisor markStopped rest writes running finishes =>
      refine .beside _ _ ⟨rfl, rfl, fun _ => rfl⟩ ?_ nofun
      rintro (initializing | gone | set)
      · exact .inl initializing
      · exact .inr (.inl gone)
      · exact .inr (.inr (lowered finishes.lowers set))
  | exit thread =>
      cases thread with
      | sync generation => exact .beside _ _ ⟨rfl, rfl, fun _ => by simp⟩ id nofun
      | prefetch generation => cases other
  | raise reason errorClass inside =>
      refine .beside _ _ ⟨rfl, rfl, fun _ => rfl⟩ (fun _ => .inl ?_) nofun
      intro quiet
      rw [quiet] at inside
      cases inside
  | prefetchStarts | prefetchLeaves => cases other
  | _ => first
    | exact .beside _ _ ⟨rfl, rfl, fun _ => rfl⟩ id nofun
    | exact .beside _ _ ⟨rfl, rfl, fun _ => rfl⟩
        (fun _ => .inl (by simp only [‹_ = some _›]; exact nofun)) nofun

/-- `shutdown` signals the worker, or finds that nothing is admitted any more. -/
theorem shutdown_passes {provider following : State} {cleaner : Nat}
    (taken : Lifecycle.shutdown provider cleaner = some following) :
    Beside provider following ∧
      ((∃ queue threads, following.cleaners cleaner = .signalled queue threads) ∨
        Closed provider ∧ ∀ queue threads,
          following.cleaners cleaner ≠ .signalled queue threads) := by
  unfold Lifecycle.shutdown at taken
  split at taken
  · cases taken
  · rename_i available
    rw [not_or, not_not] at available
    split at taken
    · rename_i early
      obtain rfl := Option.some.inj taken
      refine ⟨⟨rfl, rfl, fun _ => rfl⟩, .inr ⟨.inl early.1, ?_⟩⟩
      simp [available.1]
    · split at taken
      · rename_i gone
        obtain rfl := Option.some.inj taken
        refine ⟨⟨rfl, rfl, fun _ => rfl⟩, .inr ⟨.inr (.inl gone), ?_⟩⟩
        simp [available.1]
      · split at taken
        · rename_i flag
          split at taken <;> obtain rfl := Option.some.inj taken
          · refine ⟨⟨rfl, rfl, fun _ => rfl⟩, .inr ⟨.inr (.inr flag), ?_⟩⟩
            simp [available.1]
          · refine ⟨⟨rfl, rfl, fun _ => rfl⟩, .inr ⟨.inr (.inr flag), ?_⟩⟩
            simp [State.setCleaner]
        · obtain rfl := Option.some.inj taken
          refine ⟨⟨rfl, rfl, fun _ => rfl⟩, .inl ?_⟩
          simp [State.setCleaner]

section Inversion

variable {Node : Type}

def World.requested (world : World Node) (request : Request) : World Node :=
  { world.supersede with
    pendingRequest := some request
    latestIdentity := some request.identity
    queued := request.identity :: world.queued }

/-- A request as `queue_prefetch` makes it. -/
structure Fresh (world : World Node) (request : Request) : Prop where
  generation : request.identity.generation = world.prefetchGeneration + 1
  domain : request.identity.domain = none
  tag : request.identity.tag = none
  excludeTags : request.identity.excludeTags = []
  dbPath : request.dbPath = request.identity.dbPath
  config : world.provider.config ≠ none
  path : world.provider.dbPath ≠ none
  quiet : world.provider.initializer = none
  clear : world.provider.shutdownStarted = false

inductive Moves (profiles : Generation → Profile) (text : Text) (nodeId : Node → String)
    (world : World Node) : Action Node → World Node → Prop where
  | ignored (action : Action Node) : Moves profiles text nodeId world action world
  | lifecycle (action : Lifecycle.Action) (provider : State) (sessionId : String)
      (warmCache : List (String × Result Node)) (prefetchPending : Option (Result Node))
      (superseded : List Identity)
      (moves : Lifecycle.Moves world.provider action provider)
      (beside : Beside world.provider provider)
      (closed : Closed provider → Closed world.provider)
      (emptied : warmCache = world.warmCache ∨ warmCache = [])
      (dropped : prefetchPending = world.prefetchPending ∨ prefetchPending = none)
      (ended : superseded = world.superseded ∨
        superseded = world.queued ∧ Closed world.provider) :
      Moves profiles text nodeId world (.lifecycle action) { world with
        provider := provider
        sessionId := sessionId
        warmCache := warmCache
        prefetchPending := prefetchPending
        superseded := superseded }
  | resets (action : Action Node) (provider : State) (sessionId : String)
      (warmCache : List (String × Result Node))
      (runs : provider = world.provider ∨
        ∃ action, Lifecycle.Moves world.provider action provider)
      (beside : Beside world.provider provider)
      (emptied : warmCache = world.warmCache ∨ warmCache = []) :
      Moves profiles text nodeId world action (World.notifyAll { world.supersede with
        provider := provider
        sessionId := sessionId
        warmCache := warmCache
        pendingRequest := none
        latestIdentity := none })
  | clears (cleaner : Nat) (worker : Option Generation) (queue : Generation) (provider : State)
      (moves : Lifecycle.Moves world.provider (.clean cleaner) provider)
      (ready : world.provider.cleaners cleaner = .clearing worker queue)
      (current : world.provider.syncQueue = some queue)
      (gone : provider.prefetchWorker = none)
      (alive : provider.alive = world.provider.alive) :
      Moves profiles text nodeId world (.lifecycle (.clean cleaner))
        (World.notifyAll { world.supersede with
          provider := provider
          warmCache := []
          activeIdentity := none
          pendingRequest := none
          latestIdentity := none })
  | epoch (epoch : Int) :
      Moves profiles text nodeId world (.writeRuntimeIdentity epoch)
        { world with runtimeEpoch := some epoch }
  | drops (action : Action Node) :
      Moves profiles text nodeId world action { world.supersede with latestIdentity := none }
  | wakes (action : Action Node) (request : Request) (fresh : Fresh world request)
      (alive : workerAlive world.provider = true) :
      Moves profiles text nodeId world action (world.requested request).notify
  | starts (action : Action Node) (request : Request) (fresh : Fresh world request)
      (dead : workerAlive world.provider = false) :
      Moves profiles text nodeId world action
        (World.notify { (world.requested request).setWorker world.provider.healthGeneration
            .looping with
          provider := Lifecycle.queuePrefetch world.provider })
  | fails (action : Action Node) (request : Request) (fresh : Fresh world request)
      (dead : workerAlive world.provider = false) :
      Moves profiles text nodeId world action { world.requested request with
        provider := { world.provider with prefetchWorker := none }
        pendingRequest := none }
  | misses (call : PrefetchCall) :
      Moves profiles text nodeId world (.prefetch call)
        { world with prefetchPending := none, warmCache := [] }
  | hits (call : PrefetchCall) (config : Generation) (result : Result Node)
      (found : warmHit text (callIdentity profiles world config call) call.query
        (consumed world (callIdentity profiles world config call)) = some result) :
      Moves profiles text nodeId world (.prefetch call) { world with
        prefetchPending := none
        warmCache := []
        served := result.serial :: world.served }
  | takes (generation : Generation) (request : Request) (cues : Option (List String))
      (found : Option (List Node))
      (alive : world.provider.alive (.prefetch generation) = true)
      (ready : world.workers generation = .looping)
      (pending : world.pendingRequest = some request) :
      Moves profiles text nodeId world (.work generation cues found)
        { world.setWorker generation (.starting request) with
          pendingRequest := none
          activeIdentity := some request.identity }
  | leaves (generation : Generation) (cues : Option (List String)) (found : Option (List Node))
      (alive : world.provider.alive (.prefetch generation) = true)
      (ready : world.workers generation = .looping) (empty : world.pendingRequest = none)
      (flag : world.provider.shutdownStarted = true) :
      Moves profiles text nodeId world (.work generation cues found)
        (world.setWorker generation .leaving)
  | waits (generation : Generation) (cues : Option (List String)) (found : Option (List Node))
      (alive : world.provider.alive (.prefetch generation) = true)
      (ready : world.workers generation = .looping) (empty : world.pendingRequest = none) :
      Moves profiles text nodeId world (.work generation cues found)
        { world.setWorker generation .waiting with waiters := world.waiters ++ [generation] }
  | proceeds (generation : Generation) (point : Point Node) (cues : Option (List String))
      (found : Option (List Node))
      (alive : world.provider.alive (.prefetch generation) = true)
      (busy : (world.workers generation).request ≠ none) (awake : point.awake = true)
      (same : ∀ request, point.request = some request →
        (world.workers generation).request = some request)
      (nodes : ∀ node ∈ point.nodes, node ∈ (world.workers generation).nodes) :
      Moves profiles text nodeId world (.work generation cues found)
        (world.setWorker generation point)
  | gathers (generation : Generation) (request : Request) (cues : List String) (cue : String)
      (remaining : List String) (nodes found : List Node) (answer : Option (List String))
      (alive : world.provider.alive (.prefetch generation) = true)
      (ready : world.workers generation = .retrieving request cues cue remaining nodes) :
      Moves profiles text nodeId world (.work generation answer (some found))
        { world.setWorker generation
            (.searching request cues remaining (gather nodeId nodes found)) with
          retrieved := found.map (Prod.mk request) ++ world.retrieved }
  | stages (generation : Generation) (request : Request) (cues : List String)
      (nodes : List Node) (answer : Option (List String)) (found : Option (List Node))
      (alive : world.provider.alive (.prefetch generation) = true)
      (ready : world.workers generation = .staging request cues nodes) :
      Moves profiles text nodeId world (.work generation answer found)
        { world.setWorker generation .finishing with
          prefetchPending := some
            { identity := request.identity
              cues := cues.filter (nonBlank text)
              nodes := nodes
              serial := world.staged }
          staged := world.staged + 1 }
  | finishes (generation : Generation) (cues : Option (List String))
      (found : Option (List Node))
      (alive : world.provider.alive (.prefetch generation) = true)
      (ready : world.workers generation = .finishing) :
      Moves profiles text nodeId world (.work generation cues found)
        (World.notifyAll { world.setWorker generation .looping with activeIdentity := none })
  | finalizes (generation : Generation) (cues : Option (List String))
      (found : Option (List Node))
      (alive : world.provider.alive (.prefetch generation) = true)
      (ready : world.workers generation = .leaving) :
      Moves profiles text nodeId world (.work generation cues found)
        (World.notifyAll { world.setWorker generation .finished with
          provider := leave world.provider generation
          activeIdentity := none })
  | exits (generation : Generation) (provider : State)
      (ready : world.workers generation = .finished)
      (taken : Lifecycle.exit world.provider (.prefetch generation) = some provider) :
      Moves profiles text nodeId world (.exitWorker generation)
        { world with provider := provider }

variable {profiles : Generation → Profile} {text : Text} {nodeId : Node → String}
variable {world following : World Node}

theorem sorted_tags_nil : sortedTags none = [] := by
  simp [sortedTags]

theorem lifecycle_step {action : Lifecycle.Action}
    (taken : lifecycle profiles world action = some following) :
    startsOrEnds action = false ∧ ∃ provider,
      Lifecycle.step world.provider action = some provider ∧
        lifecycleEffects profiles world action provider = following := by
  unfold lifecycle at taken
  split at taken
  · cases taken
  · cases taken
  · cases taken
  · rename_i first second third
    refine ⟨?_, Option.map_eq_some_iff.mp taken⟩
    unfold startsOrEnds
    split
    · exact absurd rfl first
    · exact absurd rfl (second _)
    · exact absurd rfl (third _)
    · rfl

theorem lifecycle_moves {action : Lifecycle.Action}
    (taken : lifecycle profiles world action = some following) :
    Moves profiles text nodeId world (.lifecycle action) following := by
  obtain ⟨other, provider, runs, rfl⟩ := lifecycle_step taken
  have moves := Lifecycle.step_moves runs
  cases lifecycle_passes moves other with
  | shuts cleaner =>
      have ⟨beside, quiet⟩ := shutdown_passes runs
      simp only [lifecycleEffects]
      rcases quiet with ⟨queue, threads, signalled⟩ | ⟨closed, unsignalled⟩
      · rw [signalled]
        exact .resets _ provider _ _ (.inr ⟨_, moves⟩) beside (.inl rfl)
      · split
        · rename_i queue threads signalled
          exact absurd signalled (unsignalled queue threads)
        · exact .lifecycle _ provider _ _ _ _ moves beside (fun _ => closed) (.inl rfl)
            (.inl rfl) (.inr ⟨rfl, closed⟩)
  | clear cleaner worker queue call _ ready closing current gone alive =>
      simp only [lifecycleEffects, ready, closing]
      exact .clears cleaner worker queue provider moves ready current gone alive
  | beside _ _ beside closed kept =>
      unfold lifecycleEffects
      split
      · split
        · exact .lifecycle _ provider _ _ _ _ moves beside closed (.inl rfl) (.inl rfl) (.inl rfl)
        · exact .lifecycle _ provider _ _ _ _ moves beside closed (.inl rfl) (.inl rfl) (.inl rfl)
      · exact .lifecycle _ provider _ _ _ _ moves beside closed (.inr rfl) (.inr rfl) (.inl rfl)
      · have ⟨beside, quiet⟩ := shutdown_passes runs
        split
        · exact .resets _ provider _ _ (.inr ⟨_, moves⟩) beside (.inl rfl)
        · rename_i unsignalled
          have closed : Closed world.provider := by
            rcases quiet with ⟨queue, threads, signalled⟩ | ⟨closed, _⟩
            · exact absurd signalled (unsignalled queue threads)
            · exact closed
          exact .lifecycle _ provider _ _ _ _ moves beside (fun _ => closed) (.inl rfl)
            (.inl rfl) (.inr ⟨rfl, closed⟩)
      · split
        · rename_i clearing closing
          exact absurd closing (kept _ _ _ _ _ rfl clearing)
        · exact .lifecycle _ provider _ _ _ _ moves beside closed (.inl rfl) (.inl rfl) (.inl rfl)
      · exact .lifecycle _ provider _ _ _ _ moves beside closed (.inl rfl) (.inl rfl) (.inl rfl)

theorem queue_prefetch_moves (query sessionId : String) (starts : Bool) :
    Moves profiles text nodeId world (.queuePrefetch query sessionId starts)
      (queuePrefetch profiles world query sessionId starts) := by
  unfold queuePrefetch
  split
  · exact .ignored _
  · rename_i config known
    split
    · exact .ignored _
    · rename_i admitted
      simp only [admits, Bool.not_eq_false, Bool.and_eq_true, Bool.not_eq_true'] at admitted
      obtain ⟨⟨path, quiet⟩, clear⟩ := admitted
      dsimp only
      split
      · exact .drops _
      · have fresh : Fresh world
            { identity := requestIdentity profiles world config (world.session sessionId)
                (world.prefetchGeneration + 1) none none none
              query := query
              dbPath := strDbPath profiles world.provider
              topK := (profiles config).prefetchK
              useLlm :=
                world.provider.embeddingIdentityReady && (profiles config).extractsCues } :=
          ⟨rfl, rfl, rfl, sorted_tags_nil, rfl, by simp [known],
            by simpa [Option.isSome_iff_ne_none] using path, by simpa using quiet, clear⟩
        split
        · rename_i alive
          exact .wakes _ _ fresh alive
        · rename_i dead
          split
          · exact .starts _ _ fresh (by simpa using dead)
          · exact .fails _ _ fresh (by simpa using dead)

theorem prefetch_moves (call : PrefetchCall) :
    Moves profiles text nodeId world (.prefetch call) (prefetch profiles text world call).1 := by
  unfold prefetch
  split
  · exact .ignored _
  · rename_i config known
    split
    · exact .ignored _
    · dsimp only
      split
      · exact .misses call
      · rename_i result found
        exact .hits call config result found

theorem work_moves {generation : Generation} {cues : Option (List String)}
    {found : Option (List Node)}
    (taken : work profiles text nodeId world generation cues found = some following) :
    Moves profiles text nodeId world (.work generation cues found) following := by
  obtain ⟨alive, runs⟩ := Option.ite_none_left_eq_some.mp taken
  rw [Bool.not_eq_false] at alive
  clear taken
  cases point : world.workers generation with
  | looping =>
      simp only [point] at runs
      split at runs
      · rename_i request pending
        obtain rfl := Option.some.inj runs
        exact .takes generation request cues found alive point pending
      · rename_i empty
        split at runs <;> obtain rfl := Option.some.inj runs
        · rename_i flag
          exact .leaves generation cues found alive point empty flag
        · exact .waits generation cues found alive point empty
  | starting request | filtered request kept =>
      simp only [point] at runs
      obtain rfl := Option.some.inj runs
      split <;> exact .proceeds generation _ cues found alive (by rw [point]; exact nofun) rfl
        (by simp [point, Point.request]) (by simp [Point.nodes])
  | extracting request =>
      simp only [point] at runs
      obtain rfl := Option.some.inj runs
      generalize List.filter (nonBlank text) _ = kept
      split <;> exact .proceeds generation _ cues found alive (by rw [point]; exact nofun) rfl
        (by simp [point, Point.request]) (by simp [Point.nodes])
  | searching request kept remaining nodes =>
      cases remaining with
      | nil =>
          simp only [point] at runs
          obtain rfl := Option.some.inj runs
          exact .proceeds generation _ cues found alive (by rw [point]; exact nofun) rfl
            (by simp [point, Point.request]) (by simp [point, Point.nodes])
      | cons cue remaining =>
          simp only [point] at runs
          obtain rfl := Option.some.inj runs
          split <;> exact .proceeds generation _ cues found alive (by rw [point]; exact nofun)
            rfl (by simp [point, Point.request]) (by simp [point, Point.nodes])
  | retrieving request kept cue remaining nodes =>
      simp only [point] at runs
      split at runs <;> obtain rfl := Option.some.inj runs
      · exact .proceeds generation _ cues none alive (by rw [point]; exact nofun) rfl
          (by simp [point, Point.request]) (by simp [Point.nodes])
      · exact .gathers generation request kept cue remaining nodes _ cues alive point
  | gathered request kept nodes =>
      simp only [point] at runs
      obtain rfl := Option.some.inj runs
      split <;> exact .proceeds generation _ cues found alive (by rw [point]; exact nofun) rfl
        (by simp [point, Point.request]) (by simp [point, Point.nodes])
  | staging request kept nodes =>
      simp only [point] at runs
      split at runs <;> obtain rfl := Option.some.inj runs
      · exact .proceeds generation _ cues found alive (by rw [point]; exact nofun) rfl
          (by simp [point, Point.request]) (by simp [Point.nodes])
      · rename_i staged stages
        obtain ⟨config, _, rfl⟩ := Option.map_eq_some_iff.mp stages
        split
        · exact .proceeds generation _ cues found alive (by rw [point]; exact nofun) rfl
            (by simp [Point.request]) (by simp [Point.nodes])
        · exact .stages generation request kept nodes cues found alive point
  | failing request =>
      simp only [point] at runs
      obtain rfl := Option.some.inj runs
      exact .proceeds generation _ cues found alive (by rw [point]; exact nofun) rfl
        (by simp [Point.request]) (by simp [Point.nodes])
  | finishing =>
      simp only [point] at runs
      obtain rfl := Option.some.inj runs
      exact .finishes generation cues found alive point
  | leaving =>
      simp only [point] at runs
      obtain rfl := Option.some.inj runs
      exact .finalizes generation cues found alive point
  | waiting | finished =>
      simp only [point] at runs
      cases runs

theorem step_moves {action : Action Node}
    (taken : step profiles text nodeId world action = some following) :
    Moves profiles text nodeId world action following := by
  cases action with
  | lifecycle action => exact lifecycle_moves taken
  | writeRuntimeIdentity epoch =>
      obtain ⟨_, taken⟩ := Option.ite_none_right_eq_some.mp taken
      obtain rfl := Option.some.inj taken
      exact .epoch epoch
  | onSessionSwitch newSessionId =>
      obtain rfl := Option.some.inj taken
      unfold onSessionSwitch
      split
      · exact .ignored _
      · exact .resets _ world.provider _ _ (.inl rfl) ⟨rfl, rfl, fun _ => rfl⟩ (.inr rfl)
  | queuePrefetch query sessionId starts =>
      obtain rfl := Option.some.inj taken
      exact queue_prefetch_moves query sessionId starts
  | prefetch call =>
      obtain rfl := Option.some.inj taken
      exact prefetch_moves call
  | work generation cues found => exact work_moves taken
  | exitWorker generation =>
      simp only [step, exitWorker] at taken
      split at taken
      · rename_i ready
        obtain ⟨provider, exits, rfl⟩ := Option.map_eq_some_iff.mp taken
        exact .exits generation provider ready exits
      · cases taken

end Inversion

end HermesCashew.PrefetchWorker
