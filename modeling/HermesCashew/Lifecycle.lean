import HermesCashew.Health
import HermesCashew.Transition
import Mathlib.Logic.Function.Basic

/-!
# The provider lifecycle

`initialize`, `shutdown`, the deferred cleanup threads, the exits of the worker
threads and the close callbacks of the embedding supervisor all write the fields
of one provider. A step is one block under `_sync_state_lock`, or one statement
outside it that reads or writes such a field. At most one admitted `initialize`
runs at a time; there may be any number of `shutdown` calls and cleanup threads.

A generation is the value of `_health_generation` that an admitted `initialize`
sets. It names the queue, the sync worker, the prefetch worker and the supervisor
that this `initialize` creates, so a field holds the generation of its object.
-/

namespace HermesCashew.Lifecycle

set_option autoImplicit false

abbrev Generation := Nat

inductive Thread where
  | sync (generation : Generation)
  | prefetch (generation : Generation)
  deriving DecidableEq, Repr

/-- An `EmbeddingSupervisor`. A callback is the `_finish_embedding_runtime_close`
of this supervisor, so only its `mark_stopped` argument is kept. `releasing`
holds between the two locked blocks of `_release_owner`. -/
structure Supervisor where
  closed : Bool := false
  releasing : Bool := false
  ownerReleased : Bool := false
  closeCallbacks : List Bool := []
  runningCallbacks : List Bool := []
  deriving DecidableEq, Repr

/-- Where a `_close_embedding_runtime` call stands. -/
inductive CloseCall where
  | enter (supervisor : Option Generation) (markStopped : Bool)
  | callNow (supervisor : Generation) (markStopped : Bool)
  | close (supervisor : Generation)
  deriving DecidableEq, Repr

/-- Where the `if self._log_scrub_acquired:` block at the end of a teardown
stands. -/
inductive ScrubPoint where
  | test
  | release
  | reset
  deriving DecidableEq, Repr

/-- What leaves the body of `initialize`. -/
inductive Raised where
  | cancelled
  | failed (reason : HealthReason) (errorClass : String)
  deriving DecidableEq, Repr

/-- Where the admitted `initialize` stands. `announcing` holds the lifecycle
lock; `captured` lies between the handler's reads and its locked block. -/
inductive InitializePoint where
  | queueing
  | resuming
  | acquiring
  | acquired
  | loading
  | resolving
  | binding
  | starting
  | identifying (readOnly : Bool)
  | withdrawing (call : CloseCall)
  | checking
  | publishing
  | announcing
  | published
  | raised (error : Raised)
  | captured (error : Raised) (supervisor : Option Generation)
  | closing (call : CloseCall)
  | scrubbing (point : ScrubPoint)
  | finalizing
  deriving DecidableEq, Repr

/-- The tuple `(worker, q, alive_workers)` of a deferred cleanup. -/
structure Cleanup where
  worker : Option Generation
  queue : Generation
  workers : List Thread
  deriving DecidableEq, Repr

/-- Where a `shutdown` call or a cleanup thread stands. -/
inductive CleanerPoint where
  | idle
  | signalled (queue : Generation) (prefetchThreads : List Thread)
  | joining (worker : Option Generation) (queue : Generation) (prefetchThreads : List Thread)
  | retaining (cleanup : Cleanup)
  | scheduling (cleanup : Cleanup)
  | spawning (cleanup : Cleanup)
  | spawned (queue : Generation)
  | watching (cleanup : Cleanup)
  | clearing (worker : Option Generation) (queue : Generation)
  | closing (queue : Generation) (call : CloseCall)
  | scrubbing (queue : Generation) (point : ScrubPoint)
  deriving DecidableEq, Repr

structure State where
  /-- `_initializing` is set exactly while an admitted `initialize` runs. -/
  initializer : Option InitializePoint := none
  initializationCancelled : Bool := false
  shutdownStarted : Bool := false
  syncQueue : Option Generation := none
  syncWorker : Option Generation := none
  config : Option Generation := none
  dbPath : Option Generation := none
  embeddingSupervisor : Option Generation := none
  embeddingIdentityReady : Bool := false
  prefetchWorker : Option Generation := none
  prefetchThreads : List Generation := []
  shutdownCleanupPending : Option Cleanup := none
  /-- `_log_scrub_acquired`, with the generation that set it. -/
  logScrubAcquired : Option Generation := none
  healthGeneration : Generation := 0
  health : Health := {}
  /-- `_OWNER`, when it is a supervisor of this provider, and `_SCRUB_REFS`. -/
  owner : Option Generation := none
  scrubReferences : Nat := 0
  supervisors : Generation → Supervisor := fun _ => {}
  started : Thread → Bool := fun _ => false
  alive : Thread → Bool := fun _ => false
  cleaners : Nat → CleanerPoint := fun _ => .idle
  /-- History: the generations cancelled before a worker was published, the
  supervisors that were stored, and how often a generation was cleared. -/
  cancelledEarly : Generation → Bool := fun _ => false
  stored : Generation → Bool := fun _ => false
  clearings : Generation → Nat := fun _ => 0

/-- A provider object as `__init__` leaves it. -/
def fresh : State := {}

def State.setHealth (state : State) (health : HealthState) (reason : HealthReason) : State :=
  { state with health := state.health.set health (some reason) none none none }

def State.setSupervisor (state : State) (generation : Generation) (supervisor : Supervisor) :
    State :=
  { state with supervisors := Function.update state.supervisors generation supervisor }

def State.setCleaner (state : State) (cleaner : Nat) (point : CleanerPoint) : State :=
  { state with cleaners := Function.update state.cleaners cleaner point }

/-! ## Closing the embedding runtime -/

/-- `_finish_embedding_runtime_close`. -/
def finishEmbeddingRuntimeClose (state : State) (supervisor : Option Generation)
    (markStopped : Bool) : State :=
  if supervisor ≠ none ∧ state.embeddingSupervisor ≠ supervisor then state
  else if state.syncQueue ≠ none then { state with embeddingSupervisor := none }
  else
    { state with
      embeddingSupervisor := none
      shutdownStarted := false
      health :=
        if markStopped then
          state.health.set .stopped (some .shutdownComplete) none none none
        else state.health }

/-- `_close_embedding_runtime`: `_when_closed` appends the callback or calls it
at once, then `close` is called. -/
def CloseCall.advance (call : CloseCall) (state : State) : State × Option CloseCall :=
  match call with
  | .enter none markStopped => (finishEmbeddingRuntimeClose state none markStopped, none)
  | .enter (some supervisor) markStopped =>
      let record := state.supervisors supervisor
      if record.ownerReleased then (state, some (.callNow supervisor markStopped))
      else
        (state.setSupervisor supervisor
          { record with closeCallbacks := record.closeCallbacks ++ [markStopped] },
          some (.close supervisor))
  | .callNow supervisor markStopped =>
      (finishEmbeddingRuntimeClose state (some supervisor) markStopped,
        some (.close supervisor))
  | .close supervisor =>
      (state.setSupervisor supervisor { state.supervisors supervisor with closed := true }, none)

/-- `_release_owner`, first block, by whichever thread finds the closed child
gone. -/
def dropOwner (state : State) (supervisor : Generation) : Option State :=
  if state.owner = some supervisor ∧ (state.supervisors supervisor).closed = true then
    some { state.setSupervisor supervisor
        { state.supervisors supervisor with releasing := true } with
      owner := none }
  else none

/-- `_release_owner`, second block. -/
def takeCallbacks (state : State) (supervisor : Generation) : Option State :=
  let record := state.supervisors supervisor
  if record.releasing then
    some (state.setSupervisor supervisor { record with
      releasing := false
      ownerReleased := true
      closeCallbacks := []
      runningCallbacks := record.closeCallbacks })
  else none

/-- One turn of the callback loop of `_release_owner`. -/
def runCallback (state : State) (supervisor : Generation) : Option State :=
  match (state.supervisors supervisor).runningCallbacks with
  | [] => none
  | markStopped :: rest =>
      some (finishEmbeddingRuntimeClose
        (state.setSupervisor supervisor
          { state.supervisors supervisor with runningCallbacks := rest })
        (some supervisor) markStopped)

/-- The scrub release shared by both teardowns. `release_provider_scrub_filters`
does nothing at zero. -/
def ScrubPoint.advance (point : ScrubPoint) (state : State) : State × Option ScrubPoint :=
  match point with
  | .test => (state, if state.logScrubAcquired.isSome then some .release else none)
  | .release => ({ state with scrubReferences := state.scrubReferences - 1 }, some .reset)
  | .reset => ({ state with logScrubAcquired := none }, none)

/-! ## `initialize` -/

/-- The admission block. A deferred call changes nothing. -/
def initializeProvider (state : State) : State :=
  if state.initializer ≠ none ∨ state.syncQueue ≠ none ∨ state.shutdownStarted = true then state
  else
    { state with
      initializer := some .queueing
      initializationCancelled := false
      healthGeneration := state.healthGeneration + 1
      embeddingIdentityReady := false
      health :=
        { state := .initializing
          reason := some .initializing
          fallback := .absent
          cron := .disabled
          lastError := none } }

/-- The locked block of the two exception handlers. Only the handler of
`Exception` resets `_sync_worker`. -/
def abandon (state : State) (error : Raised) : State :=
  { state with
    config := none
    dbPath := none
    embeddingIdentityReady := false
    syncWorker := if error = .cancelled then state.syncWorker else none
    syncQueue := none
    shutdownStarted := true
    health :=
      match error with
      | .cancelled =>
          state.health.set .stopped (some .initializationCancelled) none none none
      | .failed reason errorClass =>
          state.health.set .failed (some reason) none none (some errorClass) }

/-- The next statement of `initialize`, where it does not depend on the
environment. -/
def advance (state : State) : Option State :=
  let generation := state.healthGeneration
  match state.initializer with
  | some .queueing =>
      some { state with syncQueue := some generation, initializer := some .resuming }
  | some .resuming =>
      some { state with shutdownStarted := false, initializer := some .acquiring }
  | some .acquiring =>
      some { state with
        scrubReferences := state.scrubReferences + 1
        initializer := some .acquired }
  | some .acquired =>
      some { state with
        logScrubAcquired := some generation
        initializer := some .loading }
  | some .loading =>
      some { state with config := some generation, initializer := some .resolving }
  | some .resolving =>
      some { state with dbPath := some generation, initializer := some .binding }
  | some .starting =>
      some { state with
        embeddingSupervisor := some generation
        stored := Function.update state.stored generation true
        initializer := some (.identifying false) }
  | some (.withdrawing call) =>
      let (following, next) := call.advance state
      some { following with
        initializer := some (next.elim .checking .withdrawing) }
  | some .checking =>
      some { state with
        initializer :=
          some (if state.initializationCancelled then .raised .cancelled else .publishing) }
  | some .published => some { state with initializer := some .finalizing }
  | some (.raised error) =>
      some { state with initializer := some (.captured error state.embeddingSupervisor) }
  | some (.captured error supervisor) =>
      some { abandon state error with
        initializer := some (.closing (.enter supervisor false)) }
  | some (.closing call) =>
      let (following, next) := call.advance state
      some { following with
        initializer := some (next.elim (.scrubbing .test) .closing) }
  | some (.scrubbing point) =>
      let (following, next) := point.advance state
      some { following with
        initializer := some (next.elim .finalizing .scrubbing) }
  | some .finalizing =>
      some { state with initializer := none, initializationCancelled := false }
  | _ => none

/-- How `_bind_upstream_embedding` goes: not called for a read-only profile,
`None` without the bundled engine, or a supervisor that has claimed ownership and
starts its child. -/
inductive Binding where
  | readOnly
  | unavailable
  | claimed
  deriving DecidableEq, Repr

def bind (state : State) (outcome : Binding) : Option State :=
  if state.initializer = some .binding then
    match outcome with
    | .readOnly => some { state with initializer := some (.identifying true) }
    | .unavailable =>
        some { state with
          embeddingSupervisor := none
          initializer := some (.identifying false) }
    | .claimed =>
        if state.owner = none then
          some { state with
            owner := some state.healthGeneration
            initializer := some .starting }
        else none
  else none

/-- Publication of `_embedding_identity_ready`. An unresolved identity closes the
embedding runtime of a profile that is not read-only. -/
def identify (state : State) (ready : Bool) : Option State :=
  match state.initializer with
  | some (.identifying readOnly) =>
      if readOnly && ready then none
      else
        some { state with
          embeddingIdentityReady := ready
          initializer :=
            some (if ready || readOnly then .checking
              else .withdrawing (.enter state.embeddingSupervisor false)) }
  | _ => none

/-- The final lifecycle-locked handoff, up to `_start_sync_worker`. A thread that
cannot start is left in `_sync_worker`. -/
def startSyncWorker (state : State) (starts : Bool) : Option State :=
  let generation := state.healthGeneration
  if state.initializer = some .publishing then
    if state.initializationCancelled then
      some { state with initializer := some (.raised .cancelled) }
    else if starts then
      some { state with
        syncWorker := some generation
        started := Function.update state.started (.sync generation) true
        alive := Function.update state.alive (.sync generation) true
        initializer := some .announcing }
    else
      some { state with
        syncWorker := some generation
        initializer := some (.raised (.failed .initializationFailed "RuntimeError")) }
  else none

def publishedHealth (state : State) (cron : CronState)
    (vectorUnavailable modelMissing : Bool) : Health :=
  if state.embeddingIdentityReady = false then
    state.health.set .degraded (some .identityUnresolved) (some .keyword) (some cron) none
  else if vectorUnavailable then
    state.health.set .degraded (some .vectorUnavailable) (some .keyword) (some cron) none
  else if cron = .unavailable then
    state.health.set .degraded (some .cronUnavailable) none (some cron) none
  else if cron = .failed then
    state.health.set .degraded (some .cronRegistrationFailed) none (some cron) none
  else if modelMissing then
    state.health.set .degraded (some .modelUnavailable) none (some cron) none
  else state.health.set .ready none none (some cron) none

def announce (state : State) (cron : CronState) (vectorUnavailable modelMissing : Bool) :
    Option State :=
  if state.initializer = some .announcing then
    if state.syncQueue = none ∨ state.shutdownStarted = true then
      some { state with initializer := some (.raised .cancelled) }
    else
      some { state with
        health := publishedHealth state cron vectorUnavailable modelMissing
        initializer := some .published }
  else none

/-- `initialize` is in its body, before the worker is started, where a statement
may raise an arbitrary `Exception`. -/
def inBody : Option InitializePoint → Bool
  | none | some .announcing | some .published | some (.raised _) | some (.captured _ _)
  | some (.closing _) | some (.scrubbing _) | some .finalizing => false
  | _ => true

/-- An `Exception` leaves the body of `initialize`. `_bind_upstream_embedding`
first closes the supervisor that it could not start. -/
def raise (state : State) (reason : HealthReason) (errorClass : String) : Option State :=
  let generation := state.healthGeneration
  if state.initializer = some .starting then
    some { state.setSupervisor generation
        { state.supervisors generation with closed := true } with
      initializer := some (.raised (.failed reason errorClass)) }
  else if inBody state.initializer then
    some { state with initializer := some (.raised (.failed reason errorClass)) }
  else none

/-! ## `shutdown` and its cleanup threads -/

/-- The ownership decision of `shutdown`, under both locks. -/
def shutdown (state : State) (cleaner : Nat) : Option State :=
  if state.cleaners cleaner ≠ .idle ∨ state.initializer = some .announcing then none
  else if state.initializer ≠ none ∧ state.syncWorker = none then
    let generation := state.healthGeneration
    some { state with
      initializationCancelled := true
      shutdownStarted := true
      cancelledEarly := Function.update state.cancelledEarly generation
        (state.cancelledEarly generation || !state.started (.sync generation)) }
  else
    match state.syncQueue with
    | none => some state
    | some queue =>
        if state.shutdownStarted then
          match state.shutdownCleanupPending with
          | none => some state
          | some cleanup => some (state.setCleaner cleaner (.scheduling cleanup))
        else
          some { (state.setHealth .stopping .shutdownRequested).setCleaner cleaner
              (.signalled queue (state.prefetchThreads.map .prefetch)) with
            shutdownStarted := true }

/-- The threads that `shutdown` joins. -/
def joined (worker : Option Generation) (prefetchThreads : List Thread) : List Thread :=
  (worker.toList.map .sync) ++ prefetchThreads

/-- The locked block of `_clear_runtime_state`. -/
def clearRuntimeState (state : State) (cleaner : Nat) (worker : Option Generation)
    (queue : Generation) : State :=
  if state.syncQueue ≠ some queue ∨ (worker ≠ none ∧ state.syncWorker ≠ worker) then
    state.setCleaner cleaner .idle
  else
    { (state.setHealth .stopping .embeddingShutdown).setCleaner cleaner
        (.closing queue (.enter state.embeddingSupervisor true)) with
      syncQueue := none
      shutdownCleanupPending := none
      syncWorker := none
      config := none
      dbPath := none
      embeddingIdentityReady := false
      prefetchThreads := []
      prefetchWorker := none
      clearings := Function.update state.clearings queue (state.clearings queue + 1) }

/-- The next statement of a `shutdown` call or cleanup thread, where it does not
depend on the environment. -/
def clean (state : State) (cleaner : Nat) : Option State :=
  match state.cleaners cleaner with
  | .signalled queue prefetchThreads =>
      some (state.setCleaner cleaner (.joining state.syncWorker queue prefetchThreads))
  | .retaining cleanup =>
      some { (state.setHealth .stopping .workerTimeout).setCleaner cleaner
          (.scheduling cleanup) with
        shutdownCleanupPending := some cleanup }
  | .scheduling cleanup =>
      some (state.setCleaner cleaner
        (if cleanup.workers.any state.alive then .spawning cleanup
          else .clearing cleanup.worker cleanup.queue))
  | .spawned queue =>
      if state.syncQueue = some queue then
        some { state.setCleaner cleaner .idle with shutdownCleanupPending := none }
      else some (state.setCleaner cleaner .idle)
  | .watching cleanup =>
      if cleanup.workers.any state.alive then none
      else some (state.setCleaner cleaner (.clearing cleanup.worker cleanup.queue))
  | .clearing worker queue => some (clearRuntimeState state cleaner worker queue)
  | .closing queue call =>
      let (following, next) := call.advance state
      some (following.setCleaner cleaner
        (next.elim (.scrubbing queue .test) (.closing queue)))
  | .scrubbing queue point =>
      let (following, next) := point.advance state
      some (following.setCleaner cleaner (next.elim .idle (.scrubbing queue)))
  | _ => none

/-- The bounded joins return and the liveness tests are made, one after another:
`seen` are the threads found alive. Joining a thread that never started raises
and ends the call. -/
def join (state : State) (cleaner : Nat) (seen : List Thread) : Option State :=
  match state.cleaners cleaner with
  | .joining worker queue prefetchThreads =>
      if worker.any fun generation => !state.started (.sync generation) then
        some (state.setCleaner cleaner .idle)
      else if seen ⊆ joined worker prefetchThreads ∧
          ∀ thread ∈ joined worker prefetchThreads, state.alive thread = true → thread ∈ seen then
        some (state.setCleaner cleaner
          (if seen = [] then .clearing worker queue
            else .retaining { worker := worker, queue := queue, workers := seen }))
      else none
  | _ => none

/-- `cleanup.start()`, in the free slot `watcher`, or its failure. -/
def spawn (state : State) (cleaner : Nat) (watcher : Option Nat) : Option State :=
  match state.cleaners cleaner, watcher with
  | .spawning _, none => some (state.setCleaner cleaner .idle)
  | .spawning cleanup, some slot =>
      if state.cleaners slot = .idle then
        some ((state.setCleaner slot (.watching cleanup)).setCleaner cleaner
          (.spawned cleanup.queue))
      else none
  | _, _ => none

/-! ## The other threads -/

/-- `queue_prefetch` starts the prefetch worker when none is alive. -/
def queuePrefetch (state : State) : State :=
  if state.config = none ∨ state.dbPath = none ∨ state.initializer ≠ none ∨
      state.shutdownStarted = true ∨
      state.prefetchWorker.any (fun generation => state.alive (.prefetch generation)) then
    state
  else
    let generation := state.healthGeneration
    { state with
      prefetchWorker := some generation
      prefetchThreads := generation :: state.prefetchThreads
      started := Function.update state.started (.prefetch generation) true
      alive := Function.update state.alive (.prefetch generation) true }

/-- The `finally` of `_prefetch_worker_loop`, which is left only under the flag. -/
def leavePrefetch (state : State) (generation : Generation) : Option State :=
  if state.alive (.prefetch generation) = true ∧ generation ∈ state.prefetchThreads ∧
      state.shutdownStarted = true then
    some { state with
      prefetchThreads := state.prefetchThreads.erase generation
      prefetchWorker :=
        if state.prefetchWorker = some generation then none else state.prefetchWorker }
  else none

/-- A thread ends. The sync worker may end anywhere, a prefetch worker after its
`finally`. -/
def exit (state : State) (thread : Thread) : Option State :=
  let left : Bool :=
    match thread with
    | .sync _ => true
    | .prefetch generation => !state.prefetchThreads.contains generation
  if state.alive thread = true ∧ left = true then
    some { state with alive := Function.update state.alive thread false }
  else none

/-- An operation of `generation` publishes a degraded state, under the guard that
`_mark_health_if_current`, `_fail_worker_turn` and the tool calls share. -/
def report (state : State) (generation : Generation) (reason : HealthReason)
    (fallback : Option Fallback) (error : Option String) : State :=
  if generation = state.healthGeneration ∧ state.shutdownStarted = false ∧
      state.health.state.closing = false then
    { state with health := state.health.set .degraded (some reason) fallback none error }
  else state

inductive Action where
  | initializeProvider
  | advance
  | bind (outcome : Binding)
  | identify (ready : Bool)
  | startSyncWorker (starts : Bool)
  | announce (cron : CronState) (vectorUnavailable modelMissing : Bool)
  | raise (reason : HealthReason) (errorClass : String)
  | shutdown (cleaner : Nat)
  | clean (cleaner : Nat)
  | join (cleaner : Nat) (seen : List Thread)
  | spawn (cleaner : Nat) (watcher : Option Nat)
  | queuePrefetch
  | leavePrefetch (generation : Generation)
  | exit (thread : Thread)
  | report (generation : Generation) (reason : HealthReason) (fallback : Option Fallback)
      (error : Option String)
  | dropOwner (supervisor : Generation)
  | takeCallbacks (supervisor : Generation)
  | runCallback (supervisor : Generation)
  deriving DecidableEq, Repr

def step (state : State) : Action → Option State
  | .initializeProvider => some (Lifecycle.initializeProvider state)
  | .advance => Lifecycle.advance state
  | .bind outcome => Lifecycle.bind state outcome
  | .identify ready => Lifecycle.identify state ready
  | .startSyncWorker starts => Lifecycle.startSyncWorker state starts
  | .announce cron vectorUnavailable modelMissing =>
      Lifecycle.announce state cron vectorUnavailable modelMissing
  | .raise reason errorClass => Lifecycle.raise state reason errorClass
  | .shutdown cleaner => Lifecycle.shutdown state cleaner
  | .clean cleaner => Lifecycle.clean state cleaner
  | .join cleaner seen => Lifecycle.join state cleaner seen
  | .spawn cleaner watcher => Lifecycle.spawn state cleaner watcher
  | .queuePrefetch => some (Lifecycle.queuePrefetch state)
  | .leavePrefetch generation => Lifecycle.leavePrefetch state generation
  | .exit thread => Lifecycle.exit state thread
  | .report generation reason fallback error =>
      some (Lifecycle.report state generation reason fallback error)
  | .dropOwner supervisor => Lifecycle.dropOwner state supervisor
  | .takeCallbacks supervisor => Lifecycle.takeCallbacks state supervisor
  | .runCallback supervisor => Lifecycle.runCallback state supervisor

/-! ## What a close writes -/

/-- The fields that `_close_embedding_runtime` and its callbacks write. -/
structure CloseWrites where
  embeddingSupervisor : Option Generation
  shutdownStarted : Bool
  health : Health
  supervisors : Generation → Supervisor

def State.write (state : State) (writes : CloseWrites) : State :=
  { state with
    embeddingSupervisor := writes.embeddingSupervisor
    shutdownStarted := writes.shutdownStarted
    health := writes.health
    supervisors := writes.supervisors }

/-- The fields as they stand. -/
def State.writes (state : State) : CloseWrites where
  embeddingSupervisor := state.embeddingSupervisor
  shutdownStarted := state.shutdownStarted
  health := state.health
  supervisors := state.supervisors

/-- The three ways through `_finish_embedding_runtime_close`. -/
inductive Finishes (state : State) (supervisor : Option Generation) (markStopped : Bool) :
    CloseWrites → Prop where
  | stale (closing : Generation) (same : supervisor = some closing)
      (other : state.embeddingSupervisor ≠ some closing) :
      Finishes state supervisor markStopped state.writes
  | kept (same : supervisor = none ∨ state.embeddingSupervisor = supervisor)
      (queue : state.syncQueue ≠ none) :
      Finishes state supervisor markStopped
        { state.writes with embeddingSupervisor := none }
  | released (same : supervisor = none ∨ state.embeddingSupervisor = supervisor)
      (queue : state.syncQueue = none) :
      Finishes state supervisor markStopped
        { embeddingSupervisor := none
          shutdownStarted := false
          health :=
            if markStopped then
              state.health.set .stopped (some .shutdownComplete) none none none
            else state.health
          supervisors := state.supervisors }

/-- The steps of `_close_embedding_runtime`. -/
inductive Closes (state : State) : CloseCall → CloseWrites → Option CloseCall → Prop where
  | finish (markStopped : Bool) (writes : CloseWrites)
      (finishes : Finishes state none markStopped writes) :
      Closes state (.enter none markStopped) writes none
  | callNow (supervisor : Generation) (markStopped : Bool)
      (released : (state.supervisors supervisor).ownerReleased = true) :
      Closes state (.enter (some supervisor) markStopped) state.writes
        (some (.callNow supervisor markStopped))
  | register (supervisor : Generation) (markStopped : Bool)
      (held : (state.supervisors supervisor).ownerReleased = false) :
      Closes state (.enter (some supervisor) markStopped)
        { state.writes with
          supervisors := Function.update state.supervisors supervisor
            { state.supervisors supervisor with
              closeCallbacks :=
                (state.supervisors supervisor).closeCallbacks ++ [markStopped] } }
        (some (.close supervisor))
  | finishNow (supervisor : Generation) (markStopped : Bool) (writes : CloseWrites)
      (finishes : Finishes state (some supervisor) markStopped writes) :
      Closes state (.callNow supervisor markStopped) writes (some (.close supervisor))
  | close (supervisor : Generation) :
      Closes state (.close supervisor)
        { state.writes with
          supervisors := Function.update state.supervisors supervisor
            { state.supervisors supervisor with closed := true } }
        none

theorem finish_finishes (state : State) (supervisor : Option Generation) (markStopped : Bool) :
    ∃ writes, finishEmbeddingRuntimeClose state supervisor markStopped = state.write writes ∧
      Finishes state supervisor markStopped writes := by
  unfold finishEmbeddingRuntimeClose
  split
  · rename_i stale
    obtain ⟨closing, same⟩ := Option.ne_none_iff_exists'.mp stale.1
    exact ⟨_, rfl, .stale closing same (same ▸ stale.2)⟩
  · rename_i current
    have same : supervisor = none ∨ state.embeddingSupervisor = supervisor := by
      tauto
    split
    · rename_i queue
      exact ⟨_, rfl, .kept same queue⟩
    · rename_i queue
      exact ⟨_, rfl, .released same (not_not.mp queue)⟩

theorem CloseCall.advance_closes (call : CloseCall) (state : State) :
    ∃ writes, (call.advance state).1 = state.write writes ∧
      Closes state call writes (call.advance state).2 := by
  cases call with
  | enter supervisor markStopped =>
      cases supervisor with
      | none =>
          obtain ⟨writes, same, finishes⟩ := finish_finishes state none markStopped
          exact ⟨writes, same, .finish markStopped writes finishes⟩
      | some supervisor =>
          simp only [CloseCall.advance]
          split
          · rename_i released
            exact ⟨_, rfl, .callNow supervisor markStopped released⟩
          · rename_i held
            exact ⟨_, rfl, .register supervisor markStopped (by simpa using held)⟩
  | callNow supervisor markStopped =>
      obtain ⟨writes, same, finishes⟩ := finish_finishes state (some supervisor) markStopped
      exact ⟨writes, same, .finishNow supervisor markStopped writes finishes⟩
  | close supervisor => exact ⟨_, rfl, .close supervisor⟩

theorem finish_after_set (state : State) (supervisor : Generation) (record : Supervisor)
    (markStopped : Bool) :
    ∃ writes, finishEmbeddingRuntimeClose (state.setSupervisor supervisor record)
        (some supervisor) markStopped = state.write writes ∧
      Finishes (state.setSupervisor supervisor record) (some supervisor) markStopped writes := by
  obtain ⟨writes, same, finishes⟩ :=
    finish_finishes (state.setSupervisor supervisor record) (some supervisor) markStopped
  exact ⟨writes, same, finishes⟩

/-- A close may clear the flag, but only without a queue. -/
theorem Finishes.lowers {state : State} {supervisor : Option Generation} {markStopped : Bool}
    {writes : CloseWrites} (finishes : Finishes state supervisor markStopped writes) :
    writes.shutdownStarted = state.shutdownStarted ∨
      writes.shutdownStarted = false ∧ state.syncQueue = none := by
  cases finishes with
  | stale closing same other => exact .inl rfl
  | kept same queue => exact .inl rfl
  | released same queue => exact .inr ⟨rfl, queue⟩

theorem Closes.lowers {state : State} {call : CloseCall} {writes : CloseWrites}
    {next : Option CloseCall} (closes : Closes state call writes next) :
    writes.shutdownStarted = state.shutdownStarted ∨
      writes.shutdownStarted = false ∧ state.syncQueue = none := by
  cases closes with
  | finish markStopped writes finishes => exact finishes.lowers
  | finishNow supervisor markStopped writes finishes => exact finishes.lowers
  | callNow supervisor markStopped released => exact .inl rfl
  | register supervisor markStopped held => exact .inl rfl
  | close supervisor => exact .inl rfl

/-! ## One step, case by case -/

inductive Moves (state : State) : Action → State → Prop where
  | deferred : Moves state .initializeProvider state
  | admitted (quiet : state.initializer = none) (queue : state.syncQueue = none)
      (clear : state.shutdownStarted = false) :
      Moves state .initializeProvider { state with
        initializer := some .queueing
        initializationCancelled := false
        healthGeneration := state.healthGeneration + 1
        embeddingIdentityReady := false
        health :=
          { state := .initializing
            reason := some .initializing
            fallback := .absent
            cron := .disabled
            lastError := none } }
  | queue (ready : state.initializer = some .queueing) :
      Moves state .advance { state with
        syncQueue := some state.healthGeneration, initializer := some .resuming }
  | resume (ready : state.initializer = some .resuming) :
      Moves state .advance { state with
        shutdownStarted := false, initializer := some .acquiring }
  | acquire (ready : state.initializer = some .acquiring) :
      Moves state .advance { state with
        scrubReferences := state.scrubReferences + 1, initializer := some .acquired }
  | recordScrub (ready : state.initializer = some .acquired) :
      Moves state .advance { state with
        logScrubAcquired := some state.healthGeneration, initializer := some .loading }
  | load (ready : state.initializer = some .loading) :
      Moves state .advance { state with
        config := some state.healthGeneration, initializer := some .resolving }
  | resolve (ready : state.initializer = some .resolving) :
      Moves state .advance { state with
        dbPath := some state.healthGeneration, initializer := some .binding }
  | store (ready : state.initializer = some .starting) :
      Moves state .advance { state with
        embeddingSupervisor := some state.healthGeneration
        stored := Function.update state.stored state.healthGeneration true
        initializer := some (.identifying false) }
  | withdraw (call : CloseCall) (writes : CloseWrites) (next : Option CloseCall)
      (ready : state.initializer = some (.withdrawing call))
      (closes : Closes state call writes next) :
      Moves state .advance { state.write writes with
        initializer := some (next.elim .checking .withdrawing) }
  | checkCancelled (ready : state.initializer = some .checking)
      (cancelled : state.initializationCancelled = true) :
      Moves state .advance { state with initializer := some (.raised .cancelled) }
  | check (ready : state.initializer = some .checking) :
      Moves state .advance { state with initializer := some .publishing }
  | leave (ready : state.initializer = some .published) :
      Moves state .advance { state with initializer := some .finalizing }
  | capture (error : Raised) (ready : state.initializer = some (.raised error)) :
      Moves state .advance { state with
        initializer := some (.captured error state.embeddingSupervisor) }
  | abandon (error : Raised) (supervisor : Option Generation)
      (ready : state.initializer = some (.captured error supervisor)) :
      Moves state .advance { Lifecycle.abandon state error with
        initializer := some (.closing (.enter supervisor false)) }
  | close (call : CloseCall) (writes : CloseWrites) (next : Option CloseCall)
      (ready : state.initializer = some (.closing call))
      (closes : Closes state call writes next) :
      Moves state .advance { state.write writes with
        initializer := some (next.elim (.scrubbing .test) .closing) }
  | scrubTest (point : InitializePoint) (ready : state.initializer = some (.scrubbing .test))
      (next : point = .scrubbing .release ∨ point = .finalizing) :
      Moves state .advance { state with initializer := some point }
  | scrubRelease (ready : state.initializer = some (.scrubbing .release)) :
      Moves state .advance { state with
        scrubReferences := state.scrubReferences - 1
        initializer := some (.scrubbing .reset) }
  | scrubReset (ready : state.initializer = some (.scrubbing .reset)) :
      Moves state .advance { state with
        logScrubAcquired := none, initializer := some .finalizing }
  | finalize (ready : state.initializer = some .finalizing) :
      Moves state .advance { state with
        initializer := none, initializationCancelled := false }
  | bindReadOnly (ready : state.initializer = some .binding) :
      Moves state (.bind .readOnly) { state with initializer := some (.identifying true) }
  | bindUnavailable (ready : state.initializer = some .binding) :
      Moves state (.bind .unavailable) { state with
        embeddingSupervisor := none, initializer := some (.identifying false) }
  | bindClaimed (ready : state.initializer = some .binding) (unowned : state.owner = none) :
      Moves state (.bind .claimed) { state with
        owner := some state.healthGeneration, initializer := some .starting }
  | identify (readOnly identityReady : Bool)
      (ready : state.initializer = some (.identifying readOnly)) :
      Moves state (.identify identityReady) { state with
        embeddingIdentityReady := identityReady, initializer := some .checking }
  | identifyFails (ready : state.initializer = some (.identifying false)) :
      Moves state (.identify false) { state with
        embeddingIdentityReady := false
        initializer := some (.withdrawing (.enter state.embeddingSupervisor false)) }
  | publishCancelled (starts : Bool) (ready : state.initializer = some .publishing)
      (cancelled : state.initializationCancelled = true) :
      Moves state (.startSyncWorker starts) { state with
        initializer := some (.raised .cancelled) }
  | startFails (ready : state.initializer = some .publishing)
      (kept : state.initializationCancelled = false) :
      Moves state (.startSyncWorker false) { state with
        syncWorker := some state.healthGeneration
        initializer := some (.raised (.failed .initializationFailed "RuntimeError")) }
  | starts (ready : state.initializer = some .publishing)
      (kept : state.initializationCancelled = false) :
      Moves state (.startSyncWorker true) { state with
        syncWorker := some state.healthGeneration
        started := Function.update state.started (.sync state.healthGeneration) true
        alive := Function.update state.alive (.sync state.healthGeneration) true
        initializer := some .announcing }
  | announceCancelled (cron : CronState) (vectorUnavailable modelMissing : Bool)
      (ready : state.initializer = some .announcing)
      (closed : state.syncQueue = none ∨ state.shutdownStarted = true) :
      Moves state (.announce cron vectorUnavailable modelMissing) { state with
        initializer := some (.raised .cancelled) }
  | announce (cron : CronState) (vectorUnavailable modelMissing : Bool)
      (ready : state.initializer = some .announcing) (queue : state.syncQueue ≠ none)
      (clear : state.shutdownStarted = false) :
      Moves state (.announce cron vectorUnavailable modelMissing) { state with
        health := publishedHealth state cron vectorUnavailable modelMissing
        initializer := some .published }
  | raiseStarting (reason : HealthReason) (errorClass : String)
      (ready : state.initializer = some .starting) :
      Moves state (.raise reason errorClass)
        { state.setSupervisor state.healthGeneration
            { state.supervisors state.healthGeneration with closed := true } with
          initializer := some (.raised (.failed reason errorClass)) }
  | raise (reason : HealthReason) (errorClass : String)
      (ready : inBody state.initializer = true) :
      Moves state (.raise reason errorClass) { state with
        initializer := some (.raised (.failed reason errorClass)) }
  | shutdownIgnored (cleaner : Nat) : Moves state (.shutdown cleaner) state
  | cancel (cleaner : Nat) (unannounced : state.initializer ≠ some .announcing)
      (initializing : state.initializer ≠ none) (unpublished : state.syncWorker = none) :
      Moves state (.shutdown cleaner) { state with
        initializationCancelled := true
        shutdownStarted := true
        cancelledEarly := Function.update state.cancelledEarly state.healthGeneration
          (state.cancelledEarly state.healthGeneration ||
            !state.started (.sync state.healthGeneration)) }
  | retry (cleaner : Nat) (cleanup : Cleanup) (idle : state.cleaners cleaner = .idle)
      (flag : state.shutdownStarted = true)
      (pending : state.shutdownCleanupPending = some cleanup) :
      Moves state (.shutdown cleaner) (state.setCleaner cleaner (.scheduling cleanup))
  | signal (cleaner : Nat) (queue : Generation) (idle : state.cleaners cleaner = .idle)
      (unannounced : state.initializer ≠ some .announcing)
      (published : state.initializer = none ∨ state.syncWorker ≠ none)
      (current : state.syncQueue = some queue) (clear : state.shutdownStarted = false) :
      Moves state (.shutdown cleaner)
        { (state.setHealth .stopping .shutdownRequested).setCleaner cleaner
            (.signalled queue (state.prefetchThreads.map .prefetch)) with
          shutdownStarted := true }
  | readWorker (cleaner : Nat) (queue : Generation) (prefetchThreads : List Thread)
      (ready : state.cleaners cleaner = .signalled queue prefetchThreads) :
      Moves state (.clean cleaner)
        (state.setCleaner cleaner (.joining state.syncWorker queue prefetchThreads))
  | retain (cleaner : Nat) (cleanup : Cleanup)
      (ready : state.cleaners cleaner = .retaining cleanup) :
      Moves state (.clean cleaner)
        { (state.setHealth .stopping .workerTimeout).setCleaner cleaner
            (.scheduling cleanup) with
          shutdownCleanupPending := some cleanup }
  | defer (cleaner : Nat) (cleanup : Cleanup)
      (ready : state.cleaners cleaner = .scheduling cleanup) :
      Moves state (.clean cleaner) (state.setCleaner cleaner (.spawning cleanup))
  | exited (cleaner : Nat) (cleanup : Cleanup)
      (ready : state.cleaners cleaner = .scheduling cleanup ∨
        state.cleaners cleaner = .watching cleanup)
      (dead : cleanup.workers.any state.alive = false) :
      Moves state (.clean cleaner)
        (state.setCleaner cleaner (.clearing cleanup.worker cleanup.queue))
  | handOver (cleaner : Nat) (queue : Generation)
      (ready : state.cleaners cleaner = .spawned queue)
      (current : state.syncQueue = some queue) :
      Moves state (.clean cleaner)
        { state.setCleaner cleaner .idle with shutdownCleanupPending := none }
  | handOverStale (cleaner : Nat) (queue : Generation)
      (ready : state.cleaners cleaner = .spawned queue) :
      Moves state (.clean cleaner) (state.setCleaner cleaner .idle)
  | clearStale (cleaner : Nat) (worker : Option Generation) (queue : Generation)
      (ready : state.cleaners cleaner = .clearing worker queue) :
      Moves state (.clean cleaner) (state.setCleaner cleaner .idle)
  | clear (cleaner : Nat) (worker : Option Generation) (queue : Generation)
      (ready : state.cleaners cleaner = .clearing worker queue)
      (current : state.syncQueue = some queue) :
      Moves state (.clean cleaner)
        { (state.setHealth .stopping .embeddingShutdown).setCleaner cleaner
            (.closing queue (.enter state.embeddingSupervisor true)) with
          syncQueue := none
          shutdownCleanupPending := none
          syncWorker := none
          config := none
          dbPath := none
          embeddingIdentityReady := false
          prefetchThreads := []
          prefetchWorker := none
          clearings := Function.update state.clearings queue (state.clearings queue + 1) }
  | cleanerClose (cleaner : Nat) (queue : Generation) (call : CloseCall)
      (writes : CloseWrites) (next : Option CloseCall)
      (ready : state.cleaners cleaner = .closing queue call)
      (closes : Closes state call writes next) :
      Moves state (.clean cleaner) ((state.write writes).setCleaner cleaner
        (next.elim (.scrubbing queue .test) (.closing queue)))
  | cleanerTest (cleaner : Nat) (queue : Generation) (point : CleanerPoint)
      (ready : state.cleaners cleaner = .scrubbing queue .test)
      (next : point = .scrubbing queue .release ∨ point = .idle) :
      Moves state (.clean cleaner) (state.setCleaner cleaner point)
  | cleanerRelease (cleaner : Nat) (queue : Generation)
      (ready : state.cleaners cleaner = .scrubbing queue .release) :
      Moves state (.clean cleaner)
        { state.setCleaner cleaner (.scrubbing queue .reset) with
          scrubReferences := state.scrubReferences - 1 }
  | cleanerReset (cleaner : Nat) (queue : Generation)
      (ready : state.cleaners cleaner = .scrubbing queue .reset) :
      Moves state (.clean cleaner)
        { state.setCleaner cleaner .idle with logScrubAcquired := none }
  | joinRaises (cleaner : Nat) (seen : List Thread) (worker : Option Generation)
      (queue : Generation) (prefetchThreads : List Thread)
      (ready : state.cleaners cleaner = .joining worker queue prefetchThreads) :
      Moves state (.join cleaner seen) (state.setCleaner cleaner .idle)
  | joined (cleaner : Nat) (worker : Option Generation) (queue : Generation)
      (prefetchThreads : List Thread)
      (ready : state.cleaners cleaner = .joining worker queue prefetchThreads)
      (ran : ∀ generation, worker = some generation → state.started (.sync generation) = true)
      (dead : ∀ thread ∈ Lifecycle.joined worker prefetchThreads, state.alive thread = false) :
      Moves state (.join cleaner []) (state.setCleaner cleaner (.clearing worker queue))
  | timedOut (cleaner : Nat) (seen : List Thread) (worker : Option Generation)
      (queue : Generation) (prefetchThreads : List Thread)
      (ready : state.cleaners cleaner = .joining worker queue prefetchThreads)
      (ran : ∀ generation, worker = some generation → state.started (.sync generation) = true)
      (remaining : seen ≠ [])
      (member : seen ⊆ Lifecycle.joined worker prefetchThreads)
      (complete : ∀ thread ∈ Lifecycle.joined worker prefetchThreads,
        state.alive thread = true → thread ∈ seen) :
      Moves state (.join cleaner seen) (state.setCleaner cleaner
        (.retaining { worker := worker, queue := queue, workers := seen }))
  | spawnFails (cleaner : Nat) (cleanup : Cleanup)
      (ready : state.cleaners cleaner = .spawning cleanup) :
      Moves state (.spawn cleaner none) (state.setCleaner cleaner .idle)
  | spawn (cleaner slot : Nat) (cleanup : Cleanup)
      (ready : state.cleaners cleaner = .spawning cleanup)
      (idle : state.cleaners slot = .idle) :
      Moves state (.spawn cleaner (some slot))
        ((state.setCleaner slot (.watching cleanup)).setCleaner cleaner
          (.spawned cleanup.queue))
  | prefetchIgnored : Moves state .queuePrefetch state
  | prefetchStarts (config : state.config ≠ none) (quiet : state.initializer = none)
      (clear : state.shutdownStarted = false) :
      Moves state .queuePrefetch { state with
        prefetchWorker := some state.healthGeneration
        prefetchThreads := state.healthGeneration :: state.prefetchThreads
        started := Function.update state.started (.prefetch state.healthGeneration) true
        alive := Function.update state.alive (.prefetch state.healthGeneration) true }
  | prefetchLeaves (generation : Generation) (flag : state.shutdownStarted = true) :
      Moves state (.leavePrefetch generation) { state with
        prefetchThreads := state.prefetchThreads.erase generation
        prefetchWorker :=
          if state.prefetchWorker = some generation then none else state.prefetchWorker }
  | exit (thread : Thread) :
      Moves state (.exit thread) { state with
        alive := Function.update state.alive thread false }
  | reportIgnored (generation : Generation) (reason : HealthReason)
      (fallback : Option Fallback) (error : Option String) :
      Moves state (.report generation reason fallback error) state
  | report (reason : HealthReason) (fallback : Option Fallback) (error : Option String)
      (clear : state.shutdownStarted = false) (working : state.health.state.closing = false) :
      Moves state (.report state.healthGeneration reason fallback error) { state with
        health := state.health.set .degraded (some reason) fallback none error }
  | dropOwner (supervisor : Generation) (owner : state.owner = some supervisor)
      (closed : (state.supervisors supervisor).closed = true) :
      Moves state (.dropOwner supervisor)
        { state.setSupervisor supervisor
            { state.supervisors supervisor with releasing := true } with
          owner := none }
  | takeCallbacks (supervisor : Generation)
      (releasing : (state.supervisors supervisor).releasing = true) :
      Moves state (.takeCallbacks supervisor) (state.setSupervisor supervisor
        { state.supervisors supervisor with
          releasing := false
          ownerReleased := true
          closeCallbacks := []
          runningCallbacks := (state.supervisors supervisor).closeCallbacks })
  | runCallback (supervisor : Generation) (markStopped : Bool) (rest : List Bool)
      (writes : CloseWrites)
      (running : (state.supervisors supervisor).runningCallbacks = markStopped :: rest)
      (finishes : Finishes
        (state.setSupervisor supervisor
          { state.supervisors supervisor with runningCallbacks := rest })
        (some supervisor) markStopped writes) :
      Moves state (.runCallback supervisor) (state.write writes)

section Inversion

variable {state following : State}

theorem initialize_provider_moves :
    Moves state .initializeProvider (initializeProvider state) := by
  unfold initializeProvider
  split
  · exact .deferred
  · rename_i free
    simp only [not_or, not_not] at free
    exact .admitted free.1 free.2.1 (by simpa using free.2.2)

theorem withdraw_moves {call : CloseCall}
    (ready : state.initializer = some (.withdrawing call)) :
    Moves state .advance { (call.advance state).1 with
      initializer := some ((call.advance state).2.elim .checking .withdrawing) } := by
  obtain ⟨writes, same, closes⟩ := call.advance_closes state
  rw [same]
  exact .withdraw call writes _ ready closes

theorem close_moves {call : CloseCall}
    (ready : state.initializer = some (.closing call)) :
    Moves state .advance { (call.advance state).1 with
      initializer := some ((call.advance state).2.elim (.scrubbing .test) .closing) } := by
  obtain ⟨writes, same, closes⟩ := call.advance_closes state
  rw [same]
  exact .close call writes _ ready closes

theorem scrub_moves {point : ScrubPoint}
    (ready : state.initializer = some (.scrubbing point)) :
    Moves state .advance { (point.advance state).1 with
      initializer := some ((point.advance state).2.elim .finalizing .scrubbing) } := by
  cases point with
  | test =>
      refine .scrubTest _ ready ?_
      simp only [ScrubPoint.advance]
      split
      · exact .inl rfl
      · exact .inr rfl
  | release => exact .scrubRelease ready
  | reset => exact .scrubReset ready

theorem advance_moves (taken : advance state = some following) :
    Moves state .advance following := by
  unfold advance at taken
  split at taken
  all_goals cases taken
  all_goals rename_i ready
  · exact .queue ready
  · exact .resume ready
  · exact .acquire ready
  · exact .recordScrub ready
  · exact .load ready
  · exact .resolve ready
  · exact .store ready
  · exact withdraw_moves ready
  · split
    · rename_i cancelled
      exact .checkCancelled ready cancelled
    · exact .check ready
  · exact .leave ready
  · exact .capture _ ready
  · exact .abandon _ _ ready
  · exact close_moves ready
  · exact scrub_moves ready
  · exact .finalize ready

theorem bind_moves {outcome : Binding} (taken : bind state outcome = some following) :
    Moves state (.bind outcome) following := by
  obtain ⟨ready, taken⟩ := Option.ite_none_right_eq_some.mp taken
  cases outcome with
  | readOnly =>
      obtain rfl := Option.some.inj taken
      exact .bindReadOnly ready
  | unavailable =>
      obtain rfl := Option.some.inj taken
      exact .bindUnavailable ready
  | claimed =>
      obtain ⟨unowned, taken⟩ := Option.ite_none_right_eq_some.mp taken
      obtain rfl := Option.some.inj taken
      exact .bindClaimed ready unowned

theorem identify_moves {ready : Bool} (taken : identify state ready = some following) :
    Moves state (.identify ready) following := by
  unfold identify at taken
  split at taken
  · rename_i readOnly point
    split at taken
    · cases taken
    · obtain rfl := Option.some.inj taken
      split
      · exact .identify readOnly ready point
      · rename_i unresolved
        simp only [Bool.or_eq_true, not_or, Bool.not_eq_true] at unresolved
        obtain ⟨rfl, rfl⟩ := unresolved
        exact .identifyFails point
  · cases taken

theorem start_sync_worker_moves {starts : Bool}
    (taken : startSyncWorker state starts = some following) :
    Moves state (.startSyncWorker starts) following := by
  obtain ⟨ready, taken⟩ := Option.ite_none_right_eq_some.mp taken
  split at taken
  · rename_i cancelled
    obtain rfl := Option.some.inj taken
    exact .publishCancelled starts ready cancelled
  · rename_i kept
    cases starts with
    | false =>
        obtain rfl := Option.some.inj taken
        exact .startFails ready (by simpa using kept)
    | true =>
        obtain rfl := Option.some.inj taken
        exact .starts ready (by simpa using kept)

theorem announce_moves {cron : CronState} {vectorUnavailable modelMissing : Bool}
    (taken : announce state cron vectorUnavailable modelMissing = some following) :
    Moves state (.announce cron vectorUnavailable modelMissing) following := by
  obtain ⟨ready, taken⟩ := Option.ite_none_right_eq_some.mp taken
  split at taken
  · rename_i closed
    obtain rfl := Option.some.inj taken
    exact .announceCancelled _ _ _ ready closed
  · rename_i opened
    obtain rfl := Option.some.inj taken
    rw [not_or] at opened
    exact .announce _ _ _ ready opened.1 (by simpa using opened.2)

theorem raise_moves {reason : HealthReason} {errorClass : String}
    (taken : raise state reason errorClass = some following) :
    Moves state (.raise reason errorClass) following := by
  unfold raise at taken
  split at taken
  · rename_i ready
    obtain rfl := Option.some.inj taken
    exact .raiseStarting _ _ ready
  · obtain ⟨ready, taken⟩ := Option.ite_none_right_eq_some.mp taken
    obtain rfl := Option.some.inj taken
    exact .raise _ _ ready

theorem shutdown_moves {cleaner : Nat} (taken : shutdown state cleaner = some following) :
    Moves state (.shutdown cleaner) following := by
  unfold shutdown at taken
  split at taken
  · cases taken
  · rename_i available
    rw [not_or, not_not] at available
    split at taken
    · rename_i early
      obtain rfl := Option.some.inj taken
      exact .cancel cleaner available.2 early.1 early.2
    · rename_i published
      split at taken
      · obtain rfl := Option.some.inj taken
        exact .shutdownIgnored cleaner
      · rename_i queue current
        split at taken
        · rename_i flag
          split at taken
          · obtain rfl := Option.some.inj taken
            exact .shutdownIgnored cleaner
          · rename_i cleanup pending
            obtain rfl := Option.some.inj taken
            exact .retry cleaner cleanup available.1 flag pending
        · rename_i clear
          obtain rfl := Option.some.inj taken
          exact .signal cleaner queue available.1 available.2 (by tauto) current
            (by simpa using clear)

theorem clear_runtime_state_moves {cleaner : Nat} {worker : Option Generation}
    {queue : Generation} (ready : state.cleaners cleaner = .clearing worker queue) :
    Moves state (.clean cleaner) (clearRuntimeState state cleaner worker queue) := by
  unfold clearRuntimeState
  split
  · exact .clearStale cleaner worker queue ready
  · rename_i current
    rw [not_or, not_not] at current
    exact .clear cleaner worker queue ready current.1

theorem cleaner_close_moves {cleaner : Nat} {queue : Generation} {call : CloseCall}
    (ready : state.cleaners cleaner = .closing queue call) :
    Moves state (.clean cleaner) ((call.advance state).1.setCleaner cleaner
      ((call.advance state).2.elim (.scrubbing queue .test) (.closing queue))) := by
  obtain ⟨writes, same, closes⟩ := call.advance_closes state
  rw [same]
  exact .cleanerClose cleaner queue call writes _ ready closes

theorem cleaner_scrub_moves {cleaner : Nat} {queue : Generation} {point : ScrubPoint}
    (ready : state.cleaners cleaner = .scrubbing queue point) :
    Moves state (.clean cleaner) ((point.advance state).1.setCleaner cleaner
      ((point.advance state).2.elim .idle (.scrubbing queue))) := by
  cases point with
  | test =>
      refine .cleanerTest cleaner queue _ ready ?_
      simp only [ScrubPoint.advance]
      split
      · exact .inl rfl
      · exact .inr rfl
  | release => exact .cleanerRelease cleaner queue ready
  | reset => exact .cleanerReset cleaner queue ready

theorem clean_moves {cleaner : Nat} (taken : clean state cleaner = some following) :
    Moves state (.clean cleaner) following := by
  unfold clean at taken
  split at taken
  · rename_i ready
    obtain rfl := Option.some.inj taken
    exact .readWorker cleaner _ _ ready
  · rename_i ready
    obtain rfl := Option.some.inj taken
    exact .retain cleaner _ ready
  · rename_i cleanup ready
    obtain rfl := Option.some.inj taken
    split
    · exact .defer cleaner cleanup ready
    · rename_i dead
      exact .exited cleaner cleanup (.inl ready) (by simpa using dead)
  · rename_i queue ready
    split at taken
    · rename_i current
      obtain rfl := Option.some.inj taken
      exact .handOver cleaner queue ready current
    · obtain rfl := Option.some.inj taken
      exact .handOverStale cleaner queue ready
  · rename_i cleanup ready
    split at taken
    · cases taken
    · rename_i dead
      obtain rfl := Option.some.inj taken
      exact .exited cleaner cleanup (.inr ready) (by simpa using dead)
  · rename_i ready
    obtain rfl := Option.some.inj taken
    exact clear_runtime_state_moves ready
  · rename_i ready
    obtain rfl := Option.some.inj taken
    exact cleaner_close_moves ready
  · rename_i ready
    obtain rfl := Option.some.inj taken
    exact cleaner_scrub_moves ready
  · cases taken

theorem join_moves {cleaner : Nat} {seen : List Thread}
    (taken : join state cleaner seen = some following) :
    Moves state (.join cleaner seen) following := by
  unfold join at taken
  split at taken
  · rename_i worker queue prefetchThreads ready
    split at taken
    · obtain rfl := Option.some.inj taken
      exact .joinRaises cleaner seen _ _ _ ready
    · rename_i started
      obtain ⟨⟨member, complete⟩, taken⟩ := Option.ite_none_right_eq_some.mp taken
      obtain rfl := Option.some.inj taken
      have ran : ∀ generation, worker = some generation →
          state.started (.sync generation) = true := by
        rintro generation rfl
        simpa using started
      split
      · rename_i nobody
        subst nobody
        refine .joined cleaner _ _ _ ready ran fun thread present => ?_
        by_contra living
        exact List.not_mem_nil (complete thread present (by simpa using living))
      · rename_i somebody
        exact .timedOut cleaner seen _ _ _ ready ran somebody member complete
  · cases taken

theorem spawn_moves {cleaner : Nat} {watcher : Option Nat}
    (taken : spawn state cleaner watcher = some following) :
    Moves state (.spawn cleaner watcher) following := by
  unfold spawn at taken
  split at taken
  · rename_i ready
    obtain rfl := Option.some.inj taken
    exact .spawnFails cleaner _ ready
  · rename_i ready
    obtain ⟨idle, taken⟩ := Option.ite_none_right_eq_some.mp taken
    obtain rfl := Option.some.inj taken
    exact .spawn cleaner _ _ ready idle
  · cases taken

theorem queue_prefetch_moves : Moves state .queuePrefetch (queuePrefetch state) := by
  unfold queuePrefetch
  split
  · exact .prefetchIgnored
  · rename_i free
    simp only [not_or, not_not] at free
    exact .prefetchStarts free.1 free.2.2.1 (by simpa using free.2.2.2.1)

theorem run_callback_moves {supervisor : Generation}
    (taken : runCallback state supervisor = some following) :
    Moves state (.runCallback supervisor) following := by
  unfold runCallback at taken
  split at taken
  · cases taken
  · rename_i markStopped rest running
    obtain rfl := Option.some.inj taken
    obtain ⟨writes, same, finishes⟩ := finish_after_set state supervisor
      { state.supervisors supervisor with runningCallbacks := rest } markStopped
    rw [same]
    exact .runCallback supervisor markStopped rest writes running finishes

theorem step_moves {action : Action} (taken : step state action = some following) :
    Moves state action following := by
  cases action with
  | initializeProvider =>
      obtain rfl := Option.some.inj taken
      exact initialize_provider_moves
  | advance => exact advance_moves taken
  | bind outcome => exact bind_moves taken
  | identify ready => exact identify_moves taken
  | startSyncWorker starts => exact start_sync_worker_moves taken
  | announce cron vectorUnavailable modelMissing => exact announce_moves taken
  | raise reason errorClass => exact raise_moves taken
  | shutdown cleaner => exact shutdown_moves taken
  | clean cleaner => exact clean_moves taken
  | join cleaner seen => exact join_moves taken
  | spawn cleaner watcher => exact spawn_moves taken
  | queuePrefetch =>
      obtain rfl := Option.some.inj taken
      exact queue_prefetch_moves
  | leavePrefetch generation =>
      obtain ⟨⟨_, _, flag⟩, taken⟩ := Option.ite_none_right_eq_some.mp taken
      obtain rfl := Option.some.inj taken
      exact .prefetchLeaves generation flag
  | exit thread =>
      obtain ⟨_, taken⟩ := Option.ite_none_right_eq_some.mp taken
      obtain rfl := Option.some.inj taken
      exact .exit thread
  | report generation reason fallback error =>
      obtain rfl := Option.some.inj taken
      unfold report
      split
      · rename_i current
        obtain ⟨rfl, clear, working⟩ := current
        exact .report reason fallback error clear working
      · exact .reportIgnored generation reason fallback error
  | dropOwner supervisor =>
      obtain ⟨⟨owner, closed⟩, taken⟩ := Option.ite_none_right_eq_some.mp taken
      obtain rfl := Option.some.inj taken
      exact .dropOwner supervisor owner closed
  | takeCallbacks supervisor =>
      obtain ⟨releasing, taken⟩ := Option.ite_none_right_eq_some.mp taken
      obtain rfl := Option.some.inj taken
      exact .takeCallbacks supervisor releasing
  | runCallback supervisor => exact run_callback_moves taken

end Inversion

end HermesCashew.Lifecycle
