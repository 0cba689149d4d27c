import HermesCashew.OutcomeLedger
import HermesCashew.Transition

/-!
# The sync queue of one provider generation

`sync_turn`, `shutdown` and `_worker_loop` share the bounded queue, the flag
`_shutdown_started` and the outcome ledger of one generation. A step of the
system is one operation on that shared state. The body of `sync_turn` runs under
`_sync_state_lock`, so at most one call is inside it, but the worker takes items
without the lock and may therefore run between any two of its statements. The
timed-out `q.get` and the test of the flag that follows it are two steps.
-/

namespace HermesCashew.SyncQueue

set_option autoImplicit false

/-- `queue.Queue(maxsize=16)`. -/
def maxsize : Nat := 16

/-- `_BATCH_SIZE`. -/
def batchSize : Nat := 8

/-- A value passed to `sync_turn`. The method does not check its arguments, so
`len` of one may raise `TypeError`. -/
inductive Content where
  | str (text : String)
  | sized (length : Nat)
  | unsized
  deriving DecidableEq, Repr

def Content.len : Content → Option Nat
  | .str text => some text.length
  | .sized length => some length
  | .unsized => none

/-- The queued tuple. Tuples are objects, so two turns of equal content stay
distinct: `ticket` numbers the calls of `sync_turn` that passed its guard. -/
structure Turn where
  ticket : Nat
  user : Content
  assistant : Content
  session : String
  deriving DecidableEq, Repr

/-- What the queue holds: turns, and the `_SHUTDOWN` sentinel. -/
inductive Item where
  | turn (turn : Turn)
  | shutdown
  deriving DecidableEq, Repr

def turnsOf : List Item → List Turn
  | [] => []
  | .turn turn :: rest => turn :: turnsOf rest
  | .shutdown :: rest => turnsOf rest

/-- How one call of `_drain_once` ends: `True`, `False`, a
`_PreAdmissionRejectedError`, or another `Exception`. In the last case
`upstream` is the `partial` field of an `_OpaqueUpstreamError`. -/
inductive DrainOutcome where
  | completed
  | dropped
  | rejected
  | raised (upstream : Option Bool)
  deriving DecidableEq, Repr

/-- The ledger call made by `_finish_worker_turn`, by the rejection handler or
by `_fail_worker_turn`. -/
def DrainOutcome.ledgerCall : DrainOutcome → LedgerCall
  | .completed => .complete
  | .dropped => .dropInFlight
  | .rejected => .rejectInFlight
  | .raised upstream => .fail (upstream == some true) (upstream == some false)

/-- Where the `sync_turn` call stands that holds the state lock. -/
inductive Producer where
  | free
  | putting (turn : Turn)
  | evicting (turn : Turn)
  | dropping (turn : Turn)
  | retrying (turn : Turn)
  | admitting (turn : Turn)
  deriving DecidableEq, Repr

/-- Where `_worker_loop` stands. `testing` lies between the `queue.Empty` of a
timed-out `q.get` and the test of `_shutdown_started`. -/
inductive Worker where
  | polling
  | testing
  | collecting (items : List Item) (left : Nat)
  | draining (items : List Item)
  | processing (turn : Turn) (rest : List Item)
  | settling (turn : Turn) (rest : List Item) (outcome : DrainOutcome)
  | returned
  | killed (rest : List Item)
  deriving DecidableEq, Repr

/-- Where the `shutdown` call stands. -/
inductive Closer where
  | absent
  | posting
  | waiting
  | joining
  | cleared
  deriving DecidableEq, Repr

/-- What `initialize` fixed for the generation. -/
structure Config where
  writeEnabled : Bool
  identityReady : Bool
  autoExtraction : Bool
  experimentalBatchSync : Bool
  sessionId : String
  deriving DecidableEq, Repr

structure State where
  config : Config
  queue : List Item := []
  ledger : OutcomeLedger := {}
  initializing : Bool := true
  shutdownStarted : Bool := false
  /-- `_sync_queue` and `_config` are not `None`. -/
  attached : Bool := true
  droppedTurnCount : Nat := 0
  producer : Producer := .free
  worker : Worker := .polling
  closer : Closer := .absent
  /-- History: the next ticket, the turns put, the turns counted by `admit`,
  each item evicted with the queue behind it, the turns handed to `_drain_once`,
  the ledger calls, and how many items the worker took and marked done. -/
  nextTicket : Nat := 0
  entered : List Turn := []
  admitted : List Turn := []
  evictions : List (Item × List Item) := []
  handed : List Turn := []
  journal : List LedgerCall := []
  taken : Nat := 0
  taskDone : Nat := 0
  deriving Repr

/-- The worker has just been published by `initialize`. -/
def start (config : Config) : State := { config }

def State.record (state : State) (call : LedgerCall) : State :=
  { state with
    ledger := call.apply state.ledger
    journal := state.journal ++ [call] }

/-- The guard at the top of `sync_turn`. -/
def State.refuses (state : State) : Bool :=
  !state.config.writeEnabled || !state.config.identityReady || !state.attached ||
    state.initializing || state.shutdownStarted || !state.config.autoExtraction

/-- `sync_turn` takes the state lock and passes or fails its guard. -/
def syncTurn (state : State) (user assistant : Content) (session : String) :
    Option State :=
  if state.producer = .free then
    if state.refuses then
      if state.attached && (state.initializing || state.shutdownStarted) then
        some (state.record .reject)
      else some state
    else
      some { state with
        nextTicket := state.nextTicket + 1
        producer := .putting
          { ticket := state.nextTicket
            user := user
            assistant := assistant
            session := if session = "" then state.config.sessionId else session } }
  else none

/-- A successful `q.put_nowait(turn)`. -/
def State.put (state : State) (turn : Turn) : State :=
  { state with
    queue := state.queue ++ [.turn turn]
    entered := state.entered ++ [turn]
    producer := .admitting turn }

/-- The next statement of the `sync_turn` call inside the lock. -/
def producerStep (state : State) : Option State :=
  match state.producer with
  | .free => none
  | .putting turn =>
      if state.queue.length < maxsize then some (state.put turn)
      else some { state with producer := .evicting turn }
  | .evicting turn =>
      match state.queue with
      -- The worker drained the queue between `Full` and `get_nowait`.
      | [] => some { state with producer := .retrying turn }
      | item :: rest =>
          some { state with
            queue := rest
            evictions := state.evictions ++ [(item, rest)]
            producer := .dropping turn }
  | .dropping turn =>
      some { state.record .dropPending with
        droppedTurnCount := state.droppedTurnCount + 1
        producer := .retrying turn }
  | .retrying turn =>
      if state.queue.length < maxsize then some (state.put turn)
      else some { state.record .reject with producer := .free }
  | .admitting turn =>
      some { state.record .admitWork with
        admitted := state.admitted ++ [turn]
        producer := .free }

/-- The locked decision of `shutdown`, on a published worker. -/
def shutdown (state : State) : Option State :=
  if state.producer = .free ∧ state.closer = .absent then
    some { state with shutdownStarted := true, closer := .posting }
  else none

/-- `put_nowait(_SHUTDOWN)`, then the blocking `put` once there is room. -/
def postSentinel (state : State) : Option State :=
  match state.closer with
  | .posting =>
      if state.queue.length < maxsize then
        some { state with queue := state.queue ++ [.shutdown], closer := .joining }
      else some { state with closer := .waiting }
  | .waiting =>
      if state.queue.length < maxsize then
        some { state with queue := state.queue ++ [.shutdown], closer := .joining }
      else none
  | _ => none

/-- The blocking `put` times out: "could not post sentinel". -/
def giveUp (state : State) : Option State :=
  if state.closer = .waiting ∧ maxsize ≤ state.queue.length then
    some { state with closer := .joining }
  else none

def Worker.ended : Worker → Bool
  | .returned | .killed _ => true
  | _ => false

/-- `_clear_runtime_state`, by `shutdown` or its deferred cleanup, after the
worker thread has ended. -/
def clearRuntimeState (state : State) : Option State :=
  if state.closer = .joining ∧ state.producer = .free ∧ state.worker.ended then
    some { state with attached := false, closer := .cleared }
  else none

/-- The worker takes the oldest item, by `q.get` or by the `get_nowait` of a
batch. -/
def workerGet (state : State) : Option State :=
  match state.worker, state.queue with
  | .polling, .shutdown :: rest =>
      some { state with
        queue := rest
        taken := state.taken + 1
        taskDone := state.taskDone + 1
        worker := .returned }
  | .polling, .turn turn :: rest =>
      some { state with
        queue := rest
        taken := state.taken + 1
        worker :=
          if state.config.experimentalBatchSync then
            .collecting [.turn turn] (batchSize - 1)
          else .draining [.turn turn] }
  | .collecting items (left + 1), item :: rest =>
      some { state with
        queue := rest
        taken := state.taken + 1
        worker :=
          if item = .shutdown then .draining (items ++ [item])
          else .collecting (items ++ [item]) left }
  | _, _ => none

/-- `queue.Empty`: from the timed-out `q.get`, or from the `get_nowait` that
ends a batch. -/
def workerEmpty (state : State) : Option State :=
  match state.worker, state.queue with
  | .polling, [] => some { state with worker := .testing }
  | .collecting items (_ + 1), [] => some { state with worker := .draining items }
  | _, _ => none

/-- The next statement of `_worker_loop` that does not touch the queue. The
`outcome` is what `_drain_once` does with the turn, when it is called. -/
def workerStep (state : State) (outcome : DrainOutcome) : Option State :=
  match state.worker with
  | .testing =>
      some { state with
        worker := if state.shutdownStarted then .returned else .polling }
  | .collecting items 0 => some { state with worker := .draining items }
  | .draining [] => some { state with worker := .polling }
  | .draining (.shutdown :: _) =>
      some { state with taskDone := state.taskDone + 1, worker := .returned }
  | .draining (.turn turn :: rest) =>
      if state.producer = .free then
        some { state.record .start with worker := .processing turn rest }
      else none
  | .processing turn rest =>
      -- `span.set_attribute("input_length", len(turn[0]))` comes first.
      if turn.user.len.isSome then
        some { state with
          handed := state.handed ++ [turn]
          worker := .settling turn rest outcome }
      else some { state with worker := .settling turn rest (.raised none) }
  | .settling turn rest result =>
      if state.producer = .free then
        some { state.record result.ledgerCall with
          taskDone := state.taskDone + 1
          worker :=
            match result, turn.user.len with
            -- The handler evaluates `len(turn[0])` again and raises itself.
            | .raised _, none => .killed rest
            | _, _ => .draining rest }
      else none
  | _ => none

inductive Action where
  | finishInitialization
  | syncTurn (user assistant : Content) (session : String)
  | producer
  | shutdown
  | postSentinel
  | giveUp
  | clearRuntimeState
  | get
  | empty
  | worker (outcome : DrainOutcome)
  deriving DecidableEq, Repr

def step (state : State) : Action → Option State
  | .finishInitialization => some { state with initializing := false }
  | .syncTurn user assistant session => SyncQueue.syncTurn state user assistant session
  | .producer => producerStep state
  | .shutdown => SyncQueue.shutdown state
  | .postSentinel => SyncQueue.postSentinel state
  | .giveUp => SyncQueue.giveUp state
  | .clearRuntimeState => SyncQueue.clearRuntimeState state
  | .get => workerGet state
  | .empty => workerEmpty state
  | .worker outcome => workerStep state outcome

/-! ## What the worker holds -/

/-- Items taken from the queue whose turn has not been started. -/
def Worker.items : Worker → List Item
  | .collecting items _ | .draining items => items
  | .processing _ rest | .settling _ rest _ | .killed rest => rest
  | _ => []

def State.unstarted (state : State) : List Turn := turnsOf state.worker.items

def State.outstanding (state : State) : List Item :=
  state.worker.items ++ state.queue

/-- The started turn that has not been handed to `_drain_once`. -/
def Worker.inHand : Worker → List Turn
  | .processing turn _ => [turn]
  | .settling turn _ _ => if turn.user.len.isSome then [] else [turn]
  | _ => []

/-- A turn is between `start()` and its outcome. -/
def Worker.busy : Worker → Nat
  | .processing _ _ | .settling _ _ _ => 1
  | _ => 0

def State.evicted (state : State) : List Turn :=
  turnsOf (state.evictions.map Prod.fst)

@[simp] theorem turns_of_nil : turnsOf [] = [] := rfl

@[simp] theorem turns_of_turn (turn : Turn) (rest : List Item) :
    turnsOf (.turn turn :: rest) = turn :: turnsOf rest := rfl

@[simp] theorem turns_of_shutdown (rest : List Item) :
    turnsOf (.shutdown :: rest) = turnsOf rest := rfl

@[simp] theorem turns_of_append (front back : List Item) :
    turnsOf (front ++ back) = turnsOf front ++ turnsOf back := by
  induction front with
  | nil => rfl
  | cons item rest ih => cases item <;> simp [ih]

/-! ## One step, case by case -/

/-- Everything a step can do, with the guard of each branch. The invariants of
the following modules are case analyses over this relation. -/
inductive Moves (state : State) : Action → State → Prop where
  | finishInitialization : Moves state .finishInitialization { state with initializing := false }
  | refusedSilently (user assistant : Content) (session : String) :
      Moves state (.syncTurn user assistant session) state
  | refused (user assistant : Content) (session : String)
      (free : state.producer = .free) :
      Moves state (.syncTurn user assistant session) (state.record .reject)
  | enter (user assistant : Content) (session : String) (turn : Turn)
      (free : state.producer = .free)
      (accepts : state.refuses = false) (ticket : turn.ticket = state.nextTicket) :
      Moves state (.syncTurn user assistant session) { state with
        nextTicket := state.nextTicket + 1, producer := .putting turn }
  | put (turn : Turn)
      (ready : state.producer = .putting turn ∨ state.producer = .retrying turn) :
      Moves state .producer (state.put turn)
  | full (turn : Turn) (ready : state.producer = .putting turn) :
      Moves state .producer { state with producer := .evicting turn }
  | drained (turn : Turn) (ready : state.producer = .evicting turn) :
      Moves state .producer { state with producer := .retrying turn }
  | evict (turn : Turn) (item : Item) (rest : List Item)
      (ready : state.producer = .evicting turn) (queue : state.queue = item :: rest) :
      Moves state .producer { state with
        queue := rest
        evictions := state.evictions ++ [(item, rest)]
        producer := .dropping turn }
  | drop (turn : Turn) (ready : state.producer = .dropping turn) :
      Moves state .producer { state.record .dropPending with
        droppedTurnCount := state.droppedTurnCount + 1
        producer := .retrying turn }
  | overflow (turn : Turn) (ready : state.producer = .retrying turn)
      (full : maxsize ≤ state.queue.length) :
      Moves state .producer { state.record .reject with producer := .free }
  | admitTurn (turn : Turn) (ready : state.producer = .admitting turn) :
      Moves state .producer { state.record .admitWork with
        admitted := state.admitted ++ [turn]
        producer := .free }
  | shutdown (free : state.producer = .free) (absent : state.closer = .absent) :
      Moves state .shutdown { state with shutdownStarted := true, closer := .posting }
  | post (ready : state.closer = .posting ∨ state.closer = .waiting) :
      Moves state .postSentinel { state with
        queue := state.queue ++ [.shutdown], closer := .joining }
  | wait (ready : state.closer = .posting) :
      Moves state .postSentinel { state with closer := .waiting }
  | giveUp (ready : state.closer = .waiting) :
      Moves state .giveUp { state with closer := .joining }
  | clear (ready : state.closer = .joining) (free : state.producer = .free)
      (ended : state.worker.ended = true) :
      Moves state .clearRuntimeState { state with attached := false, closer := .cleared }
  | takeSentinel (rest : List Item) (ready : state.worker = .polling)
      (queue : state.queue = .shutdown :: rest) :
      Moves state .get { state with
        queue := rest
        taken := state.taken + 1
        taskDone := state.taskDone + 1
        worker := .returned }
  | takeTurn (turn : Turn) (rest : List Item) (worker : Worker)
      (ready : state.worker = .polling) (queue : state.queue = .turn turn :: rest)
      (next : worker = .draining [.turn turn] ∨
        worker = .collecting [.turn turn] (batchSize - 1)) :
      Moves state .get { state with
        queue := rest, taken := state.taken + 1, worker := worker }
  | collectSentinel (items rest : List Item) (left : Nat)
      (ready : state.worker = .collecting items (left + 1))
      (queue : state.queue = .shutdown :: rest) :
      Moves state .get { state with
        queue := rest
        taken := state.taken + 1
        worker := .draining (items ++ [.shutdown]) }
  | collectTurn (items rest : List Item) (left : Nat) (turn : Turn)
      (ready : state.worker = .collecting items (left + 1))
      (queue : state.queue = .turn turn :: rest) :
      Moves state .get { state with
        queue := rest
        taken := state.taken + 1
        worker := .collecting (items ++ [.turn turn]) left }
  | empty (ready : state.worker = .polling) (queue : state.queue = []) :
      Moves state .empty { state with worker := .testing }
  | endBatch (action : Action) (items : List Item) (left : Nat)
      (ready : state.worker = .collecting items left) :
      Moves state action { state with worker := .draining items }
  | testFlag (outcome : DrainOutcome) (ready : state.worker = .testing) :
      Moves state (.worker outcome) { state with
        worker := if state.shutdownStarted then .returned else .polling }
  | loop (outcome : DrainOutcome) (ready : state.worker = .draining []) :
      Moves state (.worker outcome) { state with worker := .polling }
  | exitSentinel (outcome : DrainOutcome) (rest : List Item)
      (ready : state.worker = .draining (.shutdown :: rest)) :
      Moves state (.worker outcome) { state with
        taskDone := state.taskDone + 1, worker := .returned }
  | startTurn (outcome : DrainOutcome) (turn : Turn) (rest : List Item)
      (free : state.producer = .free)
      (ready : state.worker = .draining (.turn turn :: rest)) :
      Moves state (.worker outcome) { state.record .start with worker := .processing turn rest }
  | hand (turn : Turn) (rest : List Item) (outcome : DrainOutcome)
      (ready : state.worker = .processing turn rest)
      (sized : turn.user.len.isSome = true) :
      Moves state (.worker outcome) { state with
        handed := state.handed ++ [turn]
        worker := .settling turn rest outcome }
  | lengthFails (outcome : DrainOutcome) (turn : Turn) (rest : List Item)
      (ready : state.worker = .processing turn rest)
      (unsized : turn.user.len = none) :
      Moves state (.worker outcome) { state with worker := .settling turn rest (.raised none) }
  | settle (unused : DrainOutcome) (turn : Turn) (rest : List Item) (outcome : DrainOutcome)
      (free : state.producer = .free)
      (ready : state.worker = .settling turn rest outcome)
      (sized : turn.user.len.isSome = true) :
      Moves state (.worker unused) { state.record outcome.ledgerCall with
        taskDone := state.taskDone + 1, worker := .draining rest }
  | settleUnsized (unused : DrainOutcome) (turn : Turn) (rest : List Item) (outcome : DrainOutcome)
      (worker : Worker) (free : state.producer = .free)
      (ready : state.worker = .settling turn rest outcome)
      (unsized : turn.user.len = none)
      (next : worker = if outcome matches .raised _ then .killed rest else .draining rest) :
      Moves state (.worker unused) { state.record outcome.ledgerCall with
        taskDone := state.taskDone + 1, worker := worker }

theorem sync_turn_moves {state following : State} {user assistant : Content}
    {session : String}
    (taken : syncTurn state user assistant session = some following) :
    Moves state (.syncTurn user assistant session) following := by
  unfold syncTurn at taken
  split at taken
  · rename_i free
    split at taken
    · split at taken
      · obtain rfl := Option.some.inj taken
        exact .refused _ _ _ free
      · obtain rfl := Option.some.inj taken
        exact .refusedSilently _ _ _
    · rename_i accepts
      obtain rfl := Option.some.inj taken
      exact .enter _ _ _ _ free (by simpa using accepts) rfl
  · cases taken

theorem producer_step_moves {state following : State}
    (taken : producerStep state = some following) : Moves state .producer following := by
  unfold producerStep at taken
  split at taken
  · cases taken
  · rename_i turn ready
    split at taken
    · obtain rfl := Option.some.inj taken
      exact .put turn (.inl ready)
    · obtain rfl := Option.some.inj taken
      exact .full turn ready
  · rename_i turn ready
    split at taken
    · obtain rfl := Option.some.inj taken
      exact .drained turn ready
    · rename_i item rest queue
      obtain rfl := Option.some.inj taken
      exact .evict turn item rest ready queue
  · rename_i turn ready
    obtain rfl := Option.some.inj taken
    exact .drop turn ready
  · rename_i turn ready
    split at taken
    · obtain rfl := Option.some.inj taken
      exact .put turn (.inr ready)
    · rename_i full
      obtain rfl := Option.some.inj taken
      exact .overflow turn ready (Nat.le_of_not_lt full)
  · rename_i turn ready
    obtain rfl := Option.some.inj taken
    exact .admitTurn turn ready

theorem post_sentinel_moves {state following : State}
    (taken : postSentinel state = some following) :
    Moves state .postSentinel following := by
  unfold postSentinel at taken
  split at taken
  · rename_i ready
    split at taken
    · obtain rfl := Option.some.inj taken
      exact .post (.inl ready)
    · obtain rfl := Option.some.inj taken
      exact .wait ready
  · rename_i ready
    split at taken
    · obtain rfl := Option.some.inj taken
      exact .post (.inr ready)
    · cases taken
  · cases taken

theorem worker_get_moves {state following : State}
    (taken : workerGet state = some following) : Moves state .get following := by
  unfold workerGet at taken
  split at taken
  · rename_i rest ready queue
    obtain rfl := Option.some.inj taken
    exact .takeSentinel rest ready queue
  · rename_i turn rest ready queue
    obtain rfl := Option.some.inj taken
    refine .takeTurn turn rest _ ready queue ?_
    split_ifs
    · exact .inr rfl
    · exact .inl rfl
  · rename_i items left item rest ready queue
    obtain rfl := Option.some.inj taken
    cases item with
    | shutdown => exact .collectSentinel items rest left ready queue
    | turn turn => exact .collectTurn items rest left turn ready queue
  · cases taken

theorem worker_empty_moves {state following : State}
    (taken : workerEmpty state = some following) : Moves state .empty following := by
  unfold workerEmpty at taken
  split at taken
  · rename_i ready queue
    obtain rfl := Option.some.inj taken
    exact .empty ready queue
  · rename_i items left ready queue
    obtain rfl := Option.some.inj taken
    exact .endBatch _ items _ ready
  · cases taken

theorem worker_step_moves {state following : State} {outcome : DrainOutcome}
    (taken : workerStep state outcome = some following) :
    Moves state (.worker outcome) following := by
  unfold workerStep at taken
  split at taken
  · rename_i ready
    obtain rfl := Option.some.inj taken
    exact .testFlag _ ready
  · rename_i items ready
    obtain rfl := Option.some.inj taken
    exact .endBatch _ items 0 ready
  · rename_i ready
    obtain rfl := Option.some.inj taken
    exact .loop _ ready
  · rename_i rest ready
    obtain rfl := Option.some.inj taken
    exact .exitSentinel _ rest ready
  · rename_i turn rest ready
    split at taken
    · rename_i free
      obtain rfl := Option.some.inj taken
      exact .startTurn _ turn rest free ready
    · cases taken
  · rename_i turn rest ready
    split at taken
    · rename_i sized
      obtain rfl := Option.some.inj taken
      exact .hand turn rest outcome ready sized
    · rename_i unsized
      obtain rfl := Option.some.inj taken
      exact .lengthFails _ turn rest ready (by simpa using unsized)
  · rename_i turn rest result ready
    split at taken
    · rename_i free
      obtain rfl := Option.some.inj taken
      cases length : turn.user.len with
      | some size =>
          have next := Moves.settle outcome turn rest result free ready (by simp [length])
          cases result <;> exact next
      | none =>
          refine .settleUnsized _ turn rest result _ free ready length ?_
          cases result <;> rfl
    · cases taken
  · cases taken

theorem step_moves {state following : State} {action : Action}
    (taken : step state action = some following) : Moves state action following := by
  cases action with
  | finishInitialization =>
      obtain rfl := Option.some.inj taken
      exact .finishInitialization
  | syncTurn user assistant session => exact sync_turn_moves taken
  | producer => exact producer_step_moves taken
  | shutdown =>
      obtain ⟨⟨free, absent⟩, same⟩ := Option.ite_none_right_eq_some.mp taken
      obtain rfl := Option.some.inj same
      exact .shutdown free absent
  | postSentinel => exact post_sentinel_moves taken
  | giveUp =>
      obtain ⟨⟨ready, _⟩, same⟩ := Option.ite_none_right_eq_some.mp taken
      obtain rfl := Option.some.inj same
      exact .giveUp ready
  | clearRuntimeState =>
      obtain ⟨⟨ready, free, ended⟩, same⟩ := Option.ite_none_right_eq_some.mp taken
      obtain rfl := Option.some.inj same
      exact .clear ready free ended
  | get => exact worker_get_moves taken
  | empty => exact worker_empty_moves taken
  | worker outcome => exact worker_step_moves taken

end HermesCashew.SyncQueue
