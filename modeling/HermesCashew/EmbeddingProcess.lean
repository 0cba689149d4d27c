import HermesCashew.Transition
import Mathlib.Logic.Function.Basic

/-!
# The embedding supervisor

The threads that run `start`, `encode`, `close`, `_when_closed`, `_reap` and
`_finish_close_after_request` of one `EmbeddingSupervisor`, over its attributes. A step
is one read or write of a shared attribute, or one call that changes a process; what a
child, a socket or a clock answers is up to the environment. The channel itself is left
to `EmbeddingChannel`. `close` runs under `_service_gate`, which only keeps other
`close` calls out; here they may overlap.
-/

namespace HermesCashew.EmbeddingProcess

open HermesCashew.Transition

set_option autoImplicit false

abbrev ThreadId := Nat

/-- The processes of one supervisor in the order of their launch. -/
abbrev Child := Nat

abbrev CallbackId := Nat

/-- `reaped` is a process whose exit status has been collected. -/
inductive ChildStatus where
  | absent
  | running
  | exited
  | reaped
  deriving DecidableEq, Repr

inductive Request where
  | start
  | encode
  deriving DecidableEq, Repr

/-- Where a call of `_terminate` returns to. `retryable` says that the exception on its
way has one of the reasons STARTUP, EXITED and TIMEOUT. -/
inductive Return where
  | startFailed (request : Request) (retry retryable : Bool)
  | encodeFailed
  | closeLocked
  | closeWaiting
  | fallback
  | finish
  deriving DecidableEq, Repr

/-- The statements of `_terminate` behind the swap of the socket. -/
inductive Termination where
  | testReaping
  | sample
  | waiting (child : Child)
  | clearing (child : Child)
  | flagging (child : Child)
  | spawning (child : Child)
  | unflagging
  deriving DecidableEq, Repr

inductive Point where
  | idle
  | acquiring (request : Request)
  /-- The caller of `encode` holds the slot and creates the request thread, which goes
  on under the same identifier. -/
  | spawning
  | encodeClosed
  | encodeReaping
  | testProcess (request : Request)
  | startClosed (request : Request)
  | startReaping (request : Request)
  | launching (request : Request) (retry : Bool)
  | publishing (request : Request) (retry : Bool) (child : Child)
  | testClosed (request : Request) (retry : Bool)
  | hello (request : Request) (retry : Bool)
  | retryReaping (request : Request)
  | retryProcess (request : Request)
  | talking
  | unlocking
  | observing
  | terminating (phase : Termination) (back : Return)
  | finishAcquire
  | finishUnlock
  | finishClear
  | settleReaping
  | settleProcess
  | releasing
  | takingCallbacks
  | runningCallbacks (pending : List CallbackId)
  | closeSet
  | closeAcquire
  | closeUnlock
  | closeFlag
  | closeSpawn
  | fallbackAcquire
  | fallbackUnlock
  | fallbackClear
  | reapWaiting (child : Child)
  | reapClearing (child : Child)
  | reapFlag
  | reapTest
  deriving DecidableEq, Repr

structure Shared where
  process : Option Child := none
  closed : Bool := false
  closeWaiting : Bool := false
  reaping : Bool := false
  /-- `_launch_device` is the CPU. -/
  launchCpu : Bool
  cpuRetryUsed : Bool
  requestLock : Option ThreadId := none
  ownerReleased : Bool := false
  closeCallbacks : List CallbackId := []
  status : Child → ChildStatus := fun _ => .absent
  launched : Nat := 0
  /-- History: the callbacks given to `_when_closed`, and those that have been run. -/
  registered : Nat := 0
  ran : List CallbackId := []

/-- `normalize_embedding_device` has made the CPU `DEFAULT_EMBEDDING_DEVICE`. -/
def Shared.fresh (onCpu : Bool) : Shared where
  launchCpu := onCpu
  cpuRetryUsed := onCpu

inductive Write where
  | nothing
  | acquire
  | release
  | close
  | closeWaiting (value : Bool)
  | reaping (value : Bool)
  | publish (child : Child)
  | clear
  | launch
  | reap (child : Child)
  | useCpu
  | releaseOwner
  | takeCallbacks
  | runCallback (callback : CallbackId)
  | register
  | registerLate
  deriving DecidableEq, Repr

def Shared.apply (shared : Shared) (thread : ThreadId) : Write → Shared
  | .nothing | .releaseOwner => shared
  | .acquire => { shared with requestLock := some thread }
  | .release => { shared with requestLock := none }
  | .close => { shared with closed := true }
  | .closeWaiting value => { shared with closeWaiting := value }
  | .reaping value => { shared with reaping := value }
  | .publish child => { shared with process := some child }
  | .clear => { shared with process := none }
  | .launch =>
      { shared with
        status := Function.update shared.status shared.launched .running
        launched := shared.launched + 1 }
  | .reap child => { shared with status := Function.update shared.status child .reaped }
  | .useCpu => { shared with launchCpu := true, cpuRetryUsed := true }
  | .takeCallbacks => { shared with ownerReleased := true, closeCallbacks := [] }
  | .runCallback callback => { shared with ran := shared.ran ++ [callback] }
  | .register =>
      { shared with
        closeCallbacks := shared.closeCallbacks ++ [shared.registered]
        registered := shared.registered + 1 }
  | .registerLate => { shared with registered := shared.registered + 1 }

/-- What the environment decides: which method a new thread runs, whether a call fails,
and whether a worker reports that it runs on the CPU. -/
inductive Choice where
  | request (request : Request)
  | close
  | whenClosed
  | proceed
  | onCpu
  | fail (retryable : Bool)
  | raised
  deriving DecidableEq, Repr

structure Outcome where
  point : Point
  write : Write := .nothing
  /-- The first statement of a thread that the step creates. -/
  spawned : Option Point := none
  deriving DecidableEq, Repr

/-- Past the checks of `_start` and `_encode_owned`, with a process. -/
def Request.served : Request → Point
  | .start => .unlocking
  | .encode => .talking

/-- The handler of `_start`: a failed attempt is repeated once, on the CPU. The reasons
for which it is not are tested with the attributes that only the slot's holder writes. -/
def afterStartFailed (shared : Shared) (request : Request) (retry retryable : Bool) : Point :=
  if retry || shared.cpuRetryUsed || shared.launchCpu || !retryable then .unlocking
  else .retryReaping request

def Return.point (shared : Shared) : Return → Point
  | .startFailed request retry retryable => afterStartFailed shared request retry retryable
  | .encodeFailed => .unlocking
  | .closeLocked => .closeUnlock
  | .closeWaiting => .closeSpawn
  | .fallback => .fallbackUnlock
  | .finish => .finishUnlock

/-- `_terminate`. A child that has not exited cannot be waited for; any wait may time out. -/
def terminationStep (shared : Shared) (back : Return) : Termination → Choice → Option Outcome
  | .testReaping, .proceed =>
      some { point := if shared.reaping then back.point shared else .terminating .sample back }
  | .sample, .proceed =>
      match shared.process with
      | none => some { point := back.point shared }
      | some child => some { point := .terminating (.waiting child) back }
  | .waiting child, .proceed =>
      if shared.status child = .running then none
      else some { point := .terminating (.clearing child) back, write := .reap child }
  | .waiting child, .fail _ => some { point := .terminating (.flagging child) back }
  | .clearing _, .proceed => some { point := back.point shared, write := .clear }
  | .flagging child, .proceed =>
      some { point := .terminating (.spawning child) back, write := .reaping true }
  | .spawning child, .proceed =>
      some { point := back.point shared, spawned := some (.reapWaiting child) }
  | .spawning _, .fail _ => some { point := .terminating .unflagging back }
  | .unflagging, .proceed => some { point := back.point shared, write := .reaping false }
  | _, _ => none

/-- The next statement of a thread. `owned` says that the supervisor is `_OWNER`. -/
def pointStep (owned : Bool) (shared : Shared) : Point → Choice → Option Outcome
  | .idle, .request request => some { point := .acquiring request }
  | .idle, .close => some { point := .closeSet }
  | .idle, .whenClosed =>
      if shared.ownerReleased then
        some { point := .runningCallbacks [shared.registered], write := .registerLate }
      else some { point := .idle, write := .register }
  | .acquiring request, .proceed =>
      if shared.requestLock = none then
        some {
          point := match request with
            | .start => .testProcess .start
            | .encode => .spawning
          write := .acquire }
      else none
  | .acquiring _, .fail _ =>
      if shared.requestLock = none then none else some { point := .idle }
  | .spawning, .proceed => some { point := .encodeClosed }
  | .spawning, .fail _ => some { point := .idle, write := .release }
  | .encodeClosed, .proceed =>
      some { point := if shared.closed then .unlocking else .encodeReaping }
  | .encodeReaping, .proceed =>
      some { point := if shared.reaping then .unlocking else .testProcess .encode }
  | .testProcess request, .proceed =>
      some { point := if shared.process = none then .startClosed request else request.served }
  | .startClosed request, .proceed =>
      some { point := if shared.closed then .unlocking else .startReaping request }
  | .startReaping request, .proceed =>
      some { point := if shared.reaping then .unlocking else .launching request false }
  -- `time.monotonic() < self._next_start`.
  | .startReaping _, .fail _ => some { point := .unlocking }
  | .launching request retry, .proceed =>
      some { point := .publishing request retry shared.launched, write := .launch }
  -- `Popen` raises: STARTUP.
  | .launching request retry, .fail _ =>
      some { point := afterStartFailed shared request retry true }
  | .publishing request retry child, .proceed =>
      some { point := .testClosed request retry, write := .publish child }
  | .testClosed request retry, .proceed =>
      some {
        point := if shared.closed then
          .terminating .testReaping (.startFailed request retry false)
        else .hello request retry }
  | .hello request _, .proceed => some { point := request.served }
  | .hello request _, .onCpu => some { point := request.served, write := .useCpu }
  | .hello request retry, .fail retryable =>
      some { point := .terminating .testReaping (.startFailed request retry retryable) }
  | .hello _ _, .raised => some { point := .unlocking }
  | .retryReaping request, .proceed =>
      some { point := if shared.reaping then .unlocking else .retryProcess request }
  | .retryProcess request, .proceed =>
      if shared.process = none then
        some { point := .launching request true, write := .useCpu }
      else some { point := .unlocking }
  | .talking, .proceed => some { point := .unlocking }
  | .talking, .fail _ =>
      some { point := .terminating .testReaping .encodeFailed, write := .useCpu }
  | .talking, .raised => some { point := .unlocking }
  | .unlocking, .proceed => some { point := .observing, write := .release }
  | .observing, .proceed =>
      some { point := if shared.closeWaiting then .finishAcquire else .idle }
  | .terminating phase back, choice => terminationStep shared back phase choice
  | .finishAcquire, .proceed =>
      if shared.requestLock = none then
        some { point := .terminating .testReaping .finish, write := .acquire }
      else none
  | .finishUnlock, .proceed => some { point := .finishClear, write := .release }
  | .finishClear, .proceed => some { point := .settleReaping, write := .closeWaiting false }
  | .settleReaping, .proceed =>
      some { point := if shared.reaping then .idle else .settleProcess }
  | .settleProcess, .proceed =>
      some { point := if shared.process = none then .releasing else .idle }
  | .releasing, .proceed =>
      some { point := if owned then .takingCallbacks else .idle, write := .releaseOwner }
  | .takingCallbacks, .proceed =>
      some { point := .runningCallbacks shared.closeCallbacks, write := .takeCallbacks }
  | .runningCallbacks [], .proceed => some { point := .idle }
  | .runningCallbacks (callback :: rest), .proceed =>
      some { point := .runningCallbacks rest, write := .runCallback callback }
  | .closeSet, .proceed => some { point := .closeAcquire, write := .close }
  | .closeAcquire, .proceed =>
      if shared.requestLock = none then
        some { point := .terminating .testReaping .closeLocked, write := .acquire }
      else none
  | .closeAcquire, .fail _ =>
      if shared.requestLock = none then none else some { point := .closeFlag }
  | .closeUnlock, .proceed => some { point := .settleReaping, write := .release }
  | .closeFlag, .proceed =>
      some { point := .terminating .testReaping .closeWaiting, write := .closeWaiting true }
  | .closeSpawn, .proceed => some { point := .idle, spawned := some .finishAcquire }
  | .closeSpawn, .fail _ => some { point := .fallbackAcquire }
  | .fallbackAcquire, .proceed =>
      if shared.requestLock = none then
        some { point := .terminating .testReaping .fallback, write := .acquire }
      else some { point := .idle }
  | .fallbackUnlock, .proceed => some { point := .fallbackClear, write := .release }
  | .fallbackClear, .proceed => some { point := .settleReaping, write := .closeWaiting false }
  | .reapWaiting child, .proceed =>
      if shared.status child = .running then none
      else some { point := .reapClearing child, write := .reap child }
  | .reapClearing _, .proceed => some { point := .reapFlag, write := .clear }
  | .reapFlag, .proceed => some { point := .reapTest, write := .reaping false }
  | .reapTest, .proceed => some { point := if shared.closed then .releasing else .idle }
  | _, _ => none

/-! ## One step of a thread, case by case -/

inductive TerminationMoves (shared : Shared) (back : Return) : Termination → Outcome → Prop where
  | reaping (set : shared.reaping = true) :
      TerminationMoves shared back .testReaping { point := back.point shared }
  | free (unset : shared.reaping = false) :
      TerminationMoves shared back .testReaping { point := .terminating .sample back }
  | nothing (vacant : shared.process = none) :
      TerminationMoves shared back .sample { point := back.point shared }
  | sampled (child : Child) (process : shared.process = some child) :
      TerminationMoves shared back .sample { point := .terminating (.waiting child) back }
  | waited (child : Child) (dead : shared.status child ≠ .running) :
      TerminationMoves shared back (.waiting child)
        { point := .terminating (.clearing child) back, write := .reap child }
  | expired (child : Child) :
      TerminationMoves shared back (.waiting child)
        { point := .terminating (.flagging child) back }
  | cleared (child : Child) :
      TerminationMoves shared back (.clearing child)
        { point := back.point shared, write := .clear }
  | flagged (child : Child) :
      TerminationMoves shared back (.flagging child)
        { point := .terminating (.spawning child) back, write := .reaping true }
  | handedOver (child : Child) :
      TerminationMoves shared back (.spawning child)
        { point := back.point shared, spawned := some (.reapWaiting child) }
  | noReaper (child : Child) :
      TerminationMoves shared back (.spawning child) { point := .terminating .unflagging back }
  | unflagged :
      TerminationMoves shared back .unflagging
        { point := back.point shared, write := .reaping false }

theorem termination_step_moves {shared : Shared} {back : Return} {phase : Termination}
    {choice : Choice} {outcome : Outcome}
    (taken : terminationStep shared back phase choice = some outcome) :
    TerminationMoves shared back phase outcome := by
  unfold terminationStep at taken
  split at taken
  · split_ifs at taken with set
    · obtain rfl := Option.some.inj taken
      exact .reaping set
    · obtain rfl := Option.some.inj taken
      exact .free (by simpa using set)
  · split at taken
    · rename_i vacant
      obtain rfl := Option.some.inj taken
      exact .nothing vacant
    · rename_i child process
      obtain rfl := Option.some.inj taken
      exact .sampled child process
  · split_ifs at taken with dead
    obtain rfl := Option.some.inj taken
    exact .waited _ dead
  · obtain rfl := Option.some.inj taken
    exact .expired _
  · obtain rfl := Option.some.inj taken
    exact .cleared _
  · obtain rfl := Option.some.inj taken
    exact .flagged _
  · obtain rfl := Option.some.inj taken
    exact .handedOver _
  · obtain rfl := Option.some.inj taken
    exact .noReaper _
  · obtain rfl := Option.some.inj taken
    exact .unflagged
  · cases taken

inductive Moves (owned : Bool) (shared : Shared) : Point → Outcome → Prop where
  | request (request : Request) : Moves owned shared .idle { point := .acquiring request }
  | close : Moves owned shared .idle { point := .closeSet }
  | registerLate (released : shared.ownerReleased = true) :
      Moves owned shared .idle
        { point := .runningCallbacks [shared.registered], write := .registerLate }
  | register (unreleased : shared.ownerReleased = false) :
      Moves owned shared .idle { point := .idle, write := .register }
  | acquireStart (free : shared.requestLock = none) :
      Moves owned shared (.acquiring .start) { point := .testProcess .start, write := .acquire }
  | acquireEncode (free : shared.requestLock = none) :
      Moves owned shared (.acquiring .encode) { point := .spawning, write := .acquire }
  | busy (request : Request) (held : shared.requestLock ≠ none) :
      Moves owned shared (.acquiring request) { point := .idle }
  | threadCreated : Moves owned shared .spawning { point := .encodeClosed }
  | noThread : Moves owned shared .spawning { point := .idle, write := .release }
  | encodeRefused (closed : shared.closed = true) :
      Moves owned shared .encodeClosed { point := .unlocking }
  | encodeOpen (opened : shared.closed = false) :
      Moves owned shared .encodeClosed { point := .encodeReaping }
  | encodeReaped (reaping : shared.reaping = true) :
      Moves owned shared .encodeReaping { point := .unlocking }
  | encodeClear (clear : shared.reaping = false) :
      Moves owned shared .encodeReaping { point := .testProcess .encode }
  | needsStart (request : Request) (vacant : shared.process = none) :
      Moves owned shared (.testProcess request) { point := .startClosed request }
  | hasProcess (request : Request) (child : Child) (process : shared.process = some child) :
      Moves owned shared (.testProcess request) { point := request.served }
  | startRefused (request : Request) (closed : shared.closed = true) :
      Moves owned shared (.startClosed request) { point := .unlocking }
  | startOpen (request : Request) (opened : shared.closed = false) :
      Moves owned shared (.startClosed request) { point := .startReaping request }
  | startStopped (request : Request) :
      Moves owned shared (.startReaping request) { point := .unlocking }
  | startClear (request : Request) (clear : shared.reaping = false) :
      Moves owned shared (.startReaping request) { point := .launching request false }
  | launched (request : Request) (retry : Bool) :
      Moves owned shared (.launching request retry)
        { point := .publishing request retry shared.launched, write := .launch }
  | launchFailed (request : Request) (retry : Bool) :
      Moves owned shared (.launching request retry)
        { point := (Return.startFailed request retry true).point shared }
  | published (request : Request) (retry : Bool) (child : Child) :
      Moves owned shared (.publishing request retry child)
        { point := .testClosed request retry, write := .publish child }
  | foundClosed (request : Request) (retry : Bool) (closed : shared.closed = true) :
      Moves owned shared (.testClosed request retry)
        { point := .terminating .testReaping (.startFailed request retry false) }
  | foundOpen (request : Request) (retry : Bool) (opened : shared.closed = false) :
      Moves owned shared (.testClosed request retry) { point := .hello request retry }
  | greeted (request : Request) (retry : Bool) :
      Moves owned shared (.hello request retry) { point := request.served }
  | greetedOnCpu (request : Request) (retry : Bool) :
      Moves owned shared (.hello request retry) { point := request.served, write := .useCpu }
  | helloFailed (request : Request) (retry retryable : Bool) :
      Moves owned shared (.hello request retry)
        { point := .terminating .testReaping (.startFailed request retry retryable) }
  | helloRaised (request : Request) (retry : Bool) :
      Moves owned shared (.hello request retry) { point := .unlocking }
  | retryStopped (request : Request) (reaping : shared.reaping = true) :
      Moves owned shared (.retryReaping request) { point := .unlocking }
  | retryClear (request : Request) (clear : shared.reaping = false) :
      Moves owned shared (.retryReaping request) { point := .retryProcess request }
  | retries (request : Request) (vacant : shared.process = none) :
      Moves owned shared (.retryProcess request)
        { point := .launching request true, write := .useCpu }
  | retryRefused (request : Request) :
      Moves owned shared (.retryProcess request) { point := .unlocking }
  | talked : Moves owned shared .talking { point := .unlocking }
  | talkFailed :
      Moves owned shared .talking
        { point := .terminating .testReaping .encodeFailed, write := .useCpu }
  | unlocked : Moves owned shared .unlocking { point := .observing, write := .release }
  | observedWaiting (waiting : shared.closeWaiting = true) :
      Moves owned shared .observing { point := .finishAcquire }
  | observedNothing (clear : shared.closeWaiting = false) :
      Moves owned shared .observing { point := .idle }
  | terminating (phase : Termination) (back : Return) (outcome : Outcome)
      (moves : TerminationMoves shared back phase outcome) :
      Moves owned shared (.terminating phase back) outcome
  | finishAcquired (free : shared.requestLock = none) :
      Moves owned shared .finishAcquire
        { point := .terminating .testReaping .finish, write := .acquire }
  | finishUnlocked : Moves owned shared .finishUnlock { point := .finishClear, write := .release }
  | finishCleared :
      Moves owned shared .finishClear { point := .settleReaping, write := .closeWaiting false }
  | leftToReaper (reaping : shared.reaping = true) :
      Moves owned shared .settleReaping { point := .idle }
  | notReaping (clear : shared.reaping = false) :
      Moves owned shared .settleReaping { point := .settleProcess }
  | settled (vacant : shared.process = none) :
      Moves owned shared .settleProcess { point := .releasing }
  | retained (child : Child) (process : shared.process = some child) :
      Moves owned shared .settleProcess { point := .idle }
  | released (owner : owned = true) :
      Moves owned shared .releasing { point := .takingCallbacks, write := .releaseOwner }
  | notOwner (other : owned = false) :
      Moves owned shared .releasing { point := .idle, write := .releaseOwner }
  | tookCallbacks :
      Moves owned shared .takingCallbacks
        { point := .runningCallbacks shared.closeCallbacks, write := .takeCallbacks }
  | ranAll : Moves owned shared (.runningCallbacks []) { point := .idle }
  | ranOne (callback : CallbackId) (rest : List CallbackId) :
      Moves owned shared (.runningCallbacks (callback :: rest))
        { point := .runningCallbacks rest, write := .runCallback callback }
  | closeStarted : Moves owned shared .closeSet { point := .closeAcquire, write := .close }
  | closeAcquired (free : shared.requestLock = none) :
      Moves owned shared .closeAcquire
        { point := .terminating .testReaping .closeLocked, write := .acquire }
  | closeExpired (held : shared.requestLock ≠ none) :
      Moves owned shared .closeAcquire { point := .closeFlag }
  | closeUnlocked : Moves owned shared .closeUnlock { point := .settleReaping, write := .release }
  | closeFlagged :
      Moves owned shared .closeFlag
        { point := .terminating .testReaping .closeWaiting, write := .closeWaiting true }
  | cleanupCreated :
      Moves owned shared .closeSpawn { point := .idle, spawned := some .finishAcquire }
  | noCleanup : Moves owned shared .closeSpawn { point := .fallbackAcquire }
  | fallbackAcquired (free : shared.requestLock = none) :
      Moves owned shared .fallbackAcquire
        { point := .terminating .testReaping .fallback, write := .acquire }
  | fallbackBusy (holder : ThreadId) (held : shared.requestLock = some holder) :
      Moves owned shared .fallbackAcquire { point := .idle }
  | fallbackUnlocked :
      Moves owned shared .fallbackUnlock { point := .fallbackClear, write := .release }
  | fallbackCleared :
      Moves owned shared .fallbackClear { point := .settleReaping, write := .closeWaiting false }
  | reapWaited (child : Child) (dead : shared.status child ≠ .running) :
      Moves owned shared (.reapWaiting child) { point := .reapClearing child, write := .reap child }
  | reapCleared (child : Child) :
      Moves owned shared (.reapClearing child) { point := .reapFlag, write := .clear }
  | reapUnflagged : Moves owned shared .reapFlag { point := .reapTest, write := .reaping false }
  | reapReleases (closed : shared.closed = true) :
      Moves owned shared .reapTest { point := .releasing }
  | reapEnds (opened : shared.closed = false) :
      Moves owned shared .reapTest { point := .idle }

inductive Part where
  | request
  | start
  | termination
  | finish
  | close
  | reap

def Point.part : Point → Part
  | .idle | .acquiring _ | .spawning | .encodeClosed | .encodeReaping | .testProcess _
  | .talking | .unlocking | .observing => .request
  | .startClosed _ | .startReaping _ | .launching _ _ | .publishing _ _ _ | .testClosed _ _
  | .hello _ _ | .retryReaping _ | .retryProcess _ => .start
  | .terminating _ _ => .termination
  | .finishAcquire | .finishUnlock | .finishClear | .settleReaping | .settleProcess | .releasing
  | .takingCallbacks | .runningCallbacks _ => .finish
  | .closeSet | .closeAcquire | .closeUnlock | .closeFlag | .closeSpawn | .fallbackAcquire
  | .fallbackUnlock | .fallbackClear => .close
  | .reapWaiting _ | .reapClearing _ | .reapFlag | .reapTest => .reap

section

variable {owned : Bool} {shared : Shared} {point : Point} {choice : Choice} {outcome : Outcome}

theorem idle_step_moves (taken : pointStep owned shared .idle choice = some outcome) :
    Moves owned shared .idle outcome := by
  cases choice with
  | request request =>
      cases taken
      exact .request _
  | close =>
      cases taken
      exact .close
  | whenClosed =>
      dsimp only [pointStep] at taken
      split_ifs at taken with released
      · cases taken
        exact .registerLate released
      · cases taken
        exact .register (eq_false_of_ne_true released)
  | _ => cases taken

theorem acquiring_step_moves {request : Request}
    (taken : pointStep owned shared (.acquiring request) choice = some outcome) :
    Moves owned shared (.acquiring request) outcome := by
  cases choice with
  | proceed =>
      dsimp only [pointStep] at taken
      split_ifs at taken with free
      cases taken
      cases request with
      | start => exact .acquireStart free
      | encode => exact .acquireEncode free
  | fail retryable =>
      dsimp only [pointStep] at taken
      split_ifs at taken with held
      cases taken
      exact .busy _ held
  | _ => cases taken

/-- From `_encode_owned` to the release of the slot. -/
theorem request_step_moves (part : point.part = .request)
    (taken : pointStep owned shared point choice = some outcome) :
    Moves owned shared point outcome := by
  cases point with
  | idle => exact idle_step_moves taken
  | acquiring request => exact acquiring_step_moves taken
  | spawning =>
      cases choice <;> cases taken
      · exact .threadCreated
      · exact .noThread
  | encodeClosed =>
      cases choice <;> cases taken
      split_ifs with closed
      · exact .encodeRefused closed
      · exact .encodeOpen (eq_false_of_ne_true closed)
  | encodeReaping =>
      cases choice <;> cases taken
      split_ifs with reaping
      · exact .encodeReaped reaping
      · exact .encodeClear (eq_false_of_ne_true reaping)
  | testProcess request =>
      cases choice <;> cases taken
      split_ifs with vacant
      · exact .needsStart _ vacant
      · obtain ⟨child, process⟩ := Option.ne_none_iff_exists'.mp vacant
        exact .hasProcess _ child process
  | talking =>
      cases choice <;> cases taken
      · exact .talked
      · exact .talkFailed
      · exact .talked
  | unlocking =>
      cases choice <;> cases taken
      exact .unlocked
  | observing =>
      cases choice <;> cases taken
      split_ifs with waiting
      · exact .observedWaiting waiting
      · exact .observedNothing (eq_false_of_ne_true waiting)
  | _ => cases part

/-- `_start` and `_start_once`. -/
theorem start_step_moves (part : point.part = .start)
    (taken : pointStep owned shared point choice = some outcome) :
    Moves owned shared point outcome := by
  cases point with
  | startClosed request =>
      cases choice <;> cases taken
      split_ifs with closed
      · exact .startRefused _ closed
      · exact .startOpen _ (eq_false_of_ne_true closed)
  | startReaping request =>
      cases choice <;> cases taken
      · split_ifs with reaping
        · exact .startStopped _
        · exact .startClear _ (eq_false_of_ne_true reaping)
      · exact .startStopped _
  | launching request retry =>
      cases choice <;> cases taken
      · exact .launched _ _
      · exact .launchFailed _ _
  | publishing request retry child =>
      cases choice <;> cases taken
      exact .published _ _ _
  | testClosed request retry =>
      cases choice <;> cases taken
      split_ifs with closed
      · exact .foundClosed _ _ closed
      · exact .foundOpen _ _ (eq_false_of_ne_true closed)
  | hello request retry =>
      cases choice <;> cases taken
      · exact .greeted _ _
      · exact .greetedOnCpu _ _
      · exact .helloFailed _ _ _
      · exact .helloRaised _ _
  | retryReaping request =>
      cases choice <;> cases taken
      split_ifs with reaping
      · exact .retryStopped _ reaping
      · exact .retryClear _ (eq_false_of_ne_true reaping)
  | retryProcess request =>
      cases choice with
      | proceed =>
          dsimp only [pointStep] at taken
          split_ifs at taken with vacant
          · cases taken
            exact .retries _ vacant
          · cases taken
            exact .retryRefused _
      | _ => cases taken
  | _ => cases part

/-- `_finish_close_after_request` and what follows any close. -/
theorem finish_step_moves (part : point.part = .finish)
    (taken : pointStep owned shared point choice = some outcome) :
    Moves owned shared point outcome := by
  cases point with
  | finishAcquire =>
      cases choice with
      | proceed =>
          dsimp only [pointStep] at taken
          split_ifs at taken with free
          cases taken
          exact .finishAcquired free
      | _ => cases taken
  | finishUnlock =>
      cases choice <;> cases taken
      exact .finishUnlocked
  | finishClear =>
      cases choice <;> cases taken
      exact .finishCleared
  | settleReaping =>
      cases choice <;> cases taken
      split_ifs with reaping
      · exact .leftToReaper reaping
      · exact .notReaping (eq_false_of_ne_true reaping)
  | settleProcess =>
      cases choice <;> cases taken
      split_ifs with vacant
      · exact .settled vacant
      · obtain ⟨child, process⟩ := Option.ne_none_iff_exists'.mp vacant
        exact .retained child process
  | releasing =>
      cases choice <;> cases taken
      split_ifs with owner
      · exact .released owner
      · exact .notOwner (eq_false_of_ne_true owner)
  | takingCallbacks =>
      cases choice <;> cases taken
      exact .tookCallbacks
  | runningCallbacks pending =>
      cases pending with
      | nil =>
          cases choice <;> cases taken
          exact .ranAll
      | cons callback rest =>
          cases choice <;> cases taken
          exact .ranOne _ _
  | _ => cases part

/-- `close` and `_close_locked`. -/
theorem close_step_moves (part : point.part = .close)
    (taken : pointStep owned shared point choice = some outcome) :
    Moves owned shared point outcome := by
  cases point with
  | closeSet =>
      cases choice <;> cases taken
      exact .closeStarted
  | closeAcquire =>
      cases choice with
      | proceed =>
          dsimp only [pointStep] at taken
          split_ifs at taken with free
          cases taken
          exact .closeAcquired free
      | fail retryable =>
          dsimp only [pointStep] at taken
          split_ifs at taken with held
          cases taken
          exact .closeExpired held
      | _ => cases taken
  | closeUnlock =>
      cases choice <;> cases taken
      exact .closeUnlocked
  | closeFlag =>
      cases choice <;> cases taken
      exact .closeFlagged
  | closeSpawn =>
      cases choice <;> cases taken
      · exact .cleanupCreated
      · exact .noCleanup
  | fallbackAcquire =>
      cases choice with
      | proceed =>
          dsimp only [pointStep] at taken
          split_ifs at taken with free
          · cases taken
            exact .fallbackAcquired free
          · cases taken
            obtain ⟨holder, held⟩ := Option.ne_none_iff_exists'.mp free
            exact .fallbackBusy holder held
      | _ => cases taken
  | fallbackUnlock =>
      cases choice <;> cases taken
      exact .fallbackUnlocked
  | fallbackClear =>
      cases choice <;> cases taken
      exact .fallbackCleared
  | _ => cases part

/-- `_reap`, a thread of its own. -/
theorem reap_step_moves (part : point.part = .reap)
    (taken : pointStep owned shared point choice = some outcome) :
    Moves owned shared point outcome := by
  cases point with
  | reapWaiting child =>
      cases choice with
      | proceed =>
          dsimp only [pointStep] at taken
          split_ifs at taken with dead
          cases taken
          exact .reapWaited _ dead
      | _ => cases taken
  | reapClearing child =>
      cases choice <;> cases taken
      exact .reapCleared _
  | reapFlag =>
      cases choice <;> cases taken
      exact .reapUnflagged
  | reapTest =>
      cases choice <;> cases taken
      split_ifs with closed
      · exact .reapReleases closed
      · exact .reapEnds (eq_false_of_ne_true closed)
  | _ => cases part

theorem point_step_moves (taken : pointStep owned shared point choice = some outcome) :
    Moves owned shared point outcome := by
  cases part : point.part with
  | request => exact request_step_moves part taken
  | start => exact start_step_moves part taken
  | finish => exact finish_step_moves part taken
  | close => exact close_step_moves part taken
  | reap => exact reap_step_moves part taken
  | termination =>
      cases point with
      | terminating phase back =>
          dsimp only [pointStep] at taken
          exact .terminating _ _ _ (termination_step_moves taken)
      | _ => cases part

end

/-- The process that a thread has just launched and not published. -/
def Point.fresh : Point → Option Child
  | .publishing _ _ child => some child
  | _ => none

structure Supervisor where
  shared : Shared
  threads : ThreadId → Point := fun _ => .idle

def Supervisor.inHand (supervisor : Supervisor) : Option Child :=
  supervisor.shared.requestLock.bind fun holder => (supervisor.threads holder).fresh

inductive Action where
  | run (thread : ThreadId) (choice : Choice) (created : ThreadId)
  | childExits (child : Child)
  /-- The interpreter collects the exit status of a process that is no longer referenced. -/
  | collect (child : Child)
  deriving DecidableEq, Repr

/-- Put `point` at `thread`, and the first statement of a created thread at `created`. -/
def Supervisor.place (supervisor : Supervisor) (thread created : ThreadId) (outcome : Outcome) :
    Option (ThreadId → Point) :=
  match outcome.spawned with
  | none => some (Function.update supervisor.threads thread outcome.point)
  | some first =>
      if created ≠ thread ∧ supervisor.threads created = .idle then
        some (Function.update (Function.update supervisor.threads thread outcome.point)
          created first)
      else none

def Supervisor.step (owned : Bool) (supervisor : Supervisor) : Action → Option Supervisor
  | .run thread choice created => do
      let outcome ← pointStep owned supervisor.shared (supervisor.threads thread) choice
      let threads ← supervisor.place thread created outcome
      some { shared := supervisor.shared.apply thread outcome.write, threads := threads }
  | .childExits child =>
      if supervisor.shared.status child = .running then
        some { supervisor with
          shared := { supervisor.shared with
            status := Function.update supervisor.shared.status child .exited } }
      else none
  | .collect child =>
      if supervisor.shared.status child = .exited ∧ supervisor.shared.process ≠ some child ∧
          supervisor.inHand ≠ some child then
        some { supervisor with
          shared := { supervisor.shared with
            status := Function.update supervisor.shared.status child .reaped } }
      else none

/-- The step hands `_OWNER` back. -/
def Supervisor.releases (supervisor : Supervisor) : Action → Bool
  | .run thread _ _ => supervisor.threads thread = .releasing
  | _ => false

inductive Steps (owned : Bool) (supervisor : Supervisor) : Action → Supervisor → Prop where
  | run (thread : ThreadId) (choice : Choice) (created : ThreadId) (outcome : Outcome)
      (threads : ThreadId → Point)
      (moves : Moves owned supervisor.shared (supervisor.threads thread) outcome)
      (here : threads thread = outcome.point)
      (elsewhere : ∀ other, other ≠ thread → threads other = supervisor.threads other ∨
        supervisor.threads other = .idle ∧ outcome.spawned = some (threads other) ∧
          other = created)
      (started : ∀ first, outcome.spawned = some first → threads created = first)
      (taken : pointStep owned supervisor.shared (supervisor.threads thread) choice =
        some outcome) :
      Steps owned supervisor (.run thread choice created)
        { shared := supervisor.shared.apply thread outcome.write, threads := threads }
  | childExits (child : Child) (running : supervisor.shared.status child = .running) :
      Steps owned supervisor (.childExits child)
        { supervisor with
          shared := { supervisor.shared with
            status := Function.update supervisor.shared.status child .exited } }
  | collect (child : Child) (exited : supervisor.shared.status child = .exited)
      (unreferenced : supervisor.shared.process ≠ some child)
      (published : supervisor.inHand ≠ some child) :
      Steps owned supervisor (.collect child)
        { supervisor with
          shared := { supervisor.shared with
            status := Function.update supervisor.shared.status child .reaped } }

theorem place_elsewhere {supervisor : Supervisor} {thread created : ThreadId} {outcome : Outcome}
    {threads : ThreadId → Point} (placed : supervisor.place thread created outcome = some threads) :
    threads thread = outcome.point ∧
      (∀ other, other ≠ thread → threads other = supervisor.threads other ∨
        supervisor.threads other = .idle ∧ outcome.spawned = some (threads other) ∧
          other = created) ∧
      ∀ first, outcome.spawned = some first → threads created = first := by
  unfold Supervisor.place at placed
  split at placed
  · rename_i spawned
    cases placed
    refine ⟨Function.update_self .., fun other different => .inl ?_, by simp [spawned]⟩
    exact Function.update_of_ne different ..
  · rename_i first spawned
    split_ifs at placed with fresh
    cases placed
    refine ⟨?_, ?_, ?_⟩
    · rw [Function.update_of_ne fresh.1.symm, Function.update_self]
    · intro other different
      by_cases same : other = created
      · subst same
        rw [Function.update_self]
        exact .inr ⟨fresh.2, spawned, rfl⟩
      · rw [Function.update_of_ne same, Function.update_of_ne different]
        exact .inl rfl
    · intro other same
      rw [spawned] at same
      rw [Function.update_self, Option.some.inj same]

theorem step_steps {owned : Bool} {supervisor following : Supervisor} {action : Action}
    (taken : supervisor.step owned action = some following) :
    Steps owned supervisor action following := by
  cases action with
  | run thread choice created =>
      obtain ⟨outcome, stepped, rest⟩ := Option.bind_eq_some_iff.mp taken
      obtain ⟨threads, placed, same⟩ := Option.bind_eq_some_iff.mp rest
      obtain rfl := Option.some.inj same
      obtain ⟨here, elsewhere, started⟩ := place_elsewhere placed
      exact .run thread choice created outcome threads (point_step_moves stepped) here elsewhere
        started stepped
  | childExits child =>
      obtain ⟨running, same⟩ := Option.ite_none_right_eq_some.mp taken
      obtain rfl := Option.some.inj same
      exact .childExits child running
  | collect child =>
      obtain ⟨⟨exited, unreferenced, published⟩, same⟩ :=
        Option.ite_none_right_eq_some.mp taken
      obtain rfl := Option.some.inj same
      exact .collect child exited unreferenced published

/-! ## All supervisors of a process -/

abbrev SupervisorId := Nat

structure World where
  owner : Option SupervisorId := none
  supervisors : SupervisorId → Option Supervisor := fun _ => none

inductive WorldAction where
  /-- `EmbeddingSupervisor.__init__`; without `_claim_owner` there is no supervisor. -/
  | create (identity : SupervisorId) (onCpu : Bool)
  | act (identity : SupervisorId) (action : Action)
  deriving DecidableEq, Repr

def World.step (world : World) : WorldAction → Option World
  | .create identity onCpu =>
      if world.owner = none ∧ (world.supervisors identity).isNone then
        some {
          owner := some identity
          supervisors := Function.update world.supervisors identity
            (some { shared := Shared.fresh onCpu }) }
      else none
  | .act identity action => do
      let supervisor ← world.supervisors identity
      let owned := decide (world.owner = some identity)
      let following ← supervisor.step owned action
      some {
        owner := if owned && supervisor.releases action then none else world.owner
        supervisors := Function.update world.supervisors identity (some following) }

end HermesCashew.EmbeddingProcess
