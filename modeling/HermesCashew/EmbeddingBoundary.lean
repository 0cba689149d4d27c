import HermesCashew.EmbeddingExchange

/-!
# What crosses the embedding boundary

`encode` of the supervisor with all that it calls: the start of a child and its retry on
the CPU, the request and its reply. The environment says what the operating system, the
child and the other threads do during the call.
-/

namespace HermesCashew.EmbeddingBoundary

open HermesCashew.EmbeddingChannel (maxFrame)
open HermesCashew.EmbeddingExchange
open HermesCashew.EmbeddingFrames
open HermesCashew.EmbeddingFrames.Supervisor (Inbound Turn)
open HermesCashew.EmbeddingRequest
open HermesCashew.Framing
open HermesCashew.JsonDocument
open HermesCashew.JsonMessage
open HermesCashew.JsonText (Str str)
open HermesCashew.Raising

set_option autoImplicit false

/-- `EmbeddingFailure`, without the reason of the constructor. -/
inductive Reason where
  | busy
  | startup
  | timeout
  | exited
  | protocol
  | closed
  deriving DecidableEq, Repr

/-- What `encode` raises. -/
inductive Raised where
  | unavailable (reason : Reason)
  | unicodeEncodeError
  | recursionError
  | osError
  deriving DecidableEq, Repr

inductive Trouble where
  | unavailable (reason : Reason)
  | osError
  | valueError
  | recursionError
  deriving DecidableEq, Repr

abbrev ProcessId := Nat

/-- The fields that do not change. -/
structure Settings where
  generation : Hex
  model : Str
  backoffBase : Rat

/-- The socket is the parent's end: what the child writes to it. -/
structure State where
  closed : Bool
  reaping : Bool
  process : Option ProcessId
  socket : Option Inbound
  requestLock : Bool
  failureCount : Nat
  nextStart : Rat
  dimension : Nat
  effectiveDevice : Option Str
  launchDevice : Str
  cpuRetryUsed : Bool

/-- `DEFAULT_EMBEDDING_DEVICE`. -/
def defaultEmbeddingDevice : Str := str "cpu"

/-! ## The channel -/

/-- How `select` and the socket fail beside: another thread has taken the socket away, or
closes it during the call. -/
inductive Break where
  | detached
  | osError
  | valueError
  deriving DecidableEq, Repr

def reasonOf : EmbeddingFrames.Failure → Reason
  | .timeout => .timeout
  | .exited => .exited
  | .protocol | .eof | .frameTooLarge => .protocol

/-- `_receive`: the payload, and the socket after it. -/
def arrival (broken : Option Break) (socket : Option Inbound) :
    Except Trouble (List Byte) × Option Inbound :=
  match broken with
  | some .detached => (.error (.unavailable .exited), none)
  | some .osError => (.error .osError, socket)
  | some .valueError => (.error .valueError, socket)
  | none =>
      match socket with
      | none => (.error (.unavailable .exited), none)
      | some stream =>
          match Supervisor.receive stream with
          | (.ok payload, after) => (.ok payload, some after)
          | (.error failure, after) => (.error (.unavailable (reasonOf failure)), some after)

def receive (broken : Option Break) : Block State Trouble (List Byte) :=
  fun state =>
    ((arrival broken state.socket).1, { state with socket := (arrival broken state.socket).2 })

/-- `_send`; `turns` are those of its loop. -/
def send (broken : Option Break) (turns : List Turn) (payload : List Byte) :
    Block State Trouble Unit :=
  fun state =>
    match broken with
    | some .detached => (.error (.unavailable .protocol), { state with socket := none })
    | some .osError => (.error .osError, state)
    | some .valueError => (.error .valueError, state)
    | none =>
        match state.socket with
        | none => (.error (.unavailable .protocol), state)
        | some _ =>
            match (Supervisor.send turns payload []).1 with
            | .ok _ => (.ok (), state)
            | .error failure => (.error (.unavailable (reasonOf failure)), state)

/-- `json.loads`. All its errors are `ValueError`s except for a `RecursionError`. -/
def decode (interpreter : Interpreter) (text : List Byte) : Block State Trouble Value :=
  fun state =>
    match loadsBytes interpreter text with
    | .ok value => (.ok value, state)
    | .error .recursion => (.error .recursionError, state)
    | .error _ => (.error .valueError, state)

/-! ## The child -/

/-- How `_terminate` ends: the child is waited for, or outlives its `SIGKILL`. -/
inductive Termination where
  | reaped
  | outlives (reaperStarts : Bool)
  deriving DecidableEq, Repr

def terminate (ends : Termination) (state : State) : State :=
  match state.reaping, state.process, ends with
  | true, _, _ | _, none, _ => { state with socket := none }
  | false, some _, .reaped => { state with socket := none, process := none }
  | false, some _, .outlives reaperStarts =>
      { state with socket := none, reaping := reaperStarts }

def recordFailure (settings : Settings) (now : Rat) (state : State) : State :=
  let delay := settings.backoffBase * (2 ^ Nat.min state.failureCount 5 : Nat)
  { state with
    failureCount := state.failureCount + 1
    nextStart := now + if 30 < delay then 30 else delay }

/-- One call of `_start_once`: whether there is a pair of sockets and a child, what the
child writes, and whether the supervisor is closed meanwhile. -/
structure Attempt where
  socketpair : Bool
  process : Option ProcessId
  channel : Inbound
  closedMeanwhile : Bool
  broken : Option Break
  ends : Termination

def Attempt.publish (attempt : Attempt) (state : State) : State :=
  { state with
    process := attempt.process
    socket := some attempt.channel
    closed := state.closed || attempt.closedMeanwhile }

/-- The fields that an accepted greeting sets. -/
def State.greeted (state : State) (reportedDimension : Nat) (reportedDevice : Str) : State :=
  let state :=
    { state with
      dimension := if state.dimension = 0 then reportedDimension else state.dimension
      effectiveDevice := some reportedDevice }
  if reportedDevice = defaultEmbeddingDevice then
    { state with launchDevice := defaultEmbeddingDevice, cpuRetryUsed := true }
  else state

/-- The handlers of `_start_once`. -/
def Trouble.atStart : Trouble → Raised
  | .unavailable reason => .unavailable reason
  | .osError => .unavailable .exited
  | .valueError => .unavailable .protocol
  | .recursionError => .recursionError

/-- The handlers of `_encode_owned`. -/
def Trouble.atEncode : Trouble → Raised
  | .unavailable reason => .unavailable reason
  | .osError | .valueError => .unavailable .protocol
  | .recursionError => .recursionError

section

variable (settings : Settings) (interpreter : Interpreter)

def welcome (device : Str) (hello : Value) : Block State Trouble Unit :=
  fun state =>
    match greeting ⟨settings.generation, settings.model, device, state.dimension⟩ hello with
    | none => (.error (.unavailable .protocol), state)
    | some (dimension, reportedDevice) => (.ok (), state.greeted dimension reportedDevice)

/-- The body of the second `try` of `_start_once`. -/
def greet (broken : Option Break) (device : Str) : Block State Trouble Unit := do
  let text ← receive broken
  let hello ← decode interpreter text
  welcome settings device hello

def startOnce (attempt : Attempt) (device : Str) : Block State Raised Unit :=
  fun state =>
    if attempt.socketpair = false then (.error .osError, state)
    else if attempt.process = none then (.error (.unavailable .startup), state)
    else if (attempt.publish state).closed then
      (.error (.unavailable .closed), terminate attempt.ends (attempt.publish state))
    else
      match greet settings interpreter attempt.broken device (attempt.publish state) with
      | (.ok _, after) => (.ok (), after)
      | (.error .recursionError, after) => (.error .recursionError, after)
      | (.error trouble, after) => (.error trouble.atStart, terminate attempt.ends after)

/-- `may_retry_cpu`. -/
def mayRetryCpu (reason : Reason) (state : State) : Bool :=
  !state.cpuRetryUsed && state.launchDevice != defaultEmbeddingDevice && !state.reaping &&
    state.process.isNone && (reason = .startup || reason = .exited || reason = .timeout)

def State.retrying (state : State) : State :=
  { state with cpuRetryUsed := true, launchDevice := defaultEmbeddingDevice }

/-- What happens during one call. The lock is not free in time, or others change the state
before it is; the thread of the request does not start, or does not end before the caller
stops waiting. -/
structure Environment where
  requestId : Hex
  acquired : Bool
  others : State → State
  threadStarts : Bool
  inTime : Bool
  now : Rat
  failedAt : Rat
  first : Attempt
  second : Attempt
  sendBroken : Option Break
  turns : List Turn
  headerBroken : Option Break
  vectorsBroken : Option Break
  ends : Termination

variable (environment : Environment)

/-- `_start`. -/
def start : Block State Raised Unit :=
  fun state =>
    if state.closed || state.reaping then (.error (.unavailable .closed), state)
    else if environment.now < state.nextStart then (.error (.unavailable .busy), state)
    else
      match startOnce settings interpreter environment.first state.launchDevice state with
      | (.error (.unavailable reason), after) =>
          if mayRetryCpu reason after then
            match startOnce settings interpreter environment.second defaultEmbeddingDevice
                after.retrying with
            | (.error (.unavailable reason), last) =>
                (.error (.unavailable reason),
                  recordFailure settings environment.failedAt last)
            | other => other
          else
            (.error (.unavailable reason), recordFailure settings environment.failedAt after)
      | other => other

/-! ## The call -/

/-- `vectors`: an array of this shape. -/
structure Vectors where
  count : Nat
  dimension : Nat
  raw : List Byte
  deriving DecidableEq, Repr

def accept (texts : List Str) (header : Value) (raw : List Byte) :
    Block State Trouble Vectors :=
  fun state =>
    if answers ⟨settings.generation, environment.requestId, texts.length, state.dimension,
        state.effectiveDevice⟩ raw header then
      (.ok ⟨texts.length, state.dimension, raw⟩, { state with failureCount := 0, nextStart := 0 })
    else (.error (.unavailable .protocol), state)

/-- The body of the inner `try` of `_encode_owned`. -/
def exchange (texts : List Str) : Block State Trouble Vectors := do
  send environment.sendBroken environment.turns
    (requestPayload settings.generation environment.requestId texts)
  let text ← receive environment.headerBroken
  let header ← decode interpreter text
  let raw ← receive environment.vectorsBroken
  accept settings environment texts header raw

/-- What the handlers of `_encode_owned` do before they raise. -/
def abandon (state : State) : State :=
  let state :=
    if state.effectiveDevice = some defaultEmbeddingDevice then state else state.retrying
  recordFailure settings environment.failedAt (terminate environment.ends state)

def ensureChild : Block State Raised Unit :=
  fun state =>
    if state.closed || state.reaping then (.error (.unavailable .closed), state)
    else if state.process = none then start settings interpreter environment state
    else (.ok (), state)

/-- The inner `try` of `_encode_owned`. -/
def request (texts : List Str) : Block State Raised Vectors :=
  fun state =>
    match exchange settings interpreter environment texts state with
    | (.ok vectors, after) => (.ok vectors, after)
    | (.error .recursionError, after) => (.error .recursionError, after)
    | (.error trouble, after) => (.error trouble.atEncode, abandon settings environment after)

def encodeOwned (texts : List Str) : Block State Raised Vectors :=
  Block.finish
    (do
      ensureChild settings interpreter environment
      request settings interpreter environment texts)
    fun state => (.ok (), { state with requestLock := false })

/-- When the caller stops waiting, the state is the one that the thread of the request
leaves behind later. -/
def encode (texts : List Text) : Block State Raised Vectors :=
  fun state =>
    match admitTexts texts with
    | .nothing => (.ok ⟨0, state.dimension, []⟩, state)
    | .protocol => (.error (.unavailable .protocol), state)
    | .unicodeEncodeError => (.error .unicodeEncodeError, state)
    | .request admitted =>
        if maxFrame <
            (requestPayload settings.generation environment.requestId admitted).length then
          (.error (.unavailable .protocol), state)
        else if environment.acquired = false then
          (.error (.unavailable .busy), environment.others state)
        else if environment.threadStarts = false then
          (.error (.unavailable .startup),
            { environment.others state with requestLock := false })
        else
          match encodeOwned settings interpreter environment admitted
              { environment.others state with requestLock := true } with
          | (outcome, after) =>
              (if environment.inTime then outcome else .error (.unavailable .busy), after)

/-! ## The condition -/

/-- The next message is nested no deeper than `json.loads` can follow. -/
def Readable (broken : Option Break) (socket : Option Inbound) : Prop :=
  ∀ text, (arrival broken socket).1 = .ok text →
    loadsBytes interpreter text ≠ .error .recursion

/-- A pair of sockets, and a greeting that can be read if it is. -/
def Attempt.Sound (attempt : Attempt) (state : State) : Prop :=
  attempt.socketpair = true ∧
    (attempt.process ≠ none → (attempt.publish state).closed = false →
      Readable interpreter attempt.broken (some attempt.channel))

def StartSound (state : State) : Prop :=
  state.closed = false → state.reaping = false → state.process = none →
    state.nextStart ≤ environment.now →
      environment.first.Sound interpreter state ∧
        ∀ reason after,
          startOnce settings interpreter environment.first state.launchDevice state =
            (.error (.unavailable reason), after) →
          mayRetryCpu reason after = true →
            environment.second.Sound interpreter after.retrying

def HeaderSound (texts : List Str) (state : State) : Prop :=
  (send environment.sendBroken environment.turns
      (requestPayload settings.generation environment.requestId texts) state).1 = .ok () →
    Readable interpreter environment.headerBroken state.socket

/-- Every text that the pre-checks reach can be encoded. When the request is made and the
caller still waits for it: each child that it starts gets its sockets, and each message that
it reads can be read. -/
def Sound (texts : List Text) (state : State) : Prop :=
  admitTexts texts ≠ .unicodeEncodeError ∧
    ∀ admitted, admitTexts texts = .request admitted → environment.acquired = true →
      environment.threadStarts = true → environment.inTime = true →
        let held := { environment.others state with requestLock := true }
        StartSound settings interpreter environment held ∧
          ∀ ready, ensureChild settings interpreter environment held = (.ok (), ready) →
            HeaderSound settings interpreter environment admitted ready

end

def Raised.PayloadFree : Raised → Prop
  | .unavailable _ => True
  | .unicodeEncodeError | .recursionError | .osError => False

/-- A value or an `EmbeddingUnavailable`. -/
def Bounded {Value : Type} : Except Raised Value → Prop
  | .ok _ => True
  | .error raised => raised.PayloadFree

/-! ## Who raises what -/

variable {settings : Settings} {interpreter : Interpreter} {environment : Environment}

theorem arrival_not_recursion (broken : Option Break) (socket : Option Inbound) :
    (arrival broken socket).1 ≠ .error .recursionError := by
  unfold arrival
  repeat' split
  all_goals simp

theorem send_not_recursion (broken : Option Break) (turns : List Turn) (payload : List Byte)
    (state : State) : (send broken turns payload state).1 ≠ .error .recursionError := by
  unfold send
  repeat' split
  all_goals simp

theorem send_ok {broken : Option Break} {turns : List Turn} {payload : List Byte}
    {state after : State} (sent : send broken turns payload state = (.ok (), after)) :
    after = state := by
  unfold send at sent
  repeat' split at sent
  all_goals simp at sent
  exact sent.symm

/-- A message is read; only its nesting raises a `RecursionError`. -/
theorem read_recursion_iff {Result : Type} (broken : Option Break)
    {next : Value → Block State Trouble Result}
    (quiet : ∀ value state, (next value state).1 ≠ .error .recursionError) (state : State) :
    ((do
        let text ← receive broken
        let value ← decode interpreter text
        next value : Block State Trouble Result) state).1 = .error .recursionError ↔
      ¬ Readable interpreter broken state.socket := by
  let later : State := { state with socket := (arrival broken state.socket).2 }
  have received : receive broken state = ((arrival broken state.socket).1, later) := rfl
  unfold Readable
  cases arrived : (arrival broken state.socket).1 with
  | error trouble =>
      rw [arrived] at received
      rw [Block.bind_error received]
      have other : trouble ≠ .recursionError := fun same =>
        arrival_not_recursion broken state.socket (same ▸ arrived)
      simpa using other
  | ok text =>
      rw [arrived] at received
      rw [Block.bind_ok received]
      simp only [Except.ok.injEq, forall_eq', Ne, not_not]
      cases loaded : loadsBytes interpreter text with
      | ok value =>
          have decoded : decode interpreter text later = (.ok value, later) := by
            rw [decode, loaded]
          rw [Block.bind_ok decoded]
          exact iff_of_false (quiet value later) (by simp)
      | error failure =>
          cases failure with
          | recursion =>
              have decoded : decode interpreter text later = (.error .recursionError, later) := by
                rw [decode, loaded]
              rw [Block.bind_error decoded]
              exact iff_of_true rfl rfl
          | decode | digits =>
              have decoded : decode interpreter text later = (.error .valueError, later) := by
                rw [decode, loaded]
              rw [Block.bind_error decoded]
              simp

theorem greet_recursion_iff (broken : Option Break) (device : Str) (state : State) :
    (greet settings interpreter broken device state).1 = .error .recursionError ↔
      ¬ Readable interpreter broken state.socket := by
  apply read_recursion_iff
  intro hello after
  unfold welcome
  split
  all_goals simp

theorem start_once_bounded_iff (attempt : Attempt) (device : Str) (state : State) :
    Bounded (startOnce settings interpreter attempt device state).1 ↔
      attempt.Sound interpreter state := by
  unfold startOnce Attempt.Sound
  by_cases paired : attempt.socketpair = false
  · simp [paired, Bounded, Raised.PayloadFree]
  by_cases spawned : attempt.process = none
  · simp [paired, spawned, Bounded, Raised.PayloadFree]
  by_cases closed : (attempt.publish state).closed
  · simp [paired, spawned, closed, Bounded, Raised.PayloadFree]
  have readable_iff : Readable interpreter attempt.broken (some attempt.channel) ↔
      (greet settings interpreter attempt.broken device (attempt.publish state)).1 ≠
        .error .recursionError := by
    rw [Ne, greet_recursion_iff, not_not]
    rfl
  simp only [paired, spawned, closed, Ne, not_false_eq_true, if_false, forall_const, true_and]
  rw [readable_iff]
  rcases greet settings interpreter attempt.broken device (attempt.publish state) with
    ⟨outcome, after⟩
  cases outcome with
  | ok _ => simp [Bounded]
  | error trouble => cases trouble <;> simp [Bounded, Raised.PayloadFree, Trouble.atStart]

theorem exchange_recursion_iff (texts : List Str) (state : State) :
    (exchange settings interpreter environment texts state).1 = .error .recursionError ↔
      ¬ HeaderSound settings interpreter environment texts state := by
  unfold exchange HeaderSound
  rcases sent : send environment.sendBroken environment.turns
    (requestPayload settings.generation environment.requestId texts) state with ⟨outcome, after⟩
  cases outcome with
  | error trouble =>
      rw [Block.bind_error sent]
      have other : trouble ≠ .recursionError := fun same =>
        send_not_recursion _ _ _ state (same ▸ congrArg Prod.fst sent)
      simpa using other
  | ok _ =>
      rw [Block.bind_ok sent, send_ok sent, forall_prop_of_true rfl]
      apply read_recursion_iff
      intro header later
      rcases arrived : receive environment.vectorsBroken later with ⟨outcome, last⟩
      cases outcome with
      | error trouble =>
          rw [Block.bind_error arrived]
          have other : trouble ≠ .recursionError := fun same =>
            arrival_not_recursion _ later.socket (same ▸ congrArg Prod.fst arrived)
          simpa using other
      | ok raw =>
          rw [Block.bind_ok arrived, accept]
          split
          all_goals simp

theorem request_bounded_iff (texts : List Str) (state : State) :
    Bounded (request settings interpreter environment texts state).1 ↔
      HeaderSound settings interpreter environment texts state := by
  have sound_iff : HeaderSound settings interpreter environment texts state ↔
      (exchange settings interpreter environment texts state).1 ≠ .error .recursionError := by
    rw [Ne, exchange_recursion_iff, not_not]
  rw [sound_iff, request]
  rcases exchange settings interpreter environment texts state with ⟨outcome, after⟩
  cases outcome with
  | ok _ => simp [Bounded]
  | error trouble => cases trouble <;> simp [Bounded, Raised.PayloadFree, Trouble.atEncode]

/-- The first attempt ends the call, or the second does. -/
theorem attempts_bounded_iff {state : State} (open_ : (state.closed || state.reaping) = false)
    (due : ¬ environment.now < state.nextStart) :
    Bounded (start settings interpreter environment state).1 ↔
      environment.first.Sound interpreter state ∧
        ∀ reason after,
          startOnce settings interpreter environment.first state.launchDevice state =
            (.error (.unavailable reason), after) →
          mayRetryCpu reason after = true →
            environment.second.Sound interpreter after.retrying := by
  rw [← @start_once_bounded_iff settings interpreter environment.first state.launchDevice state]
  simp only [start, open_, Bool.false_eq_true, due, if_false]
  rcases first : startOnce settings interpreter environment.first state.launchDevice state with
    ⟨outcome, after⟩
  cases outcome with
  | ok _ => simp [Bounded]
  | error raised =>
      cases raised with
      | unicodeEncodeError | recursionError | osError => simp [Bounded, Raised.PayloadFree]
      | unavailable reason =>
          by_cases retry : mayRetryCpu reason after = true
          · have second := @start_once_bounded_iff settings interpreter environment.second
              defaultEmbeddingDevice after.retrying
            have only : (∀ cause last,
                (Except.error (.unavailable reason), after) =
                  ((.error (.unavailable cause), last) : Except Raised Unit × State) →
                mayRetryCpu cause last = true →
                  environment.second.Sound interpreter last.retrying) ↔
                environment.second.Sound interpreter after.retrying := by
              refine ⟨fun sound => sound reason after rfl retry, fun sound cause last same _ => ?_⟩
              cases same
              exact sound
            rw [only, ← second, and_iff_right (by trivial)]
            simp only [retry, if_true]
            rcases startOnce settings interpreter environment.second defaultEmbeddingDevice
              after.retrying with ⟨outcome, last⟩
            cases outcome with
            | ok _ => rfl
            | error raised => cases raised <;> rfl
          · simp only [retry, Bool.false_eq_true, if_false]
            refine iff_of_true trivial ⟨trivial, fun cause last same again => ?_⟩
            cases same
            exact absurd again retry

theorem ensure_child_bounded_iff (state : State) :
    Bounded (ensureChild settings interpreter environment state).1 ↔
      StartSound settings interpreter environment state := by
  unfold ensureChild StartSound
  by_cases open_ : (state.closed || state.reaping) = false
  · obtain ⟨closed, reaping⟩ := Bool.or_eq_false_iff.mp open_
    by_cases vacant : state.process = none
    · by_cases early : environment.now < state.nextStart
      · simp [start, closed, reaping, vacant, early, Bounded, Raised.PayloadFree,
          Rat.not_le.mpr early]
      · have attempts := @attempts_bounded_iff settings interpreter environment state open_ early
        simp only [vacant, if_true, closed, reaping, Rat.not_lt.mp early, forall_const]
        exact attempts
    · simp [closed, reaping, vacant, Bounded]
  · have shut := Bool.or_eq_true_iff.mp (Bool.of_not_eq_false open_)
    simp only [Bool.of_not_eq_false open_, if_true]
    refine iff_of_true trivial fun closed reaping => ?_
    rw [closed, reaping] at shut
    cases shut with
    | inl closed | inr closed => cases closed

theorem encode_owned_bounded_iff (texts : List Str) (state : State) :
    Bounded (encodeOwned settings interpreter environment texts state).1 ↔
      StartSound settings interpreter environment state ∧
        ∀ ready, ensureChild settings interpreter environment state = (.ok (), ready) →
          HeaderSound settings interpreter environment texts ready := by
  rw [← ensure_child_bounded_iff]
  simp only [encodeOwned, Block.finish, Block.bind_apply]
  rcases ensureChild settings interpreter environment state with ⟨outcome, ready⟩
  cases outcome with
  | error raised =>
      refine ⟨fun bounded => ⟨bounded, fun ready same => ?_⟩, fun sound => sound.1⟩
      cases same
  | ok _ =>
      have answered := @request_bounded_iff settings interpreter environment texts ready
      refine ⟨fun bounded => ⟨trivial, fun other same => ?_⟩,
        fun sound => answered.mpr (sound.2 ready rfl)⟩
      cases same
      exact answered.mp bounded

/-! ## The boundary -/

/-- The pre-checks refuse the texts. -/
def Refused (texts : List Text) : Prop :=
  admitTexts texts = .protocol ∨ admitTexts texts = .unicodeEncodeError

/-- `encode` returns an array or raises `EmbeddingUnavailable`, and changes nothing when the
pre-checks refuse the texts. -/
theorem encode_payload_free_iff (settings : Settings) (interpreter : Interpreter)
    (environment : Environment) (texts : List Text) (state : State) :
    (Bounded (encode settings interpreter environment texts state).1 ∧
        (Refused texts → (encode settings interpreter environment texts state).2 = state)) ↔
      Sound settings interpreter environment texts state := by
  have unchanged : Refused texts →
      (encode settings interpreter environment texts state).2 = state := by
    unfold encode
    rintro (refused | refused)
    all_goals rw [refused]
  rw [and_iff_left unchanged]
  unfold encode Sound
  cases admitted : admitTexts texts with
  | nothing | protocol | unicodeEncodeError => simp [Bounded, Raised.PayloadFree]
  | request texts =>
      have small := request_small settings.generation environment.requestId admitted
      simp only [Nat.not_lt.mpr small, if_false]
      by_cases acquired : environment.acquired = true
      · by_cases starts : environment.threadStarts = true
        · by_cases waits : environment.inTime = true
          · have owned := @encode_owned_bounded_iff settings interpreter environment texts
              { environment.others state with requestLock := true }
            simp [acquired, starts, waits, owned]
          · simp [acquired, starts, waits, Bounded, Raised.PayloadFree]
        · simp [acquired, starts, Bounded, Raised.PayloadFree]
      · simp [acquired, Bounded, Raised.PayloadFree]

def serving (written : List Byte) : State where
  closed := false
  reaping := false
  process := some 1
  socket := some ⟨List.replicate 4 (.moves maxFrame), written⟩
  requestLock := false
  failureCount := 0
  nextStart := 0
  dimension := 4
  effectiveDevice := some defaultEmbeddingDevice
  launchDevice := defaultEmbeddingDevice
  cpuRetryUsed := true

def absent : Attempt where
  socketpair := true
  process := none
  channel := ⟨[], []⟩
  closedMeanwhile := false
  broken := none
  ends := .reaped

def undisturbed : Environment where
  requestId := zeros
  acquired := true
  others state := state
  threadStarts := true
  inTime := true
  now := 0
  failedAt := 0
  first := absent
  second := absent
  sendBroken := none
  turns := [.moves maxFrame]
  headerBroken := none
  vectorsBroken := none
  ends := .reaped

def base : Settings where
  generation := zeros
  model := str "m"
  backoffBase := 1

/-- The text `"\ud800"` is in the exception; so is nothing of a header `[[[`, which an
interpreter with room for two lists cannot follow, but it is no `EmbeddingUnavailable`. -/
theorem surrogates_and_deep_headers_escape :
    ¬ (Bounded (encode base shallow undisturbed [.str [0xd800]] (serving [])).1 ∧
      (Refused [.str [0xd800]] →
        (encode base shallow undisturbed [.str [0xd800]] (serving [])).2 = serving [])) ∧
    ¬ (Bounded (encode base shallow undisturbed [.str []] (serving (frame [91, 91, 91]))).1 ∧
      (Refused [.str []] →
        (encode base shallow undisturbed [.str []] (serving (frame [91, 91, 91]))).2 =
          serving (frame [91, 91, 91]))) := by
  have surrogate : (encode base shallow undisturbed [.str [0xd800]] (serving [])).1 =
      .error .unicodeEncodeError := by
    decide +kernel
  have deep : (encode base shallow undisturbed [.str []] (serving (frame [91, 91, 91]))).1 =
      .error .recursionError := by
    decide +kernel
  rw [surrogate, deep]
  exact ⟨fun bounded => bounded.1, fun bounded => bounded.1⟩

end HermesCashew.EmbeddingBoundary
