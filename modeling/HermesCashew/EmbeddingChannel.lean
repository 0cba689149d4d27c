import HermesCashew.Framing
import HermesCashew.Transition
import Mathlib.Logic.Function.Basic

/-!
# The channel to the embedding worker

`start` and `encode` of one `EmbeddingSupervisor` down to the bytes of its socket. One
thread at a time holds `_request_lock`; the other threads are the callers that wait for a
result, the workers, and the threads whose `_terminate` takes the socket away. Which of
the tests of `_closed`, `_reaping` and `_process` succeed is up to the environment, here,
as is every chunk, timeout and error of a socket call.
-/

namespace HermesCashew.EmbeddingChannel

open HermesCashew.Framing HermesCashew.Transition

set_option autoImplicit false

/-- A result of `json.loads`. `get` gives `None` (`null`) for an absent key; a float that is
no whole number equals no number it is compared with. -/
inductive Value where
  | null
  | bool (value : Bool)
  | int (value : Int)
  | float (whole : Option Int)
  | str (value : String)
  | list (items : List Value)
  | dict (get : String → Value)

/-- `value == number`, where `True == 1` and `1.0 == 1`. -/
def Value.eqInt : Value → Nat → Bool
  | .bool value, number => value.toNat = number
  | .int value, number => value = number
  | .float whole, number => whole = some (number : Int)
  | _, _ => false

def Value.eqText : Value → String → Bool
  | .str value, text => value = text
  | _, _ => false

def Value.eqOption : Value → Option String → Bool
  | value, some text => value.eqText text
  | .null, none => true
  | _, none => false

structure Settings where
  /-- `json.loads`; `none` is a `ValueError`. -/
  loads : List Byte → Option Value
  generation : String
  model : String
  /-- `uuid.uuid4().hex` of each call. -/
  requestId : Nat → String

/-- `_MAX_FRAME`. -/
def maxFrame : Nat := 16 * 1024 * 1024

/-- `_MAX_DIMENSION`. -/
def maxDimension : Nat := 65536

abbrev ChannelId := Nat

abbrev CallId := Nat

/-- A thread, other than the holder of `_request_lock`, that calls `_terminate`. -/
abbrev ThreadId := Nat

/-- A call of `encode` that has passed the checks of its texts. -/
structure Call where
  identity : CallId
  count : Nat
  payload : List Byte

/-- One `socket.socketpair()`. All but `closed` is history: the bytes the worker has written,
those read from them, the requests sent as a whole, whether a `_terminate` has taken it out
of `_socket`, and whether a request failed on it. -/
structure Channel where
  written : List Byte := []
  consumed : Nat := 0
  requests : Nat := 0
  dropped : Bool := false
  closed : Bool := false
  broken : Bool := false

def Channel.read (channel : Channel) : List Byte :=
  channel.written.take channel.consumed

structure Reply where
  call : Call
  dimension : Nat
  device : Option String
  channel : ChannelId
  text : List Byte
  header : Value
  raw : List Byte

inductive User where
  | start
  | encode (call : Call)

/-- What a `_receive` is for. -/
inductive Job where
  | hello (user : User) (device : String)
  | header (call : Call)
  | vectors (call : Call) (text : List Byte) (header : Value)

/-- Which `except` clause is on its way. A request that has begun to send names its
channel. -/
inductive Failure where
  | start (user : User)
  | request (call : Call) (used : Option ChannelId)

/-- What the holder of `_request_lock` does next. A `size` is the length of the frame, once
it has been read. -/
inductive Point where
  | free
  | entered (user : User)
  | testing (user : User)
  | launching (user : User)
  | sendOpening (call : Call)
  | sending (call : Call) (channel : ChannelId) (pending : List Byte)
  | opening (job : Job) (used : ChannelId) (size : Option Nat)
  | reading (job : Job) (used : ChannelId) (size : Option Nat) (channel : ChannelId)
      (want : Nat) (got : List Byte)
  | failing (failure : Failure)
  | dropping (failure : Failure) (channel : ChannelId)
  | failed (failure : Failure)
  | releasing (user : User) (reply : Option Reply)

/-- The thread that has called `encode`. -/
inductive Caller where
  | absent
  | waiting (call : Call)
  | gaveUp (call : Call)
  | raised (call : Call)
  | returned (call : Call) (reply : Reply)

structure State where
  socket : Option ChannelId := none
  channels : ChannelId → Channel := fun _ => {}
  created : Nat := 0
  dimension : Nat
  device : Option String := none
  holder : Point := .free
  calls : Nat := 0
  /-- `result` and `failure` of each call, once `done` is set. -/
  finished : CallId → Option (Option Reply) := fun _ => none
  callers : CallId → Caller := fun _ => .absent
  /-- `channel` of each `_terminate` that has emptied `_socket` and not yet called
  `channel.close()`. -/
  takers : ThreadId → Option ChannelId := fun _ => none

inductive Choice where
  | proceed
  /-- A socket call times out or raises, the peer has gone, or a thread or a process
  cannot be created. -/
  | fail
  | chunk (size : Nat)
  | launch (device : String)
  /-- `_process` is set. -/
  | running
  /-- `_closed`, `_reaping` or the back-off. -/
  | refused
  /-- The one repetition of `_start` on the CPU. -/
  | retry

/-- `np.isfinite(vectors).all()`: no exponent of a little-endian float is all ones. -/
def finite : List Byte → Bool
  | _ :: _ :: third :: fourth :: rest =>
      !(decide (fourth.toNat % 128 = 127) && decide (128 ≤ third.toNat)) && finite rest
  | _ => true

/-- The checks of `_encode_owned`. -/
def answers (settings : Settings) (dimension : Nat) (device : Option String) (call : Call)
    (header : Value) (raw : List Byte) : Bool :=
  let expected := call.count * dimension * 4
  match header with
  | .dict get =>
      (get "op").eqText "vectors" && (get "version").eqInt 1 &&
        (get "generation").eqText settings.generation &&
        (get "request_id").eqText (settings.requestId call.identity) &&
        (get "count").eqInt call.count && (get "dimension").eqInt dimension &&
        (get "device").eqOption device && (get "bytes").eqInt expected &&
        decide (raw.length = expected) && finite raw
  | _ => false

/-- The checks of `_start_once`: the reported dimension and device. -/
def greets (settings : Settings) (dimension : Nat) (requested : String) :
    Value → Option (Nat × String)
  | .dict get =>
      match get "dimension", get "device" with
      | .int reported, .str device =>
          if (get "op").eqText "hello" && (get "version").eqInt 1 &&
              (get "generation").eqText settings.generation &&
              (get "model").eqText settings.model &&
              (get "requested_device").eqText requested &&
              decide (0 < reported ∧ reported ≤ maxDimension) &&
              (dimension = 0 || reported = dimension) &&
              decide (device ≠ "" ∧ device.length ≤ 64) &&
              (requested = "auto" || device = requested || device = "cpu") then
            some (reported.toNat, device)
          else none
      | _, _ => none
  | _ => none

def User.served : User → Point
  | .start => .releasing .start none
  | .encode call => .sendOpening call

def Job.failure (used : ChannelId) : Job → Failure
  | .hello user _ => .start user
  | .header call | .vectors call _ _ => .request call (some used)

def Failure.user : Failure → User
  | .start user => user
  | .request call _ => .encode call

def State.setChannel (state : State) (channel : ChannelId) (value : Channel) : State :=
  { state with channels := Function.update state.channels channel value }

def State.moveTo (state : State) (point : Point) : State :=
  { state with holder := point }

/-- What follows a `_receive` that has returned `payload`. -/
def received (settings : Settings) (state : State) (used : ChannelId) (payload : List Byte) :
    Job → State
  | .hello user requested =>
      match (settings.loads payload).bind (greets settings state.dimension requested) with
      | some (dimension, device) =>
          { state with dimension := dimension, device := some device, holder := user.served }
      | none => state.moveTo (.failing (.start user))
  | .header call =>
      match settings.loads payload with
      | some header => state.moveTo (.opening (.vectors call payload header) used none)
      | none => state.moveTo (.failing (.request call (some used)))
  | .vectors call text header =>
      if answers settings state.dimension state.device call header payload then
        state.moveTo (.releasing (.encode call) (some {
          call := call
          dimension := state.dimension
          device := state.device
          channel := used
          text := text
          header := header
          raw := payload }))
      else state.moveTo (.failing (.request call (some used)))

/-- `channel, self._socket = self._socket, None`, by the thread at `failing` or by another. -/
def State.takeSocket (state : State) (channel : ChannelId) : State :=
  { state.setChannel channel { state.channels channel with dropped := true } with
    socket := none }

def State.close (state : State) (channel : ChannelId) : State :=
  state.setChannel channel { state.channels channel with closed := true }

def advance (settings : Settings) (state : State) : Point → Choice → Option State
  | .entered user, .proceed => some (state.moveTo (.testing user))
  -- The request thread cannot be created.
  | .entered (.encode call), .fail =>
      some { state with
        holder := .free
        finished := Function.update state.finished call.identity (some none) }
  | .testing user, .refused => some (state.moveTo (.releasing user none))
  | .testing user, .running => some (state.moveTo user.served)
  | .testing user, .proceed => some (state.moveTo (.launching user))
  | .launching user, .fail => some (state.moveTo (.failed (.start user)))
  | .launching user, .launch device =>
      some {
        state.setChannel state.created {} with
        socket := some state.created
        created := state.created + 1
        holder := .opening (.hello user device) state.created none }
  | .sendOpening call, .proceed =>
      some (state.moveTo
        (match state.socket with
        | some channel =>
            if call.payload.length > maxFrame then .failing (.request call none)
            else .sending call channel (frame call.payload)
        | none => .failing (.request call none)))
  | .sending call channel pending, .chunk size =>
      if 0 < size ∧ size ≤ pending.length ∧ (state.channels channel).closed = false then
        if size = pending.length then
          some ((state.setChannel channel
            { state.channels channel with requests := (state.channels channel).requests + 1 }).moveTo
              (.opening (.header call) channel none))
        else some (state.moveTo (.sending call channel (pending.drop size)))
      else none
  | .sending call channel _, .fail =>
      some (state.moveTo (.failing (.request call (some channel))))
  -- `_closed` has been set between the tests of `_start` and the launch.
  | .opening (.hello user _) _ none, .refused => some (state.moveTo (.failing (.start user)))
  | .opening job used size, .proceed =>
      some (state.moveTo
        (match state.socket with
        | some channel => .reading job used size channel (size.getD 4) []
        | none => .failing (job.failure used)))
  | .reading job used size channel want got, .chunk taken =>
      if 0 < taken ∧ taken ≤ want ∧ (state.channels channel).closed = false ∧
          (state.channels channel).consumed + taken ≤ (state.channels channel).written.length then
        let bytes := ((state.channels channel).written.drop
          (state.channels channel).consumed).take taken
        some ((state.setChannel channel
          { state.channels channel with
            consumed := (state.channels channel).consumed + taken }).moveTo
              (.reading job used size channel (want - taken) (got ++ bytes)))
      else none
  | .reading job used _ _ (_ + 1) _, .fail => some (state.moveTo (.failing (job.failure used)))
  | .reading job used none _ 0 got, .proceed =>
      some (state.moveTo
        (if unpack got > maxFrame then .failing (job.failure used)
        else .opening job used (some (unpack got))))
  | .reading job used (some _) _ 0 got, .proceed => some (received settings state used got job)
  | .failing failure, .proceed =>
      some (match state.socket with
        | some channel => (state.takeSocket channel).moveTo (.dropping failure channel)
        | none => state.moveTo (.failed failure))
  | .dropping failure channel, .proceed => some ((state.close channel).moveTo (.failed failure))
  | .failed (.start user), .retry => some (state.moveTo (.launching user))
  | .failed failure, .proceed =>
      some ((match failure with
        | .request _ (some used) =>
            state.setChannel used { state.channels used with broken := true }
        | _ => state).moveTo (.releasing failure.user none))
  | .releasing .start _, .proceed => some (state.moveTo .free)
  | .releasing (.encode call) reply, .proceed =>
      some { state with
        holder := .free
        finished := Function.update state.finished call.identity (some reply) }
  | _, _ => none

inductive Action where
  | start
  | encode (count : Nat) (payload : List Byte)
  | run (choice : Choice)
  /-- A worker writes to its end of a channel. -/
  | write (channel : ChannelId) (bytes : List Byte)
  /-- The two statements of a `_terminate` that the holder of the slot has not called. -/
  | takeSocket (thread : ThreadId)
  | close (thread : ThreadId)
  /-- `done.wait` expires. -/
  | giveUp (call : CallId)
  | collect (call : CallId)

def step (settings : Settings) (state : State) : Action → Option State
  | .start =>
      match state.holder with
      | .free => some (state.moveTo (.entered .start))
      | _ => none
  | .encode count payload =>
      match state.holder with
      | .free =>
          if 0 < count ∧ count ≤ 100 ∧ payload.length ≤ maxFrame then
            let call : Call := { identity := state.calls, count := count, payload := payload }
            some { state with
              holder := .entered (.encode call)
              calls := state.calls + 1
              callers := Function.update state.callers state.calls (.waiting call) }
          else none
      | _ => none
  | .run choice => advance settings state state.holder choice
  | .write channel bytes =>
      if channel < state.created then
        some (state.setChannel channel
          { state.channels channel with
            written := (state.channels channel).written ++ bytes })
      else none
  | .takeSocket thread =>
      match state.socket, state.takers thread with
      | some channel, none =>
          some { state.takeSocket channel with
            takers := Function.update state.takers thread (some channel) }
      | _, _ => none
  | .close thread =>
      match state.takers thread with
      | some channel =>
          some { state.close channel with
            takers := Function.update state.takers thread none }
      | none => none
  | .giveUp identity =>
      match state.callers identity with
      | .waiting call =>
          some { state with callers := Function.update state.callers identity (.gaveUp call) }
      | _ => none
  | .collect identity =>
      match state.callers identity, state.finished identity with
      | .waiting call, some (some reply) =>
          some { state with
            callers := Function.update state.callers identity (.returned call reply) }
      | .waiting call, some none =>
          some { state with callers := Function.update state.callers identity (.raised call) }
      | _, _ => none

end HermesCashew.EmbeddingChannel
