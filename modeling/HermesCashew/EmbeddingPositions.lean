import HermesCashew.EmbeddingChannel
import Mathlib.Data.List.Infix

/-!
# Where the channel stands

Whenever a request starts, the bytes read from the channel so far are whole frames: the
greeting and two frames for each request that was sent.
-/

namespace HermesCashew.EmbeddingChannel

open HermesCashew.Framing HermesCashew.Transition

set_option autoImplicit false

variable {settings : Settings} {state next : State}

/-! ## What holds of the channels -/

structure Base (state : State) : Prop where
  socket : ∀ channel, state.socket = some channel → channel < state.created ∧
    (state.channels channel).dropped = false ∧ (state.channels channel).broken = false
  broken : ∀ channel, (state.channels channel).broken = true →
    channel < state.created ∧ (state.channels channel).dropped = true
  closed : ∀ channel, (state.channels channel).closed = true →
    (state.channels channel).dropped = true
  within : ∀ channel,
    (state.channels channel).consumed ≤ (state.channels channel).written.length
  taken : ∀ thread channel, state.takers thread = some channel →
    channel < state.created ∧ (state.channels channel).dropped = true

/-- The open channel has been read up to the end of the last request's frames. -/
def Settled (state : State) : Prop :=
  ∀ channel, state.socket = some channel →
    Frames (1 + 2 * (state.channels channel).requests) (state.channels channel).read

/-- The channel on which the holder of the slot works, unless it has been taken away. -/
structure Owns (state : State) (used : ChannelId) : Prop where
  created : used < state.created
  intact : (state.channels used).broken = false
  live : state.socket = some used ∨
    state.socket = none ∧ (state.channels used).dropped = true

/-- The frames of a job that have been read. -/
def Job.done : Job → List Byte
  | .vectors _ text _ => frame text
  | _ => []

def Job.counts (settings : Settings) (requests : Nat) : Job → Prop
  | .hello _ _ => requests = 0
  | .header _ => 0 < requests
  | .vectors _ text parsed => 0 < requests ∧ text.length ≤ maxFrame ∧
      settings.loads text = some parsed

/-- Behind whole frames, the job has read `partly`. -/
def Position (settings : Settings) (state : State) (job : Job) (used : ChannelId)
    (partly : List Byte) : Prop :=
  job.counts settings (state.channels used).requests ∧
    ∃ before, Frames (2 * (state.channels used).requests - 1) before ∧
      (state.channels used).read = before ++ (job.done ++ partly)

structure Genuine (settings : Settings) (state : State) (reply : Reply) : Prop where
  created : reply.channel < state.created
  object : ∃ get, reply.header = .dict get ∧
    (get "generation").eqText settings.generation = true ∧
    (get "request_id").eqText (settings.requestId reply.call.identity) = true ∧
    (get "count").eqInt reply.call.count = true ∧
    (get "dimension").eqInt reply.dimension = true ∧
    (get "device").eqOption reply.device = true ∧
    (get "bytes").eqInt (reply.call.count * reply.dimension * 4) = true
  exact : reply.raw.length = reply.call.count * reply.dimension * 4
  decoded : settings.loads reply.text = some reply.header
  adjacent : ∃ before after, (state.channels reply.channel).written =
    before ++ (frame reply.text ++ frame reply.raw) ++ after

def Lost (state : State) (failure : Failure) : Prop :=
  ∀ call channel, failure = .request call (some channel) →
    channel < state.created ∧ (state.channels channel).dropped = true

def Placed (settings : Settings) (state : State) : Point → Prop
  | .free | .entered _ | .testing _ | .launching _ | .sendOpening _ | .failed (.start _) =>
      Settled state
  | .releasing user reply => Settled state ∧
      ∀ result, reply = some result → user = .encode result.call ∧ Genuine settings state result
  | .sending _ channel _ => Owns state channel ∧
      Frames (1 + 2 * (state.channels channel).requests) (state.channels channel).read
  | .opening job used size => Owns state used ∧
      Position settings state job used (size.elim [] pack) ∧ ∀ known, size = some known →
        known ≤ maxFrame
  | .reading job used size channel want got => Owns state used ∧ channel = used ∧
      Position settings state job used (size.elim [] pack ++ got) ∧
      got.length + want = size.getD 4 ∧ ∀ known, size = some known → known ≤ maxFrame
  | .failing (.start _) => True
  | .failing (.request _ used) => ∀ channel, used = some channel → Owns state channel
  | .dropping failure channel => state.socket = none ∧
      (state.channels channel).dropped = true ∧ (state.channels channel).broken = false ∧
      Lost state failure
  | .failed (.request call used) => state.socket = none ∧ Lost state (.request call used)

/-! ## What the other threads do -/

theorem update_found {Entry : Type} {table : Nat → Option Entry} {identity other : Nat}
    {entry found : Entry}
    (here : Function.update table identity (some entry) other = some found) :
    other = identity ∧ entry = found ∨ table other = some found := by
  by_cases same : other = identity
  · subst same
    rw [Function.update_self] at here
    exact .inl ⟨rfl, Option.some.inj here⟩
  · rw [Function.update_of_ne same] at here
    exact .inr here

theorem update_none_found {Entry : Type} {table : Nat → Option Entry} {identity other : Nat}
    {found : Entry} (here : Function.update table identity none other = some found) :
    other ≠ identity ∧ table other = some found := by
  by_cases same : other = identity
  · subst same
    rw [Function.update_self] at here
    cases here
  · rw [Function.update_of_ne same] at here
    exact ⟨same, here⟩

structure Eases (state next : State) : Prop where
  created : next.created = state.created
  socket : next.socket = state.socket ∨ next.socket = none
  taken : ∀ channel, state.socket = some channel → next.socket = none →
    (next.channels channel).dropped = true
  dropped : ∀ channel, (state.channels channel).dropped = true →
    (next.channels channel).dropped = true
  requests : ∀ channel,
    (next.channels channel).requests = (state.channels channel).requests
  broken : ∀ channel, (next.channels channel).broken = (state.channels channel).broken
  consumed : ∀ channel,
    (next.channels channel).consumed = (state.channels channel).consumed
  written : ∀ channel, (state.channels channel).written <+: (next.channels channel).written

theorem Eases.read (eases : Eases state next) (base : Base state) (channel : ChannelId) :
    (next.channels channel).read = (state.channels channel).read := by
  obtain ⟨more, written⟩ := eases.written channel
  rw [Channel.read, Channel.read, eases.consumed, ← written,
    List.take_append_of_le_length (base.within channel)]

theorem Genuine.later {reply : Reply} (genuine : Genuine settings state reply)
    (created : state.created ≤ next.created)
    (written : (state.channels reply.channel).written <+:
      (next.channels reply.channel).written) : Genuine settings next reply := by
  refine ⟨Nat.lt_of_lt_of_le genuine.created created, genuine.object, genuine.exact,
    genuine.decoded, ?_⟩
  obtain ⟨before, after, same⟩ := genuine.adjacent
  obtain ⟨more, written⟩ := written
  exact ⟨before, after ++ more, by rw [← written, same, List.append_assoc]⟩

theorem Eases.settled (eases : Eases state next) (base : Base state)
    (settled : Settled state) : Settled next := by
  intro channel socket
  rw [eases.read base, eases.requests]
  rcases eases.socket with same | gone
  · exact settled channel (same ▸ socket)
  · rw [gone] at socket
    cases socket

theorem Eases.owns (eases : Eases state next) {used : ChannelId} (owns : Owns state used) :
    Owns next used := by
  refine ⟨eases.created ▸ owns.created, by rw [eases.broken, owns.intact], ?_⟩
  rcases owns.live with socket | ⟨gone, dropped⟩
  · rcases eases.socket with same | gone
    · exact .inl (same.trans socket)
    · exact .inr ⟨gone, eases.taken used socket gone⟩
  · right
    refine ⟨?_, eases.dropped used dropped⟩
    rcases eases.socket with same | none
    · rw [same, gone]
    · exact none

theorem Eases.position (eases : Eases state next) (base : Base state) {job : Job}
    {used : ChannelId} {partly : List Byte} (position : Position settings state job used partly) :
    Position settings next job used partly := by
  rw [Position, eases.requests, eases.read base]
  exact position

theorem Eases.empty (eases : Eases state next) (gone : state.socket = none) :
    next.socket = none := by
  rcases eases.socket with same | none
  · rw [same, gone]
  · exact none

theorem Eases.lost (eases : Eases state next) {failure : Failure} (lost : Lost state failure) :
    Lost next failure := by
  intro call channel same
  obtain ⟨created, dropped⟩ := lost call channel same
  exact ⟨eases.created ▸ created, eases.dropped channel dropped⟩

theorem Eases.placed (eases : Eases state next) (base : Base state) {point : Point}
    (placed : Placed settings state point) : Placed settings next point := by
  cases point with
  | free | entered | testing | launching | sendOpening => exact eases.settled base placed
  | releasing user reply =>
      refine ⟨eases.settled base placed.1, ?_⟩
      intro result same
      exact ⟨(placed.2 result same).1, (placed.2 result same).2.later
        (Nat.le_of_eq eases.created.symm) (eases.written _)⟩
  | sending call channel pending =>
      refine ⟨eases.owns placed.1, ?_⟩
      rw [eases.read base, eases.requests]
      exact placed.2
  | opening job used size =>
      exact ⟨eases.owns placed.1, eases.position base placed.2.1, placed.2.2⟩
  | reading job used size channel want got =>
      obtain ⟨owns, same, position, sizes⟩ := placed
      exact ⟨eases.owns owns, same, eases.position base position, sizes⟩
  | failing failure =>
      cases failure with
      | start => trivial
      | request call used => exact fun channel same => eases.owns (placed channel same)
  | dropping failure channel =>
      obtain ⟨empty, dropped, intact, lost⟩ := placed
      exact ⟨eases.empty empty, eases.dropped channel dropped,
        by rw [eases.broken, intact], eases.lost lost⟩
  | failed failure =>
      cases failure with
      | start => exact eases.settled base placed
      | request call used => exact ⟨eases.empty placed.1, eases.lost placed.2⟩

theorem set_channel_self (channel : ChannelId) (value : Channel) :
    (state.setChannel channel value).channels channel = value :=
  Function.update_self ..

theorem set_channel_of_ne {channel other : ChannelId} (different : other ≠ channel)
    (value : Channel) :
    (state.setChannel channel value).channels other = state.channels other :=
  Function.update_of_ne different ..

/-- What holds of every channel after one of them has been changed. -/
theorem set_channel_forall (property : ChannelId → Channel → Prop) {channel : ChannelId}
    {value : Channel} (changed : property channel value)
    (others : ∀ other, property other (state.channels other)) (other : ChannelId) :
    property other ((state.setChannel channel value).channels other) := by
  by_cases same : other = channel
  · subst same
    rw [set_channel_self]
    exact changed
  · rw [set_channel_of_ne same]
    exact others other

theorem base_set {channel : ChannelId} {value : Channel} (base : Base state)
    (live : state.socket = some channel → value.dropped = false ∧ value.broken = false)
    (broken : value.broken = true → channel < state.created ∧ value.dropped = true)
    (closed : value.closed = true → value.dropped = true)
    (within : value.consumed ≤ value.written.length)
    (dropped : (state.channels channel).dropped = true → value.dropped = true) :
    Base (state.setChannel channel value) where
  socket := by
    intro other socket
    have kept (named : ChannelId) : state.socket = some named →
        ((state.setChannel channel value).channels named).dropped = false ∧
          ((state.setChannel channel value).channels named).broken = false :=
      set_channel_forall (fun named found => state.socket = some named →
        found.dropped = false ∧ found.broken = false) live
        (fun named here => (base.socket named here).2) named
    exact ⟨(base.socket other socket).1, kept other socket⟩
  broken := set_channel_forall (fun other found => found.broken = true →
    other < state.created ∧ found.dropped = true) broken base.broken
  closed := set_channel_forall (fun _ found => found.closed = true →
    found.dropped = true) closed base.closed
  within := set_channel_forall (fun _ found =>
    found.consumed ≤ found.written.length) within base.within
  taken := by
    intro thread other held
    obtain ⟨created, before⟩ := base.taken thread other held
    exact ⟨created, set_channel_forall (fun named found =>
      (state.channels named).dropped = true → found.dropped = true) dropped (fun _ => id)
      other before⟩

/-- A change of one channel that the holder of the slot does not notice. -/
theorem eases_set {channel : ChannelId} {value : Channel}
    (dropped : (state.channels channel).dropped = true → value.dropped = true)
    (requests : value.requests = (state.channels channel).requests)
    (broken : value.broken = (state.channels channel).broken)
    (consumed : value.consumed = (state.channels channel).consumed)
    (written : (state.channels channel).written <+: value.written) :
    Eases state (state.setChannel channel value) where
  created := rfl
  socket := .inl rfl
  taken := by
    intro other socket gone
    change state.socket = none at gone
    rw [socket] at gone
    cases gone
  dropped := set_channel_forall (fun other found =>
    (state.channels other).dropped = true → found.dropped = true) dropped (fun _ => id)
  requests := set_channel_forall (fun other found =>
    found.requests = (state.channels other).requests) requests (fun _ => rfl)
  broken := set_channel_forall (fun other found =>
    found.broken = (state.channels other).broken) broken (fun _ => rfl)
  consumed := set_channel_forall (fun other found =>
    found.consumed = (state.channels other).consumed) consumed (fun _ => rfl)
  written := set_channel_forall (fun other found =>
    (state.channels other).written <+: found.written) written (fun _ => List.prefix_rfl)

theorem write_eases (base : Base state) (channel : ChannelId) (bytes : List Byte) :
    Base (state.setChannel channel
      { state.channels channel with written := (state.channels channel).written ++ bytes }) ∧
    Eases state (state.setChannel channel
      { state.channels channel with written := (state.channels channel).written ++ bytes }) := by
  constructor
  · apply base_set base
    · exact fun socket => (base.socket channel socket).2
    · exact base.broken channel
    · exact base.closed channel
    · have within := base.within channel
      simp only [List.length_append]
      omega
    · exact id
  · apply eases_set
    · exact id
    · rfl
    · rfl
    · rfl
    · exact List.prefix_append ..

theorem close_eases (base : Base state) {channel : ChannelId}
    (dropped : (state.channels channel).dropped = true) :
    Base (state.close channel) ∧ Eases state (state.close channel) := by
  constructor
  · apply base_set base
    · exact fun socket => (base.socket channel socket).2
    · exact base.broken channel
    · exact fun _ => dropped
    · exact base.within channel
    · exact id
  · apply eases_set
    · exact id
    · rfl
    · rfl
    · rfl
    · exact List.prefix_rfl

theorem take_socket_eases (base : Base state) {channel : ChannelId}
    (socket : state.socket = some channel) :
    Base (state.takeSocket channel) ∧ Eases state (state.takeSocket channel) := by
  have marked (other : ChannelId) : (state.channels other).dropped = true →
      ((state.takeSocket channel).channels other).dropped = true :=
    set_channel_forall (fun other found =>
      (state.channels other).dropped = true → found.dropped = true) (fun _ => rfl)
      (fun _ => id) other
  constructor
  · constructor
    · intro other gone
      cases gone
    · exact set_channel_forall (fun other found => found.broken = true →
        other < state.created ∧ found.dropped = true)
        (fun broken => ⟨(base.broken channel broken).1, rfl⟩) base.broken
    · exact set_channel_forall (fun _ found => found.closed = true → found.dropped = true)
        (fun _ => rfl) base.closed
    · exact set_channel_forall (fun _ found => found.consumed ≤ found.written.length)
        (base.within channel) base.within
    · intro thread other held
      obtain ⟨created, dropped⟩ := base.taken thread other held
      exact ⟨created, marked other dropped⟩
  · constructor
    · rfl
    · exact .inr rfl
    · intro other held _
      rw [socket] at held
      obtain rfl := Option.some.inj held
      change ((state.setChannel channel _).channels channel).dropped = true
      rw [set_channel_self]
    · exact marked
    · exact set_channel_forall (fun other found =>
        found.requests = (state.channels other).requests) rfl (fun _ => rfl)
    · exact set_channel_forall (fun other found =>
        found.broken = (state.channels other).broken) rfl (fun _ => rfl)
    · exact set_channel_forall (fun other found =>
        found.consumed = (state.channels other).consumed) rfl (fun _ => rfl)
    · exact set_channel_forall (fun other found =>
        (state.channels other).written <+: found.written) List.prefix_rfl
        (fun _ => List.prefix_rfl)

/-- `takers` is what the threads inside `_terminate` know; the holder does not see it. -/
theorem Eases.takers (eases : Eases state next) (takers : ThreadId → Option ChannelId) :
    Eases state { next with takers := takers } :=
  ⟨eases.created, eases.socket, eases.taken, eases.dropped, eases.requests, eases.broken,
    eases.consumed, eases.written⟩

theorem take_socket_step {thread : ThreadId}
    (step_eq : step settings state (.takeSocket thread) = some next) :
    ∃ channel, state.socket = some channel ∧ state.takers thread = none ∧
      next = { state.takeSocket channel with
        takers := Function.update state.takers thread (some channel) } := by
  simp only [step] at step_eq
  split at step_eq
  · rename_i channel socket idle
    exact ⟨channel, socket, idle, (Option.some.inj step_eq).symm⟩
  · cases step_eq

theorem close_step {thread : ThreadId}
    (step_eq : step settings state (.close thread) = some next) :
    ∃ channel, state.takers thread = some channel ∧
      next = { state.close channel with
        takers := Function.update state.takers thread none } := by
  simp only [step] at step_eq
  split at step_eq
  · rename_i channel held
    exact ⟨channel, held, (Option.some.inj step_eq).symm⟩
  · cases step_eq

theorem take_socket_sound {thread : ThreadId} (base : Base state)
    (taken : step settings state (.takeSocket thread) = some next) :
    Base next ∧ Eases state next := by
  obtain ⟨channel, socket, idle, rfl⟩ := take_socket_step taken
  obtain ⟨gone, eases⟩ := take_socket_eases base socket
  refine ⟨⟨gone.socket, gone.broken, gone.closed, gone.within, ?_⟩, eases.takers _⟩
  intro other channel_of held
  rcases update_found held with ⟨rfl, rfl⟩ | held
  · exact ⟨(base.socket channel socket).1, eases.taken channel socket rfl⟩
  · exact gone.taken other channel_of held

theorem close_sound {thread : ThreadId} (base : Base state)
    (taken : step settings state (.close thread) = some next) :
    Base next ∧ Eases state next := by
  obtain ⟨channel, held, rfl⟩ := close_step taken
  obtain ⟨closed, eases⟩ := close_eases base (base.taken thread channel held).2
  refine ⟨⟨closed.socket, closed.broken, closed.closed, closed.within, ?_⟩, eases.takers _⟩
  intro other channel_of held
  exact closed.taken other channel_of (update_none_found held).2

/-! ## What the holder of the slot does -/

theorem failure_placed {job : Job} {used : ChannelId} (owns : Owns state used) :
    Placed settings state (.failing (job.failure used)) := by
  cases job with
  | hello => trivial
  | header | vectors =>
      intro channel same
      cases same
      exact owns

theorem settled_of_owns {used : ChannelId} (owns : Owns state used)
    (frames : Frames (1 + 2 * (state.channels used).requests) (state.channels used).read) :
    Settled state := by
  intro channel socket
  rcases owns.live with here | ⟨gone, -⟩
  · rw [here] at socket
    cases socket
    exact frames
  · rw [gone] at socket
    cases socket

structure Fits (settings : Settings) (state : State) : Prop where
  base : Base state
  placed : Placed settings state state.holder

theorem Base.moves (base : Base state) {point : Point} (placed : Placed settings state point) :
    Fits settings (state.moveTo point) := by
  refine ⟨⟨base.socket, base.broken, base.closed, base.within, base.taken⟩, ?_⟩
  have eases : Eases state (state.moveTo point) := by
    refine ⟨rfl, .inl rfl, ?_, fun _ => id, fun _ => rfl, fun _ => rfl, fun _ => rfl,
      fun _ => List.prefix_rfl⟩
    intro channel socket gone
    change state.socket = none at gone
    rw [socket] at gone
    cases gone
  exact eases.placed base placed

theorem answers_genuine {call : Call} {header : Value} {raw text : List Byte}
    {used : ChannelId} (created : used < state.created)
    (accepted : answers settings state.dimension state.device call header raw = true)
    (loaded : settings.loads text = some header)
    (adjacent : ∃ before after, (state.channels used).written =
      before ++ (frame text ++ frame raw) ++ after) :
    Genuine settings state {
      call := call
      dimension := state.dimension
      device := state.device
      channel := used
      text := text
      header := header
      raw := raw } := by
  cases header with
  | dict get =>
      simp only [answers, Bool.and_eq_true, decide_eq_true_eq] at accepted
      obtain ⟨⟨⟨⟨⟨⟨⟨⟨⟨-, -⟩, generation⟩, request⟩, count⟩, dimension⟩, device⟩, bytes⟩, size⟩, -⟩ :=
        accepted
      exact ⟨created, ⟨get, rfl, generation, request, count, dimension, device, bytes⟩, size,
        loaded,
        adjacent⟩
  | _ => cases accepted

theorem received_sound {job : Job} {used : ChannelId} {payload : List Byte} (base : Base state)
    (owns : Owns state used) (small : payload.length ≤ maxFrame)
    (position : Position settings state job used (frame payload)) :
    Fits settings (received settings state used payload job) := by
  have tiny : payload.length < 4294967296 := Nat.lt_of_le_of_lt small (by decide)
  have fails : Fits settings (state.moveTo (.failing (job.failure used))) :=
    base.moves (failure_placed owns)
  obtain ⟨counts, before, frames, read⟩ := position
  cases job with
  | hello user requested =>
      have requests : (state.channels used).requests = 0 := counts
      have settled : Settled state := by
        apply settled_of_owns owns
        rw [requests] at frames ⊢
        rw [read]
        exact frames.append (Frames.single tiny)
      cases greeted : (settings.loads payload).bind (greets settings state.dimension requested) with
      | none =>
          simp only [received, greeted]
          exact fails
      | some pair =>
          simp only [received, greeted]
          refine ⟨⟨base.socket, base.broken, base.closed, base.within, base.taken⟩, ?_⟩
          cases user with
          | start => exact ⟨settled, by simp⟩
          | encode call => exact settled
  | header call =>
      cases loaded : settings.loads payload with
      | none =>
          simp only [received, loaded]
          exact fails
      | some parsed =>
          simp only [received, loaded]
          apply base.moves
          refine ⟨owns, ⟨⟨counts, small, loaded⟩, before, frames, ?_⟩, by simp⟩
          simpa [Job.done] using read
  | vectors call text parsed =>
      obtain ⟨positive, short, loaded⟩ := counts
      have read : (state.channels used).read = before ++ (frame text ++ frame payload) := read
      have settled : Settled state := by
        apply settled_of_owns owns
        have both := frames.append ((Frames.single (Nat.lt_of_le_of_lt short (by decide))).append
          (Frames.single tiny))
        rw [read]
        have count : 2 * (state.channels used).requests - 1 + (1 + 1) =
            1 + 2 * (state.channels used).requests := by omega
        rwa [count] at both
      by_cases accepted :
          answers settings state.dimension state.device call parsed payload = true
      · simp only [received, accepted, if_true]
        apply base.moves
        refine ⟨settled, ?_⟩
        rintro result ⟨⟩
        refine ⟨rfl, answers_genuine owns.created accepted loaded
          ⟨before, (state.channels used).written.drop (state.channels used).consumed, ?_⟩⟩
        rw [← read, Channel.read, List.take_append_drop]
      · simp only [received, accepted]
        exact fails

theorem launch_sound (base : Base state) (user : User) (device : String) :
    Fits settings {
      state.setChannel state.created {} with
      socket := some state.created
      created := state.created + 1
      holder := .opening (.hello user device) state.created none } := by
  have self : (state.setChannel state.created {}).channels state.created = {} :=
    set_channel_self ..
  constructor
  · constructor
    · rintro channel ⟨⟩
      change _ ∧ ((state.setChannel state.created {}).channels state.created).dropped = false ∧
        ((state.setChannel state.created {}).channels state.created).broken = false
      rw [self]
      exact ⟨Nat.lt_succ_self _, rfl, rfl⟩
    · exact set_channel_forall (fun other found => found.broken = true →
        other < state.created + 1 ∧ found.dropped = true) (fun broken => by cases broken)
        (fun other broken => ⟨Nat.lt_succ_of_lt (base.broken other broken).1,
          (base.broken other broken).2⟩)
    · exact set_channel_forall (fun _ found => found.closed = true → found.dropped = true)
        (fun closed => by cases closed) base.closed
    · exact set_channel_forall (fun _ found => found.consumed ≤ found.written.length)
        (Nat.le_refl 0) base.within
    · intro thread other held
      obtain ⟨created, dropped⟩ := base.taken thread other held
      refine ⟨Nat.lt_succ_of_lt created, ?_⟩
      change ((state.setChannel state.created {}).channels other).dropped = true
      rw [set_channel_of_ne (Nat.ne_of_lt created)]
      exact dropped
  · refine ⟨⟨Nat.lt_succ_self _, ?_, .inl rfl⟩, ⟨?_, [], ?_, ?_⟩, by simp⟩
    · change ((state.setChannel state.created {}).channels state.created).broken = false
      rw [self]
    · change ((state.setChannel state.created {}).channels state.created).requests = 0
      rw [self]
    · change Frames
        (2 * ((state.setChannel state.created {}).channels state.created).requests - 1) []
      rw [self]
      exact .none
    · change ((state.setChannel state.created {}).channels state.created).read = _
      rw [self]
      rfl

theorem sent_sound {call : Call} {used : ChannelId} (base : Base state) (owns : Owns state used)
    (frames : Frames (1 + 2 * (state.channels used).requests) (state.channels used).read) :
    Fits settings ((state.setChannel used
      { state.channels used with requests := (state.channels used).requests + 1 }).moveTo
        (.opening (.header call) used none)) := by
  have sent : Base (state.setChannel used
      { state.channels used with requests := (state.channels used).requests + 1 }) := by
    apply base_set base
    · exact fun socket => (base.socket used socket).2
    · exact base.broken used
    · exact base.closed used
    · exact base.within used
    · exact id
  apply sent.moves
  refine ⟨⟨owns.created, ?_, ?_⟩, ⟨?_, (state.channels used).read, ?_, ?_⟩, by simp⟩
  · rw [set_channel_self]
    exact owns.intact
  · rw [set_channel_self]
    exact owns.live
  · rw [set_channel_self]
    exact Nat.succ_pos _
  · rw [set_channel_self]
    have count : 2 * ((state.channels used).requests + 1) - 1 =
        1 + 2 * (state.channels used).requests := by omega
    change Frames (2 * ((state.channels used).requests + 1) - 1) _
    rw [count]
    exact frames
  · rw [set_channel_self]
    simp [Job.done, Channel.read]

theorem chunk_sound {job : Job} {used : ChannelId} {size : Option Nat} {want taken : Nat}
    {got : List Byte} (base : Base state) (owns : Owns state used)
    (position : Position settings state job used (size.elim [] pack ++ got))
    (length : got.length + want = size.getD 4)
    (sizes : ∀ known, size = some known → known ≤ maxFrame) (enough : taken ≤ want)
    (there : (state.channels used).consumed + taken ≤ (state.channels used).written.length) :
    Fits settings ((state.setChannel used
      { state.channels used with consumed := (state.channels used).consumed + taken }).moveTo
        (.reading job used size used (want - taken)
          (got ++ ((state.channels used).written.drop
            (state.channels used).consumed).take taken))) := by
  have moved : Base (state.setChannel used
      { state.channels used with consumed := (state.channels used).consumed + taken }) := by
    apply base_set base
    · exact fun socket => (base.socket used socket).2
    · exact base.broken used
    · exact base.closed used
    · exact there
    · exact id
  obtain ⟨counts, before, frames, read⟩ := position
  apply moved.moves
  refine ⟨⟨owns.created, ?_, ?_⟩, rfl, ⟨?_, before, ?_, ?_⟩, ?_, sizes⟩
  · rw [set_channel_self]
    exact owns.intact
  · rw [set_channel_self]
    exact owns.live
  · rw [set_channel_self]
    exact counts
  · rw [set_channel_self]
    exact frames
  · rw [set_channel_self]
    change (state.channels used).written.take ((state.channels used).consumed + taken) = _
    have read : (state.channels used).written.take (state.channels used).consumed =
        before ++ (job.done ++ (size.elim [] pack ++ got)) := read
    rw [List.take_add, read]
    simp only [List.append_assoc]
  · simp only [List.length_append, List.length_take, List.length_drop]
    omega

theorem got_frame {got : List Byte} {known : Nat} (length : got.length = known) :
    pack known ++ got = frame got := by
  rw [frame, length]

/-! ### One lemma for each point -/

theorem send_opening_sound {call : Call} (base : Base state) (settled : Settled state) :
    Fits settings (state.moveTo
      (match state.socket with
      | some channel =>
          if call.payload.length > maxFrame then .failing (.request call none)
          else .sending call channel (frame call.payload)
      | none => .failing (.request call none))) := by
  have unsent : Placed settings state (.failing (.request call none)) := by
    intro other same
    cases same
  apply base.moves
  split
  · rename_i channel socket
    split_ifs
    · exact unsent
    · obtain ⟨created, -, intact⟩ := base.socket channel socket
      exact ⟨⟨created, intact, .inl socket⟩, settled channel socket⟩
  · exact unsent

theorem opening_sound {job : Job} {used : ChannelId} {size : Option Nat} (base : Base state)
    (placed : Placed settings state (.opening job used size)) :
    Fits settings (state.moveTo
      (match state.socket with
      | some channel => .reading job used size channel (size.getD 4) []
      | none => .failing (job.failure used))) := by
  obtain ⟨owns, position, sizes⟩ := placed
  apply base.moves
  split
  · rename_i channel socket
    have same : channel = used := by
      rcases owns.live with here | ⟨gone, -⟩
      · rw [here] at socket
        exact (Option.some.inj socket).symm
      · rw [gone] at socket
        cases socket
    exact ⟨owns, same, by rwa [List.append_nil], by simp, sizes⟩
  · exact failure_placed owns

theorem size_sound {job : Job} {used channel : ChannelId} {got : List Byte} (base : Base state)
    (placed : Placed settings state (.reading job used none channel 0 got)) :
    Fits settings (state.moveTo
      (if unpack got > maxFrame then .failing (job.failure used)
      else .opening job used (some (unpack got)))) := by
  obtain ⟨owns, rfl, position, length, -⟩ := placed
  apply base.moves
  split_ifs with large
  · exact failure_placed owns
  · refine ⟨owns, ?_, ?_⟩
    · rw [Option.elim, pack_unpack got (by simpa using length)]
      simpa using position
    · rintro known ⟨⟩
      omega

/-- Whoever has emptied `_socket`, the channel of a failed request has been taken. -/
theorem lost_of_owns {call : Call} {used : Option ChannelId}
    (owns : ∀ channel, used = some channel → Owns state channel) (empty : state.socket = none) :
    Lost state (.request call used) := by
  rintro _ other ⟨⟩
  have owned := owns other rfl
  refine ⟨owned.created, ?_⟩
  rcases owned.live with here | ⟨-, dropped⟩
  · rw [empty] at here
    cases here
  · exact dropped

theorem settled_of_empty (empty : state.socket = none) : Settled state := by
  intro channel socket
  rw [empty] at socket
  cases socket

theorem failing_sound {failure : Failure} (base : Base state)
    (placed : Placed settings state (.failing failure)) :
    Fits settings (match state.socket with
      | some channel => (state.takeSocket channel).moveTo (.dropping failure channel)
      | none => state.moveTo (.failed failure)) := by
  cases socket : state.socket with
  | some channel =>
      obtain ⟨gone, eases⟩ := take_socket_eases base socket
      apply gone.moves
      refine ⟨rfl, eases.taken channel socket rfl, ?_, ?_⟩
      · rw [eases.broken]
        exact (base.socket channel socket).2.2
      · cases failure with
        | start user => rintro _ _ ⟨⟩
        | request call used =>
            exact lost_of_owns (fun other same => eases.owns (placed other same)) rfl
  | none =>
      apply base.moves
      cases failure with
      | start user => exact settled_of_empty socket
      | request call used => exact ⟨socket, lost_of_owns placed socket⟩

theorem dropping_sound {failure : Failure} {channel : ChannelId} (base : Base state)
    (placed : Placed settings state (.dropping failure channel)) :
    Fits settings ((state.close channel).moveTo (.failed failure)) := by
  obtain ⟨empty, dropped, -, lost⟩ := placed
  obtain ⟨closed, eases⟩ := close_eases base dropped
  apply closed.moves
  cases failure with
  | start user => exact settled_of_empty (eases.empty empty)
  | request call used => exact ⟨eases.empty empty, eases.lost lost⟩

theorem failed_sound {failure : Failure} (base : Base state)
    (placed : Placed settings state (.failed failure)) :
    Fits settings ((match failure with
      | .request _ (some used) =>
          state.setChannel used { state.channels used with broken := true }
      | _ => state).moveTo (.releasing failure.user none)) := by
  cases failure with
  | start user =>
      apply base.moves
      exact ⟨placed, by simp⟩
  | request call used =>
      obtain ⟨empty, lost⟩ := placed
      cases used with
      | none =>
          apply base.moves
          exact ⟨settled_of_empty empty, by simp⟩
      | some used =>
          obtain ⟨created, dropped⟩ := lost call used rfl
          have broken : Base (state.setChannel used
              { state.channels used with broken := true }) := by
            apply base_set base
            · intro here
              rw [empty] at here
              cases here
            · exact fun _ => ⟨created, dropped⟩
            · exact base.closed used
            · exact base.within used
            · exact id
          apply broken.moves
          refine ⟨settled_of_empty ?_, by simp⟩
          exact empty

theorem advance_sound {point : Point} {choice : Choice} (base : Base state)
    (placed : Placed settings state point)
    (taken : advance settings state point choice = some next) : Fits settings next := by
  unfold advance at taken
  split at taken
  -- entered
  · obtain rfl := Option.some.inj taken
    exact base.moves placed
  · obtain rfl := Option.some.inj taken
    exact ⟨⟨base.socket, base.broken, base.closed, base.within, base.taken⟩, placed⟩
  -- testing
  · obtain rfl := Option.some.inj taken
    apply base.moves
    exact ⟨placed, by simp⟩
  · rename_i user
    obtain rfl := Option.some.inj taken
    apply base.moves
    cases user with
    | start => exact ⟨placed, by simp⟩
    | encode call => exact placed
  · obtain rfl := Option.some.inj taken
    exact base.moves placed
  -- launching
  · obtain rfl := Option.some.inj taken
    exact base.moves placed
  · obtain rfl := Option.some.inj taken
    exact launch_sound base _ _
  -- sendOpening
  · obtain rfl := Option.some.inj taken
    exact send_opening_sound base placed
  -- sending
  · split_ifs at taken with legal last
    · obtain rfl := Option.some.inj taken
      exact sent_sound base placed.1 placed.2
    · obtain rfl := Option.some.inj taken
      exact base.moves placed
  · obtain rfl := Option.some.inj taken
    apply base.moves
    rintro other ⟨⟩
    exact placed.1
  -- opening
  · obtain rfl := Option.some.inj taken
    apply base.moves
    trivial
  · obtain rfl := Option.some.inj taken
    exact opening_sound base placed
  -- reading
  · split_ifs at taken with legal
    obtain rfl := Option.some.inj taken
    obtain ⟨owns, rfl, position, length, sizes⟩ := placed
    exact chunk_sound base owns position length sizes legal.2.1 legal.2.2.2
  · obtain rfl := Option.some.inj taken
    exact base.moves (failure_placed placed.1)
  · obtain rfl := Option.some.inj taken
    exact size_sound base placed
  · rename_i job used known channel got
    obtain rfl := Option.some.inj taken
    obtain ⟨owns, rfl, position, length, sizes⟩ := placed
    have size : got.length = known := by simpa using length
    refine received_sound base owns (size ▸ sizes known rfl) ?_
    rwa [Option.elim, got_frame size] at position
  -- failing
  · obtain rfl := Option.some.inj taken
    exact failing_sound base placed
  -- dropping
  · obtain rfl := Option.some.inj taken
    exact dropping_sound base placed
  -- failed
  · obtain rfl := Option.some.inj taken
    exact base.moves placed
  · obtain rfl := Option.some.inj taken
    exact failed_sound base placed
  -- releasing
  · obtain rfl := Option.some.inj taken
    exact base.moves placed.1
  · obtain rfl := Option.some.inj taken
    exact ⟨⟨base.socket, base.broken, base.closed, base.within, base.taken⟩, placed.1⟩
  · cases taken

theorem Fits.unchanged (fits : Fits settings state) (socket : next.socket = state.socket)
    (channels : next.channels = state.channels) (created : next.created = state.created)
    (holder : next.holder = state.holder) (takers : next.takers = state.takers) :
    Fits settings next := by
  have eases : Eases state next := by
    refine ⟨created, .inl socket, ?_, ?_, ?_, ?_, ?_, ?_⟩
    · intro channel here gone
      rw [socket, here] at gone
      cases gone
    all_goals simp [channels]
  refine ⟨⟨?_, ?_, ?_, ?_, ?_⟩, ?_⟩
  · rw [socket, channels, created]
    exact fits.base.socket
  · rw [channels, created]
    exact fits.base.broken
  · rw [channels]
    exact fits.base.closed
  · rw [channels]
    exact fits.base.within
  · rw [takers, channels, created]
    exact fits.base.taken
  · rw [holder]
    exact eases.placed fits.base fits.placed

theorem step_fits {action : Action} (fits : Fits settings state)
    (taken : step settings state action = some next) : Fits settings next := by
  obtain ⟨base, placed⟩ := fits
  cases action with
  | start =>
      simp only [step] at taken
      split at taken
      · rename_i free
        obtain rfl := Option.some.inj taken
        rw [free] at placed
        exact base.moves placed
      · cases taken
  | encode count payload =>
      simp only [step] at taken
      split at taken
      · rename_i free
        split_ifs at taken
        obtain rfl := Option.some.inj taken
        rw [free] at placed
        exact ⟨⟨base.socket, base.broken, base.closed, base.within, base.taken⟩, placed⟩
      · cases taken
  | run choice => exact advance_sound base placed taken
  | write channel bytes =>
      obtain ⟨-, same⟩ := Option.ite_none_right_eq_some.mp taken
      obtain rfl := Option.some.inj same
      obtain ⟨written, eases⟩ := write_eases base channel bytes
      exact ⟨written, eases.placed base placed⟩
  | takeSocket thread =>
      obtain ⟨gone, eases⟩ := take_socket_sound base taken
      obtain ⟨channel, -, -, rfl⟩ := take_socket_step taken
      exact ⟨gone, eases.placed base placed⟩
  | close thread =>
      obtain ⟨closed, eases⟩ := close_sound base taken
      obtain ⟨channel, -, rfl⟩ := close_step taken
      exact ⟨closed, eases.placed base placed⟩
  | giveUp identity =>
      simp only [step] at taken
      split at taken
      · obtain rfl := Option.some.inj taken
        exact Fits.unchanged ⟨base, placed⟩ rfl rfl rfl rfl rfl
      · cases taken
  | collect identity =>
      simp only [step] at taken
      split at taken
      · obtain rfl := Option.some.inj taken
        exact Fits.unchanged ⟨base, placed⟩ rfl rfl rfl rfl rfl
      · obtain rfl := Option.some.inj taken
        exact Fits.unchanged ⟨base, placed⟩ rfl rfl rfl rfl rfl
      · cases taken

end HermesCashew.EmbeddingChannel
