import HermesCashew.EmbeddingPositions

/-!
# No stale reply

The two frames that a request reads belong to it, and a request that fails takes the
channel out of use: the thread that has emptied `_socket` closes it.
-/

namespace HermesCashew.EmbeddingChannel

open HermesCashew.Framing HermesCashew.Transition

set_option autoImplicit false

variable {settings : Settings} {state next : State}

/-! ## The callers -/

def User.call : User → Option Call
  | .start => none
  | .encode call => some call

def Job.call : Job → Option Call
  | .hello user _ => user.call
  | .header call | .vectors call _ _ => some call

def Point.call : Point → Option Call
  | .free => none
  | .entered user | .testing user | .launching user | .releasing user _ => user.call
  | .sendOpening call | .sending call _ _ => some call
  | .opening job _ _ | .reading job _ _ _ _ _ => job.call
  | .failing failure | .dropping failure _ | .failed failure => failure.user.call

def Caller.call : Caller → Option Call
  | .absent => none
  | .waiting call | .gaveUp call | .raised call | .returned call _ => some call

theorem served_call (user : User) : user.served.call = user.call := by
  cases user <;> rfl

theorem failure_call (job : Job) (used : ChannelId) :
    (job.failure used).user.call = job.call := by
  cases job <;> rfl

structure Keeps (state next : State) (point : Point) : Prop where
  created : state.created ≤ next.created
  written : ∀ channel, channel < state.created →
    (state.channels channel).written <+: (next.channels channel).written
  callers : next.callers = state.callers
  calls : next.calls = state.calls
  holder : next.holder.call = none ∨ next.holder.call = point.call
  finished : ∀ identity reply, next.finished identity = some (some reply) →
    state.finished identity = some (some reply) ∨
      ∃ call, point = .releasing (.encode call) (some reply) ∧ call.identity = identity

theorem keeps_move {point target : Point} (call : target.call = none ∨ target.call = point.call) :
    Keeps state (state.moveTo target) point :=
  ⟨Nat.le_refl _, fun _ _ => List.prefix_rfl, rfl, rfl, call, fun _ _ => .inl⟩

theorem set_channel_written {channel : ChannelId} {value : Channel}
    (written : value.written = (state.channels channel).written) (other : ChannelId) :
    (state.channels other).written <+:
      ((state.setChannel channel value).channels other).written := by
  refine set_channel_forall
    (fun other found => (state.channels other).written <+: found.written) ?_
    (fun _ => List.prefix_rfl) other
  rw [written]

theorem keeps_set {point target : Point} {channel : ChannelId} {value : Channel}
    (call : target.call = none ∨ target.call = point.call)
    (written : value.written = (state.channels channel).written) :
    Keeps state ((state.setChannel channel value).moveTo target) point := by
  refine ⟨Nat.le_refl _, fun other _ => ?_, rfl, rfl, call, fun _ _ => .inl⟩
  exact set_channel_written written other

theorem received_keeps (job : Job) (used : ChannelId) (payload : List Byte) {point : Point}
    (same : point.call = job.call) :
    Keeps state (received settings state used payload job) point := by
  cases job with
  | hello user requested =>
      cases greeted : (settings.loads payload).bind (greets settings state.dimension requested) with
      | none =>
          simp only [received, greeted]
          exact keeps_move (.inr same.symm)
      | some pair =>
          simp only [received, greeted]
          exact ⟨Nat.le_refl _, fun _ _ => List.prefix_rfl, rfl, rfl,
            .inr ((served_call user).trans same.symm), fun _ _ => .inl⟩
  | header call =>
      cases loaded : settings.loads payload with
      | none =>
          simp only [received, loaded]
          exact keeps_move (.inr same.symm)
      | some parsed =>
          simp only [received, loaded]
          exact keeps_move (.inr same.symm)
  | vectors call text parsed =>
      simp only [received]
      split_ifs
      · exact keeps_move (.inr same.symm)
      · exact keeps_move (.inr same.symm)

theorem advance_keeps {point : Point} {choice : Choice}
    (taken : advance settings state point choice = some next) : Keeps state next point := by
  unfold advance at taken
  split at taken
  -- entered
  · obtain rfl := Option.some.inj taken
    exact keeps_move (.inr rfl)
  · obtain rfl := Option.some.inj taken
    refine ⟨Nat.le_refl _, fun _ _ => List.prefix_rfl, rfl, rfl, .inl rfl, ?_⟩
    intro identity reply found
    left
    rcases update_found found with ⟨-, same⟩ | found
    · cases same
    · exact found
  -- testing
  · obtain rfl := Option.some.inj taken
    exact keeps_move (.inr rfl)
  · obtain rfl := Option.some.inj taken
    exact keeps_move (.inr (served_call _))
  · obtain rfl := Option.some.inj taken
    exact keeps_move (.inr rfl)
  -- launching
  · obtain rfl := Option.some.inj taken
    exact keeps_move (.inr rfl)
  · obtain rfl := Option.some.inj taken
    refine ⟨Nat.le_succ _, ?_, rfl, rfl, .inr rfl, fun _ _ => .inl⟩
    intro channel created
    change _ <+: ((state.setChannel state.created {}).channels channel).written
    rw [set_channel_of_ne (Nat.ne_of_lt created)]
  -- sendOpening
  · obtain rfl := Option.some.inj taken
    apply keeps_move
    right
    split
    · split_ifs <;> rfl
    · rfl
  -- sending
  · split_ifs at taken
    · obtain rfl := Option.some.inj taken
      exact keeps_set (.inr rfl) rfl
    · obtain rfl := Option.some.inj taken
      exact keeps_move (.inr rfl)
  · obtain rfl := Option.some.inj taken
    exact keeps_move (.inr rfl)
  -- opening
  · obtain rfl := Option.some.inj taken
    exact keeps_move (.inr rfl)
  · obtain rfl := Option.some.inj taken
    apply keeps_move
    right
    split
    · rfl
    · exact failure_call _ _
  -- reading
  · split_ifs at taken
    obtain rfl := Option.some.inj taken
    exact keeps_set (.inr rfl) rfl
  · obtain rfl := Option.some.inj taken
    exact keeps_move (.inr (failure_call _ _))
  · obtain rfl := Option.some.inj taken
    apply keeps_move
    right
    split_ifs
    · exact failure_call _ _
    · rfl
  · obtain rfl := Option.some.inj taken
    exact received_keeps _ _ _ rfl
  -- failing
  · rename_i failure
    obtain rfl := Option.some.inj taken
    cases state.socket with
    | some channel =>
        refine ⟨Nat.le_refl _, fun other _ => ?_, rfl, rfl, .inr rfl, fun _ _ => .inl⟩
        have same : ({ state.channels channel with dropped := true } : Channel).written =
            (state.channels channel).written := rfl
        exact set_channel_written same other
    | none => exact keeps_move (.inr rfl)
  -- dropping
  · obtain rfl := Option.some.inj taken
    exact keeps_set (.inr rfl) rfl
  -- failed
  · obtain rfl := Option.some.inj taken
    exact keeps_move (.inr rfl)
  · rename_i failure
    obtain rfl := Option.some.inj taken
    cases failure with
    | start user => exact keeps_move (.inr rfl)
    | request call used =>
        cases used with
        | none => exact keeps_move (.inr rfl)
        | some used => exact keeps_set (.inr rfl) rfl
  -- releasing
  · obtain rfl := Option.some.inj taken
    exact keeps_move (.inl rfl)
  · obtain rfl := Option.some.inj taken
    refine ⟨Nat.le_refl _, fun _ _ => List.prefix_rfl, rfl, rfl, .inl rfl, ?_⟩
    intro identity result found
    rcases update_found found with ⟨same, rfl⟩ | found
    · exact .inr ⟨_, rfl, same.symm⟩
    · exact .inl found
  · cases taken

structure Answered (settings : Settings) (state : State) : Prop where
  named : ∀ identity call, (state.callers identity).call = some call →
    call.identity = identity ∧ identity < state.calls
  held : ∀ call, state.holder.call = some call →
    (state.callers call.identity).call = some call
  finished : ∀ identity reply, state.finished identity = some (some reply) →
    (state.callers identity).call = some reply.call ∧ Genuine settings state reply
  returned : ∀ identity call reply, state.callers identity = .returned call reply →
    reply.call = call ∧ Genuine settings state reply

/-- A caller may stop to wait, but stands for the same call. -/
theorem Answered.answer {identity : CallId} {caller : Caller} (answered : Answered settings state)
    (call : caller.call = (state.callers identity).call)
    (returned : ∀ call reply, caller = .returned call reply →
      reply.call = call ∧ Genuine settings state reply) :
    Answered settings { state with callers := Function.update state.callers identity caller } := by
  have same (other : CallId) :
      (Function.update state.callers identity caller other).call =
        (state.callers other).call := by
    by_cases here : other = identity
    · subst here
      rw [Function.update_self, call]
    · rw [Function.update_of_ne here]
  have later {reply : Reply} (genuine : Genuine settings state reply) :
      Genuine settings
        { state with callers := Function.update state.callers identity caller } reply :=
    genuine.later (Nat.le_refl _) List.prefix_rfl
  refine ⟨?_, ?_, ?_, ?_⟩
  · intro other found here
    exact answered.named other found ((same other).symm.trans here)
  · intro found here
    exact (same _).trans (answered.held found here)
  · intro other reply here
    obtain ⟨found, genuine⟩ := answered.finished other reply here
    exact ⟨(same other).trans found, later genuine⟩
  · intro other found reply here
    change Function.update state.callers identity caller other = _ at here
    by_cases at_ : other = identity
    · subst at_
      rw [Function.update_self] at here
      obtain ⟨equal, genuine⟩ := returned found reply here
      exact ⟨equal, later genuine⟩
    · rw [Function.update_of_ne at_] at here
      obtain ⟨equal, genuine⟩ := answered.returned other found reply here
      exact ⟨equal, later genuine⟩

theorem Answered.keeps {point : Point} (answered : Answered settings state)
    (placed : Placed settings state point) (here : state.holder = point)
    (keeps : Keeps state next point) : Answered settings next := by
  have later {reply : Reply} (genuine : Genuine settings state reply) :
      Genuine settings next reply :=
    genuine.later keeps.created (keeps.written _ genuine.created)
  refine ⟨?_, ?_, ?_, ?_⟩
  · rw [keeps.callers, keeps.calls]
    exact answered.named
  · intro call found
    rw [keeps.callers]
    rcases keeps.holder with gone | same
    · rw [gone] at found
      cases found
    · rw [same, ← here] at found
      exact answered.held call found
  · intro identity reply found
    rw [keeps.callers]
    rcases keeps.finished identity reply found with before | ⟨call, rfl, rfl⟩
    · obtain ⟨caller, genuine⟩ := answered.finished identity reply before
      exact ⟨caller, later genuine⟩
    · obtain ⟨same, genuine⟩ := placed.2 reply rfl
      cases same
      exact ⟨answered.held reply.call (by rw [here]; rfl), later genuine⟩
  · rw [keeps.callers]
    intro identity call reply found
    obtain ⟨same, genuine⟩ := answered.returned identity call reply found
    exact ⟨same, later genuine⟩

theorem Eases.keeps (eases : Eases state next) (holder : next.holder = state.holder)
    (callers : next.callers = state.callers) (calls : next.calls = state.calls)
    (finished : next.finished = state.finished) : Keeps state next state.holder := by
  refine ⟨Nat.le_of_eq eases.created.symm, fun channel _ => eases.written channel, callers, calls,
    .inr (congrArg Point.call holder), ?_⟩
  rw [finished]
  exact fun _ _ => .inl

/-- A new call of `encode`. -/
theorem Answered.issue {call : Call} (answered : Answered settings state)
    (identity : call.identity = state.calls) :
    Answered settings {
      state with
      holder := .entered (.encode call)
      calls := state.calls + 1
      callers := Function.update state.callers state.calls (.waiting call) } := by
  have later {reply : Reply} (genuine : Genuine settings state reply) :
      Genuine settings {
        state with
        holder := .entered (.encode call)
        calls := state.calls + 1
        callers := Function.update state.callers state.calls (.waiting call) } reply :=
    genuine.later (Nat.le_refl _) List.prefix_rfl
  refine ⟨?_, ?_, ?_, ?_⟩
  · intro other found here
    change (Function.update state.callers state.calls (.waiting call) other).call = _ at here
    by_cases same : other = state.calls
    · subst same
      rw [Function.update_self] at here
      cases here
      exact ⟨identity, Nat.lt_succ_self _⟩
    · rw [Function.update_of_ne same] at here
      obtain ⟨named, below⟩ := answered.named other found here
      exact ⟨named, Nat.lt_succ_of_lt below⟩
  · rintro found ⟨⟩
    change (Function.update state.callers state.calls (.waiting call) call.identity).call = _
    rw [identity, Function.update_self]
    rfl
  · intro other reply here
    obtain ⟨found, genuine⟩ := answered.finished other reply here
    have different : other ≠ state.calls :=
      Nat.ne_of_lt (answered.named other reply.call found).2
    refine ⟨?_, later genuine⟩
    change (Function.update state.callers state.calls (.waiting call) other).call = _
    rw [Function.update_of_ne different]
    exact found
  · intro other found reply here
    change Function.update state.callers state.calls (.waiting call) other = _ at here
    by_cases same : other = state.calls
    · subst same
      rw [Function.update_self] at here
      cases here
    · rw [Function.update_of_ne same] at here
      obtain ⟨equal, genuine⟩ := answered.returned other found reply here
      exact ⟨equal, later genuine⟩

theorem step_answered {action : Action} (fits : Fits settings state)
    (answered : Answered settings state) (taken : step settings state action = some next) :
    Answered settings next := by
  obtain ⟨base, placed⟩ := fits
  cases action with
  | start =>
      simp only [step] at taken
      split at taken
      · rename_i free
        obtain rfl := Option.some.inj taken
        rw [free] at placed
        exact answered.keeps placed free (keeps_move (.inl rfl))
      · cases taken
  | encode count payload =>
      simp only [step] at taken
      split at taken
      · rename_i free
        split_ifs at taken
        obtain rfl := Option.some.inj taken
        exact answered.issue rfl
      · cases taken
  | run choice => exact answered.keeps placed rfl (advance_keeps taken)
  | write channel bytes =>
      obtain ⟨-, same⟩ := Option.ite_none_right_eq_some.mp taken
      obtain rfl := Option.some.inj same
      obtain ⟨-, eases⟩ := write_eases base channel bytes
      exact answered.keeps placed rfl (eases.keeps rfl rfl rfl rfl)
  | takeSocket thread =>
      obtain ⟨-, eases⟩ := take_socket_sound base taken
      obtain ⟨channel, -, -, rfl⟩ := take_socket_step taken
      exact answered.keeps placed rfl (eases.keeps rfl rfl rfl rfl)
  | close thread =>
      obtain ⟨-, eases⟩ := close_sound base taken
      obtain ⟨channel, -, rfl⟩ := close_step taken
      exact answered.keeps placed rfl (eases.keeps rfl rfl rfl rfl)
  | giveUp identity =>
      simp only [step] at taken
      split at taken
      · rename_i call waiting
        obtain rfl := Option.some.inj taken
        exact answered.answer (by rw [waiting]; rfl) (by simp)
      · cases taken
  | collect identity =>
      simp only [step] at taken
      split at taken
      · rename_i call reply waiting done
        obtain rfl := Option.some.inj taken
        apply answered.answer (by rw [waiting]; rfl)
        rintro _ _ ⟨⟩
        obtain ⟨caller, genuine⟩ := answered.finished identity reply done
        rw [waiting] at caller
        exact ⟨(Option.some.inj caller).symm, genuine⟩
      · rename_i call waiting done
        obtain rfl := Option.some.inj taken
        exact answered.answer (by rw [waiting]; rfl) (by simp)
      · cases taken

/-! ## A worker that answers each request -/

/-- The worker writes no more than its greeting and two frames for each request that it
has received as a whole. -/
def answersInTurn (state : State) : Action → Prop
  | .write channel bytes => ∃ count whole, count ≤ 1 + 2 * (state.channels channel).requests ∧
      Frames count whole ∧ (state.channels channel).written ++ bytes <+: whole
  | _ => True

def InTurn (state : State) : Prop :=
  ∀ channel, ∃ count whole, count ≤ 1 + 2 * (state.channels channel).requests ∧
    Frames count whole ∧ (state.channels channel).written <+: whole

theorem in_turn_set {channel : ChannelId} {value : Channel} (turn : InTurn state)
    (changed : ∃ count whole, count ≤ 1 + 2 * value.requests ∧ Frames count whole ∧
      value.written <+: whole) : InTurn (state.setChannel channel value) :=
  set_channel_forall (fun _ found => ∃ count whole, count ≤ 1 + 2 * found.requests ∧
    Frames count whole ∧ found.written <+: whole) changed turn

/-- What a step of the holder of the slot does to a channel that exists: only a reader of the
channel takes bytes from it, and a holder that takes it out of `_socket` closes it next. -/
structure Handles (state next : State) (point : Point) (channel : ChannelId) : Prop where
  written : (next.channels channel).written = (state.channels channel).written
  requests : (state.channels channel).requests ≤ (next.channels channel).requests
  consumed : (next.channels channel).consumed = (state.channels channel).consumed ∨
    ∃ job used size want got, point = .reading job used size channel want got
  closed : (state.channels channel).closed = true → (next.channels channel).closed = true
  dropped : (next.channels channel).dropped = true → (state.channels channel).dropped = true ∨
    ∃ failure, next.holder = .dropping failure channel

structure Touches (state next : State) (point : Point) : Prop where
  takers : next.takers = state.takers
  /-- A new channel is empty. -/
  channels : ∀ channel, (channel = state.created ∧ next.channels channel = {}) ∨
    Handles state next point channel

theorem handles_same {point : Point} {channel : ChannelId}
    (kept : next.channels channel = state.channels channel) :
    Handles state next point channel := by
  constructor
  all_goals rw [kept]
  · exact .inl rfl
  · exact id
  · exact .inl

theorem touches_same {point : Point} (channels : next.channels = state.channels)
    (takers : next.takers = state.takers) : Touches state next point :=
  ⟨takers, fun channel => .inr (handles_same (congrFun channels channel))⟩

theorem touches_set {point : Point} {channel : ChannelId} {value : Channel}
    (same : next.channels = (state.setChannel channel value).channels)
    (takers : next.takers = state.takers)
    (written : value.written = (state.channels channel).written)
    (requests : (state.channels channel).requests ≤ value.requests)
    (consumed : value.consumed = (state.channels channel).consumed ∨
      ∃ job used size want got, point = .reading job used size channel want got)
    (closed : (state.channels channel).closed = true → value.closed = true)
    (dropped : value.dropped = true → (state.channels channel).dropped = true ∨
      ∃ failure, next.holder = .dropping failure channel) : Touches state next point := by
  refine ⟨takers, fun other => .inr ?_⟩
  by_cases here : other = channel
  · subst here
    have self : next.channels other = value := by
      rw [same, set_channel_self]
    constructor
    all_goals rw [self]
    · exact written
    · exact requests
    · exact consumed
    · exact closed
    · exact dropped
  · apply handles_same
    rw [same, set_channel_of_ne here]

theorem received_unchanged (job : Job) (used : ChannelId) (payload : List Byte) :
    (received settings state used payload job).channels = state.channels ∧
      (received settings state used payload job).takers = state.takers := by
  unfold received
  split
  · split <;> exact ⟨rfl, rfl⟩
  · split <;> exact ⟨rfl, rfl⟩
  · split <;> exact ⟨rfl, rfl⟩

theorem launch_touches (user : User) (device : String) :
    Touches state {
      state.setChannel state.created {} with
      socket := some state.created
      created := state.created + 1
      holder := .opening (.hello user device) state.created none } (.launching user) := by
  refine ⟨rfl, fun channel => ?_⟩
  by_cases same : channel = state.created
  · exact .inl ⟨same, by rw [same]; exact set_channel_self _ _⟩
  · exact .inr (handles_same (set_channel_of_ne same _))

theorem advance_touches {point : Point} {choice : Choice}
    (taken : advance settings state point choice = some next) : Touches state next point := by
  unfold advance at taken
  split at taken
  -- entered
  · obtain rfl := Option.some.inj taken
    exact touches_same rfl rfl
  · obtain rfl := Option.some.inj taken
    exact touches_same rfl rfl
  -- testing
  · obtain rfl := Option.some.inj taken
    exact touches_same rfl rfl
  · obtain rfl := Option.some.inj taken
    exact touches_same rfl rfl
  · obtain rfl := Option.some.inj taken
    exact touches_same rfl rfl
  -- launching
  · obtain rfl := Option.some.inj taken
    exact touches_same rfl rfl
  · obtain rfl := Option.some.inj taken
    exact launch_touches _ _
  -- sendOpening
  · obtain rfl := Option.some.inj taken
    exact touches_same rfl rfl
  -- sending
  · split_ifs at taken
    · obtain rfl := Option.some.inj taken
      exact touches_set rfl rfl rfl (Nat.le_succ _) (.inl rfl) id .inl
    · obtain rfl := Option.some.inj taken
      exact touches_same rfl rfl
  · obtain rfl := Option.some.inj taken
    exact touches_same rfl rfl
  -- opening
  · obtain rfl := Option.some.inj taken
    exact touches_same rfl rfl
  · obtain rfl := Option.some.inj taken
    exact touches_same rfl rfl
  -- reading
  · split_ifs at taken
    obtain rfl := Option.some.inj taken
    exact touches_set rfl rfl rfl (Nat.le_refl _) (.inr ⟨_, _, _, _, _, rfl⟩) id .inl
  · obtain rfl := Option.some.inj taken
    exact touches_same rfl rfl
  · obtain rfl := Option.some.inj taken
    exact touches_same rfl rfl
  · obtain rfl := Option.some.inj taken
    exact touches_same (received_unchanged _ _ _).1 (received_unchanged _ _ _).2
  -- failing
  · obtain rfl := Option.some.inj taken
    cases state.socket with
    | some channel =>
        exact touches_set rfl rfl rfl (Nat.le_refl _) (.inl rfl) id (fun _ => .inr ⟨_, rfl⟩)
    | none => exact touches_same rfl rfl
  -- dropping
  · obtain rfl := Option.some.inj taken
    exact touches_set rfl rfl rfl (Nat.le_refl _) (.inl rfl) (fun _ => rfl) .inl
  -- failed
  · obtain rfl := Option.some.inj taken
    exact touches_same rfl rfl
  · rename_i failure
    obtain rfl := Option.some.inj taken
    cases failure with
    | start user => exact touches_same rfl rfl
    | request call used =>
        cases used with
        | none => exact touches_same rfl rfl
        | some used => exact touches_set rfl rfl rfl (Nat.le_refl _) (.inl rfl) id .inl
  -- releasing
  · obtain rfl := Option.some.inj taken
    exact touches_same rfl rfl
  · obtain rfl := Option.some.inj taken
    exact touches_same rfl rfl
  · cases taken

theorem step_in_turn {action : Action} (turn : InTurn state) (well : answersInTurn state action)
    (taken : step settings state action = some next) : InTurn next := by
  cases action with
  | start =>
      simp only [step] at taken
      split at taken
      · obtain rfl := Option.some.inj taken
        exact turn
      · cases taken
  | encode count payload =>
      simp only [step] at taken
      split at taken
      · split_ifs at taken
        obtain rfl := Option.some.inj taken
        exact turn
      · cases taken
  | run choice =>
      intro channel
      rcases (advance_touches taken).channels channel with ⟨-, fresh⟩ | handles
      · rw [fresh]
        exact ⟨0, [], Nat.zero_le _, .none, List.prefix_rfl⟩
      · obtain ⟨count, whole, fewer, frames, within⟩ := turn channel
        have requests := handles.requests
        exact ⟨count, whole, by omega, frames, handles.written ▸ within⟩
  | write channel bytes =>
      obtain ⟨-, same⟩ := Option.ite_none_right_eq_some.mp taken
      obtain rfl := Option.some.inj same
      exact in_turn_set turn well
  | takeSocket thread =>
      obtain ⟨channel, -, -, rfl⟩ := take_socket_step taken
      exact in_turn_set turn (turn channel)
  | close thread =>
      obtain ⟨channel, -, rfl⟩ := close_step taken
      exact in_turn_set turn (turn channel)
  | giveUp identity =>
      simp only [step] at taken
      split at taken
      · obtain rfl := Option.some.inj taken
        exact turn
      · cases taken
  | collect identity =>
      simp only [step] at taken
      split at taken
      · obtain rfl := Option.some.inj taken
        exact turn
      · obtain rfl := Option.some.inj taken
        exact turn
      · cases taken

/-! ## Who closes a channel -/

/-- A channel that a `_terminate` has taken out of `_socket` is closed, or in the hands of the
thread that closes it next. -/
def InHand (state : State) : Prop :=
  ∀ channel, (state.channels channel).dropped = true →
    (state.channels channel).closed = true ∨
      (∃ thread, state.takers thread = some channel) ∨
      ∃ failure, state.holder = .dropping failure channel

theorem advance_closes {failure : Failure} {channel : ChannelId} {choice : Choice}
    (taken : advance settings state (.dropping failure channel) choice = some next) :
    (next.channels channel).closed = true := by
  cases choice with
  | proceed =>
      obtain rfl := Option.some.inj taken
      change ((state.setChannel channel _).channels channel).closed = true
      rw [set_channel_self]
  | _ => cases taken

/-- A step that closes nothing and takes nothing away. -/
theorem InHand.unchanged (hand : InHand state)
    (dropped : ∀ channel,
      (next.channels channel).dropped = (state.channels channel).dropped)
    (closed : ∀ channel, (next.channels channel).closed = (state.channels channel).closed)
    (takers : next.takers = state.takers)
    (holder : next.holder = state.holder ∨ state.holder = .free) : InHand next := by
  intro channel gone
  rw [closed, takers]
  rw [dropped] at gone
  rcases hand channel gone with shut | held | ⟨failure, here⟩
  · exact .inl shut
  · exact .inr (.inl held)
  · rcases holder with same | free
    · exact .inr (.inr ⟨failure, same.trans here⟩)
    · rw [free] at here
      cases here

/-- A thread drops a channel only to close it at its next step. -/
theorem InHand.runs {choice : Choice} (hand : InHand state)
    (taken : advance settings state state.holder choice = some next) : InHand next := by
  intro channel gone
  have touches := advance_touches taken
  rw [touches.takers]
  rcases touches.channels channel with ⟨-, fresh⟩ | handles
  · rw [fresh] at gone
    cases gone
  · rcases handles.dropped gone with before | dropping
    · rcases hand channel before with shut | held | ⟨failure, here⟩
      · exact .inl (handles.closed shut)
      · exact .inr (.inl held)
      · rw [here] at taken
        exact .inl (advance_closes taken)
    · exact .inr (.inr dropping)

theorem InHand.takes {thread : ThreadId} (hand : InHand state)
    (taken : step settings state (.takeSocket thread) = some next) : InHand next := by
  obtain ⟨channel, -, idle, rfl⟩ := take_socket_step taken
  intro other gone
  change ((state.setChannel channel _).channels other).dropped = true at gone
  change ((state.setChannel channel _).channels other).closed = true ∨
    (∃ named, Function.update state.takers thread (some channel) named = some other) ∨ _
  by_cases same : other = channel
  · exact .inr (.inl ⟨thread, by rw [same, Function.update_self]⟩)
  · rw [set_channel_of_ne same] at gone ⊢
    rcases hand other gone with shut | ⟨named, held⟩ | here
    · exact .inl shut
    · have different : named ≠ thread := by
        intro equal
        rw [equal, idle] at held
        cases held
      exact .inr (.inl ⟨named, by rw [Function.update_of_ne different, held]⟩)
    · exact .inr (.inr here)

theorem InHand.closes {thread : ThreadId} (hand : InHand state)
    (taken : step settings state (.close thread) = some next) : InHand next := by
  obtain ⟨channel, held, rfl⟩ := close_step taken
  intro other gone
  change ((state.setChannel channel _).channels other).dropped = true at gone
  change ((state.setChannel channel _).channels other).closed = true ∨
    (∃ named, Function.update state.takers thread none named = some other) ∨ _
  by_cases same : other = channel
  · rw [same, set_channel_self]
    exact .inl rfl
  · rw [set_channel_of_ne same] at gone ⊢
    rcases hand other gone with shut | ⟨named, kept⟩ | here
    · exact .inl shut
    · have different : named ≠ thread := by
        intro equal
        rw [equal, held] at kept
        exact same (Option.some.inj kept).symm
      exact .inr (.inl ⟨named, by rw [Function.update_of_ne different, kept]⟩)
    · exact .inr (.inr here)

theorem step_in_hand {action : Action} (hand : InHand state)
    (taken : step settings state action = some next) : InHand next := by
  cases action with
  | start =>
      simp only [step] at taken
      split at taken
      · rename_i free
        obtain rfl := Option.some.inj taken
        exact hand.unchanged (fun _ => rfl) (fun _ => rfl) rfl (.inr free)
      · cases taken
  | encode count payload =>
      simp only [step] at taken
      split at taken
      · rename_i free
        split_ifs at taken
        obtain rfl := Option.some.inj taken
        exact hand.unchanged (fun _ => rfl) (fun _ => rfl) rfl (.inr free)
      · cases taken
  | run choice => exact hand.runs taken
  | write channel bytes =>
      obtain ⟨-, same⟩ := Option.ite_none_right_eq_some.mp taken
      obtain rfl := Option.some.inj same
      refine hand.unchanged ?_ ?_ rfl (.inl rfl)
      · exact set_channel_forall (fun other found =>
          found.dropped = (state.channels other).dropped) rfl (fun _ => rfl)
      · exact set_channel_forall (fun other found =>
          found.closed = (state.channels other).closed) rfl (fun _ => rfl)
  | takeSocket thread => exact hand.takes taken
  | close thread => exact hand.closes taken
  | giveUp identity =>
      simp only [step] at taken
      split at taken
      · obtain rfl := Option.some.inj taken
        exact hand.unchanged (fun _ => rfl) (fun _ => rfl) rfl (.inl rfl)
      · cases taken
  | collect identity =>
      simp only [step] at taken
      split at taken
      · obtain rfl := Option.some.inj taken
        exact hand.unchanged (fun _ => rfl) (fun _ => rfl) rfl (.inl rfl)
      · obtain rfl := Option.some.inj taken
        exact hand.unchanged (fun _ => rfl) (fun _ => rfl) rfl (.inl rfl)
      · cases taken

/-- An answer that a caller has got belongs to its call. -/
def Faithful (settings : Settings) (state : State) : Prop :=
  ∀ identity call reply, state.callers identity = .returned call reply →
    call.identity = identity ∧ reply.call = call ∧ Genuine settings state reply

/-- A channel on which a request has failed is out of use: it is closed, or a thread inside
`_terminate` has emptied `_socket` and closes it with its next statement, and nobody reads
from it any more. -/
def Discarded (settings : Settings) (state : State) : Prop :=
  ∀ channel, (state.channels channel).broken = true →
    state.socket ≠ some channel ∧
      ((state.channels channel).closed = true ∨
        ∃ thread closing, step settings state (.close thread) = some closing ∧
          (closing.channels channel).closed = true) ∧
      ∀ action next, step settings state action = some next →
        (next.channels channel).consumed = (state.channels channel).consumed

def Drained (state : State) : Prop :=
  ∀ channel, state.holder = .free → state.socket = some channel →
    (state.channels channel).consumed = (state.channels channel).written.length

def initial (dimension : Nat) : State := { dimension := dimension }

theorem initial_fits (dimension : Nat) : Fits settings (initial dimension) := by
  refine ⟨⟨?_, ?_, ?_, ?_, ?_⟩, ?_⟩ <;> simp [initial, Placed, Settled]

theorem initial_in_hand (dimension : Nat) : InHand (initial dimension) := by
  intro channel gone
  cases gone

theorem initial_answered (dimension : Nat) : Answered settings (initial dimension) := by
  refine ⟨?_, ?_, ?_, ?_⟩ <;> simp [initial, Caller.call, Point.call]

theorem Answered.faithful (answered : Answered settings state) : Faithful settings state := by
  intro identity call reply returned
  obtain ⟨same, genuine⟩ := answered.returned identity call reply returned
  exact ⟨(answered.named identity call (by rw [returned]; rfl)).1, same, genuine⟩

theorem Fits.not_in_socket (fits : Fits settings state) {channel : ChannelId}
    (broken : (state.channels channel).broken = true) : state.socket ≠ some channel := by
  intro socket
  have intact := (fits.base.socket channel socket).2.2
  rw [broken] at intact
  cases intact

/-- The holder of the slot closes the channel before the request fails. -/
theorem Fits.closing (fits : Fits settings state) (hand : InHand state) {channel : ChannelId}
    (broken : (state.channels channel).broken = true) :
    (state.channels channel).closed = true ∨
      ∃ thread closing, step settings state (.close thread) = some closing ∧
        (closing.channels channel).closed = true := by
  rcases hand channel (fits.base.broken channel broken).2 with shut | ⟨thread, held⟩ | here
  · exact .inl shut
  · refine .inr ⟨thread, { state.close channel with
      takers := Function.update state.takers thread none }, ?_, ?_⟩
    · simp only [step, held]
    · change ((state.setChannel channel _).channels channel).closed = true
      rw [set_channel_self]
  · obtain ⟨failure, here⟩ := here
    have placed := fits.placed
    rw [here] at placed
    have intact := placed.2.2.1
    rw [broken] at intact
    cases intact

theorem Fits.unread (fits : Fits settings state) {channel : ChannelId} {action : Action}
    (broken : (state.channels channel).broken = true)
    (taken : step settings state action = some next) :
    (next.channels channel).consumed = (state.channels channel).consumed := by
  obtain ⟨base, placed⟩ := fits
  cases action with
  | run choice =>
      rcases (advance_touches taken).channels channel with ⟨same, -⟩ | handles
      · exact absurd same (Nat.ne_of_lt (base.broken channel broken).1)
      · rcases handles.consumed with same | ⟨job, used, size, want, got, here⟩
        · exact same
        · rw [here] at placed
          obtain ⟨owns, rfl, -⟩ := placed
          have intact := owns.intact
          rw [broken] at intact
          cases intact
  | write other bytes =>
      obtain ⟨-, same⟩ := Option.ite_none_right_eq_some.mp taken
      obtain rfl := Option.some.inj same
      exact (write_eases base other bytes).2.consumed channel
  | takeSocket thread => exact (take_socket_sound base taken).2.consumed channel
  | close thread => exact (close_sound base taken).2.consumed channel
  | start =>
      simp only [step] at taken
      split at taken
      · obtain rfl := Option.some.inj taken
        rfl
      · cases taken
  | encode count payload =>
      simp only [step] at taken
      split at taken
      · split_ifs at taken
        obtain rfl := Option.some.inj taken
        rfl
      · cases taken
  | giveUp identity =>
      simp only [step] at taken
      split at taken
      · obtain rfl := Option.some.inj taken
        rfl
      · cases taken
  | collect identity =>
      simp only [step] at taken
      split at taken
      · obtain rfl := Option.some.inj taken
        rfl
      · obtain rfl := Option.some.inj taken
        rfl
      · cases taken

theorem Fits.discarded (fits : Fits settings state) (hand : InHand state) :
    Discarded settings state :=
  fun _ broken => ⟨fits.not_in_socket broken, fits.closing hand broken,
    fun _ _ taken => fits.unread broken taken⟩

/-- The supervisor has read as many frames as the worker may have written. -/
theorem Fits.drained (fits : Fits settings state) (turn : InTurn state) : Drained state := by
  obtain ⟨base, placed⟩ := fits
  intro channel free socket
  rw [free] at placed
  obtain ⟨count, whole, fewer, frames, within⟩ := turn channel
  have read : (state.channels channel).read <+: whole :=
    (List.take_prefix _ _).trans within
  have ahead := frames.behind (placed channel socket) fewer List.prefix_rfl read
  have longer := (within.trans ahead).length_le
  rw [Channel.read, List.length_take] at longer
  have bound := base.within channel
  omega

theorem no_stale_reply (settings : Settings) (dimension : Nat) :
    (∀ state, Reaches (step settings) anyStep (initial dimension) state →
      Faithful settings state ∧ Discarded settings state) ∧
    ∀ state, Reaches (step settings) answersInTurn (initial dimension) state →
      Drained state := by
  have sound (state : State)
      (reached : Reaches (step settings) anyStep (initial dimension) state) :
      Fits settings state ∧ InHand state ∧ Answered settings state := by
    refine reached.invariant
      (fun state => Fits settings state ∧ InHand state ∧ Answered settings state)
      ⟨initial_fits dimension, initial_in_hand dimension, initial_answered dimension⟩ ?_
    rintro state action next ⟨fits, hand, answered⟩ _ taken
    exact ⟨step_fits fits taken, step_in_hand hand taken, step_answered fits answered taken⟩
  constructor
  · intro state reached
    obtain ⟨fits, hand, answered⟩ := sound state reached
    exact ⟨answered.faithful, fits.discarded hand⟩
  · intro state reached
    refine (sound state reached.weaken).1.drained ?_
    refine reached.invariant InTurn ?_ ?_
    · exact fun _ => ⟨0, [], Nat.zero_le _, .none, List.nil_prefix⟩
    · exact fun state action next turn well taken => step_in_turn turn well taken

def ascii (text : String) : List Byte :=
  text.toList.map fun char => UInt8.ofNat char.toNat

def greeting : List Byte :=
  ascii ("\x7b\"op\":\"hello\",\"version\":1,\"generation\":\"g\",\"model\":\"m\"," ++
    "\"requested_device\":\"cpu\",\"dimension\":1,\"device\":\"cpu\"\x7d")

def announcement : List Byte :=
  ascii ("\x7b\"op\":\"vectors\",\"version\":1,\"generation\":\"g\",\"request_id\":\"r\"," ++
    "\"count\":1,\"dimension\":1,\"device\":\"cpu\",\"bytes\":4\x7d")

def announced : List Byte := frame announcement ++ frame [0, 0, 128, 63]

/-- `json.loads` on these two texts. -/
def loadsBoth (bytes : List Byte) : Option Value :=
  if bytes = greeting then
    some (.dict fun key => match key with
      | "op" => .str "hello"
      | "version" | "dimension" => .int 1
      | "generation" => .str "g"
      | "model" => .str "m"
      | "requested_device" | "device" => .str "cpu"
      | _ => .null)
  else if bytes = announcement then
    some (.dict fun key => match key with
      | "op" => .str "vectors"
      | "version" | "count" | "dimension" => .int 1
      | "generation" => .str "g"
      | "request_id" => .str "r"
      | "device" => .str "cpu"
      | "bytes" => .int 4
      | _ => .null)
  else none

def smallSettings : Settings where
  loads := loadsBoth
  generation := "g"
  model := "m"
  requestId := fun _ => "r"

/-- One call of `encode` that starts the worker. -/
def encodesOnce : List Action :=
  .encode 1 [] ::
    [.proceed, .proceed, .launch "cpu"].map .run ++ [.write 0 (frame greeting)] ++
    [.proceed, .chunk 4, .proceed, .proceed, .chunk greeting.length, .proceed, .proceed,
      .chunk 4].map .run ++
    [.write 0 announced] ++
    [.proceed, .chunk 4, .proceed, .proceed, .chunk announcement.length, .proceed, .proceed,
      .chunk 4, .proceed, .proceed, .chunk 4, .proceed, .proceed].map .run ++ [.collect 0]

def failsOnce : List Action :=
  .encode 1 [] ::
    [.proceed, .running, .proceed, .chunk 4, .proceed, .fail, .proceed, .proceed, .proceed,
      .proceed].map .run ++ [.collect 1]

def losesChannel : List Action :=
  .encode 1 [] ::
    [.proceed, .proceed, .launch "cpu"].map .run ++ [.write 1 (frame greeting)] ++
    [.proceed, .chunk 4, .proceed, .proceed, .chunk greeting.length, .proceed, .proceed,
      .chunk 4, .proceed].map .run ++ [.takeSocket 7] ++
    [.fail, .proceed, .proceed, .proceed].map .run ++ [.collect 2]

def startsAgain : List Action :=
  .start :: [.proceed, .proceed, .launch "cpu"].map .run ++ [.write 2 (frame greeting)] ++
    [.proceed, .chunk 4, .proceed, .proceed, .chunk greeting.length, .proceed, .proceed].map .run

def answersOnce (state : State) : Action → Bool
  | .write channel bytes =>
      decide ((state.channels channel).written = [] ∧ bytes = frame greeting) ||
        decide ((state.channels channel).written = frame greeting ∧
          0 < (state.channels channel).requests ∧ bytes = announced)
  | _ => true

set_option maxRecDepth 4000 in
theorem answers_once_in_turn (state : State) (action : Action)
    (answers : answersOnce state action = true) : answersInTurn state action := by
  cases action with
  | write channel bytes =>
      have greets : Frames 1 (frame greeting) := .single (by decide)
      simp only [answersOnce, Bool.or_eq_true, decide_eq_true_eq] at answers
      rcases answers with ⟨written, rfl⟩ | ⟨written, requests, rfl⟩
      · exact ⟨1, _, Nat.le_add_right 1 _, greets, by simp [written]⟩
      · have reply : Frames 2 announced := (Frames.single (by decide)).append (.single (by decide))
        refine ⟨3, _, by omega, greets.append reply, ?_⟩
        rw [written]
  | _ => trivial

set_option maxRecDepth 4000 in
theorem answered_call_is_faithful :
    ∃ settings state call reply, state.callers 0 = .returned call reply ∧
      (state.channels 0).broken = true ∧ (state.channels 0).closed = true ∧
      (state.channels 1).broken = true ∧ (state.channels 1).closed = false ∧
      state.holder = .free ∧ state.socket = some 2 ∧
      Faithful settings state ∧ Discarded settings state ∧ Drained state := by
  have reached := reaches_of_execute_where (step smallSettings) answersInTurn answersOnce
    answers_once_in_turn (initial 0)
    (encodesOnce ++ failsOnce ++ losesChannel ++ startsAgain) rfl
  obtain ⟨faithful, discarded⟩ := (no_stale_reply smallSettings 0).1 _ reached.weaken
  have drained := (no_stale_reply smallSettings 0).2 _ reached
  exact ⟨smallSettings, _, _, _, rfl, rfl, rfl, rfl, rfl, rfl, rfl, faithful, discarded, drained⟩

end HermesCashew.EmbeddingChannel
