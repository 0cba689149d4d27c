import HermesCashew.LifecycleGenerations

/-!
# The gate opens again

`_shutdown_started` without a queue defers every `initialize`. While it is set,
somebody owes the call of `_finish_embedding_runtime_close` that clears it: an
`initialize` that has not reached its handler, a thread inside
`_close_embedding_runtime`, or the stored supervisor through its callbacks. Two
steps break this debt. A `shutdown` that comes after the handler has paid it sets
the flag for good, and a callback between the handler's read of
`_embedding_supervisor` and its locked block makes the later close a stale one.
-/

namespace HermesCashew.Lifecycle

open HermesCashew.Transition

set_option autoImplicit false

/-- `initialize` is behind its last locked block but still counts as running. -/
def leaving : Option InitializePoint → Bool
  | some .published | some (.closing _) | some (.scrubbing _) | some .finalizing => true
  | _ => false

/-- `initialize` may still reach the locked block of a handler. -/
def mayAbandon : Option InitializePoint → Bool
  | none | some .published | some (.closing _) | some (.scrubbing _) | some .finalizing => false
  | _ => true

/-- The two steps that leave the gate shut: a `shutdown` that cancels an
`initialize` whose teardown is over, and a close callback that runs while a
handler holds its supervisor in a local variable. -/
def wedges (state : State) : Action → Bool
  | .shutdown _ =>
      leaving state.initializer && state.syncWorker.isNone && state.syncQueue.isNone &&
        !state.shutdownStarted
  | .runCallback supervisor =>
      match state.initializer with
      | some (.captured _ captured) => captured == some supervisor
      | _ => false
  | _ => false

/-- A teardown stands at `call`. -/
def AtClose (state : State) (call : CloseCall) : Prop :=
  state.initializer = some (.closing call) ∨
    ∃ cleaner queue, state.cleaners cleaner = .closing queue call

def Supervisor.Owes (supervisor : Supervisor) (markStopped : Bool) : Prop :=
  markStopped ∈ supervisor.closeCallbacks ∨ markStopped ∈ supervisor.runningCallbacks

inductive Owed (state : State) : Prop where
  | early (ready : mayAbandon state.initializer = true)
  | entering (markStopped : Bool)
      (standing : AtClose state (.enter state.embeddingSupervisor markStopped))
  | calling (generation : Generation) (markStopped : Bool)
      (same : state.embeddingSupervisor = some generation)
      (standing : AtClose state (.callNow generation markStopped))
  | registered (generation : Generation) (markStopped : Bool)
      (same : state.embeddingSupervisor = some generation)
      (owes : (state.supervisors generation).Owes markStopped)

structure Opens (state : State) : Prop where
  captured : ∀ error supervisor, state.initializer = some (.captured error supervisor) →
    state.embeddingSupervisor = supervisor
  owed : state.shutdownStarted = true → state.syncQueue = none → Owed state

theorem fresh_opens : Opens fresh := by
  constructor <;> simp [fresh]

/-! ## Close calls -/

inductive CallMoves (state following : State) (call : CloseCall) : Prop where
  | waits (standing : AtClose following call)
  | runs (writes : CloseWrites) (next : Option CloseCall) (closes : Closes state call writes next)
      (flag : following.shutdownStarted = writes.shutdownStarted)
      (health : following.health = writes.health)
      (supervisors : following.supervisors = writes.supervisors)
      (standing : ∀ call, next = some call → AtClose following call)

theorem moves_close_call {state following : State} {action : Action}
    (moves : Moves state action following) {call : CloseCall}
    (standing : AtClose state call) : CallMoves state following call := by
  rcases standing with ready | ⟨cleaner, queue, ready⟩
  · cases moves with
    | close _ writes next point closes =>
        rw [ready] at point
        cases point
        exact .runs writes next closes rfl rfl rfl fun call same => .inl (by simp [same])
    | raise reason errorClass body =>
        rw [ready] at body
        cases body
    | _ => first | exact .waits (.inl ready) | simp_all
  · cases moves with
    | cleanerClose other otherQueue _ writes next point closes =>
        by_cases same : other = cleaner
        · subst same
          rw [ready] at point
          cases point
          refine .runs writes next closes rfl rfl rfl fun call same => .inr ⟨other, queue, ?_⟩
          simp [State.setCleaner, same]
        · refine .waits (.inr ⟨cleaner, queue, ?_⟩)
          simpa [State.setCleaner, State.write, Ne.symm same] using ready
    | _ =>
        refine .waits (.inr ⟨cleaner, queue, ?_⟩)
        first
        | exact ready
        | (dsimp only [State.setCleaner, State.setHealth]; grind)

/-- A close of the stored supervisor, or of none, opens the gate. -/
theorem Finishes.opens {state : State} {supervisor : Option Generation} {markStopped : Bool}
    {writes : CloseWrites} (finishes : Finishes state supervisor markStopped writes)
    (same : state.embeddingSupervisor = supervisor) (gone : state.syncQueue = none) :
    writes.shutdownStarted = false := by
  cases finishes with
  | stale closing closed other => exact absurd (same.trans closed) other
  | kept _ queue => exact absurd gone queue
  | released _ _ => rfl

theorem Closes.owes {state : State} {call : CloseCall} {writes : CloseWrites}
    {next : Option CloseCall} (closes : Closes state call writes next) {generation : Generation}
    {markStopped : Bool} (owes : (state.supervisors generation).Owes markStopped) :
    (writes.supervisors generation).Owes markStopped := by
  cases closes with
  | finish _ writes finishes => rwa [finishes.supervisors]
  | finishNow supervisor _ writes finishes => rwa [finishes.supervisors]
  | callNow supervisor _ released => exact owes
  | register supervisor added held =>
      by_cases same : generation = supervisor
      · subst same
        simpa [Supervisor.Owes, or_right_comm] using Or.inl owes
      · simpa [same] using owes
  | close supervisor =>
      by_cases same : generation = supervisor
      · subst same
        simpa [Supervisor.Owes] using owes
      · simpa [same] using owes

/-- A callback of a supervisor waits, or one of them runs. -/
theorem moves_callbacks {state following : State} {action : Action} (released : Released state)
    (moves : Moves state action following) {generation : Generation} {markStopped : Bool}
    (owes : (state.supervisors generation).Owes markStopped) :
    (following.supervisors generation).Owes markStopped ∨
      ∃ first rest changed writes, action = .runCallback generation ∧
        (state.supervisors generation).runningCallbacks = first :: rest ∧
        Finishes changed (some generation) first writes ∧
        changed.embeddingSupervisor = state.embeddingSupervisor ∧
        changed.syncQueue = state.syncQueue ∧
        following.shutdownStarted = writes.shutdownStarted ∧
        following.health = writes.health := by
  cases moves with
  | withdraw call writes next ready closes | close call writes next ready closes
  | cleanerClose cleaner _ call writes next ready closes => exact .inl (closes.owes owes)
  | runCallback supervisor first rest writes running finishes =>
      by_cases same : supervisor = generation
      · subst same
        exact .inr ⟨first, rest, _, writes, rfl, running, finishes, rfl, rfl, rfl, rfl⟩
      · refine .inl ?_
        dsimp only [State.write]
        rw [finishes.supervisors]
        simpa [State.setSupervisor, Ne.symm same] using owes
  | raiseStarting reason errorClass ready =>
      refine .inl ?_
      by_cases same : generation = state.healthGeneration
      · subst same
        simpa [State.setSupervisor, Supervisor.Owes] using owes
      · simpa [State.setSupervisor, same] using owes
  | dropOwner supervisor owned closed =>
      refine .inl ?_
      by_cases same : generation = supervisor
      · subst same
        simpa [State.setSupervisor, Supervisor.Owes] using owes
      · simpa [State.setSupervisor, same] using owes
  | takeCallbacks supervisor releasing =>
      refine .inl ?_
      by_cases same : generation = supervisor
      · subst same
        have idle := released.running generation (released.releasing generation releasing)
        simpa [State.setSupervisor, Supervisor.Owes, idle] using owes
      · simpa [State.setSupervisor, same] using owes
  | _ => exact .inl owes

/-! ## The debt is kept -/

/-- Only a callback resets the field under a handler that has read it. -/
theorem moves_captured_embedding {state following : State} {action : Action}
    (formed : WellFormed state) (opens : Opens state) (spared : wedges state action = false)
    (moves : Moves state action following) {error : Raised} {supervisor : Option Generation}
    (ready : state.initializer = some (.captured error supervisor)) :
    following.embeddingSupervisor = state.embeddingSupervisor := by
  cases moves with
  | cleanerClose cleaner queue call writes next point closes =>
      have ⟨_, known, ran⟩ := formed.attached.cleaner cleaner queue call point
      have waiting := formed.ownership.shared.unstarted (by rw [ready]; rfl)
      have older : queue < state.healthGeneration := by
        refine Nat.lt_of_le_of_ne known ?_
        rintro rfl
        rw [waiting] at ran
        cases ran
      have ⟨kept, _⟩ := closes.keeps_newer formed.attached point
      rcases moves_embedding formed.attached formed.released
          (.cleanerClose cleaner queue call writes next point closes) with
        same | stores | ⟨reset, generation, held, _⟩
      · exact same
      · have starting := stores.before
        rw [ready] at starting
        cases starting
      · have latest := (formed.attached.attached generation held).1
        exact (kept generation (latest ▸ older) held).trans held.symm
  | runCallback generation markStopped rest writes running finishes =>
      rcases finishes.embedding with same | ⟨_, held⟩
      · exact same
      · have captured := opens.captured error supervisor ready
        rw [show state.embeddingSupervisor = some generation from held] at captured
        simp [wedges, ready, ← captured] at spared
  | store point | bindUnavailable point | withdraw call writes next point closes
  | close call writes next point closes =>
      rw [ready] at point
      cases point
  | _ => rfl

theorem moves_captures {state following : State} {action : Action} (formed : WellFormed state)
    (opens : Opens state) (spared : wedges state action = false)
    (moves : Moves state action following) (error : Raised) (supervisor : Option Generation)
    (ready : following.initializer = some (.captured error supervisor)) :
    following.embeddingSupervisor = supervisor := by
  have kept (old : state.initializer = some (.captured error supervisor)) :=
    moves_captured_embedding formed opens spared moves old
  have captured := opens.captured error supervisor
  have moved := moves_initializer formed.ownership.shared moves
  generalize state.initializer = before at moved captured kept
  rw [ready] at moved
  cases moved with
  | same _ generation flag => exact (kept rfl).trans (captured rfl)
  | other _ _ plain => cases plain
  | capture _ generation same => exact same

/-- The locked block of a handler leaves the close of the stored supervisor. -/
theorem Opens.abandon {state : State} (opens : Opens state) {error : Raised}
    {supervisor : Option Generation}
    (ready : state.initializer = some (.captured error supervisor)) :
    Owed { Lifecycle.abandon state error with
      initializer := some (.closing (.enter supervisor false)) } := by
  refine .entering false (.inl ?_)
  rw [← opens.captured error supervisor ready]
  rfl

/-- The gate is shut by a handler, by the end of a `shutdown`, or by a `shutdown`
that cancels an `initialize`. -/
theorem moves_shuts {state following : State} {action : Action} (opens : Opens state)
    (spared : wedges state action = false) (moves : Moves state action following)
    (before : state.shutdownStarted = false ∨ state.syncQueue ≠ none)
    (flag : following.shutdownStarted = true) (gone : following.syncQueue = none) :
    Owed following := by
  cases moves with
  | abandon error supervisor ready => exact opens.abandon ready
  | clear cleaner worker queue ready current =>
      exact .entering true (.inr ⟨cleaner, queue, by simp [State.setCleaner, State.setHealth]⟩)
  | cancel cleaner unannounced initializing unpublished =>
      have clear := before.resolve_right (not_not.mpr gone)
      refine .early ?_
      simp [wedges, unpublished, clear, show state.syncQueue = none from gone] at spared
      rcases shape : state.initializer with _ | point
      · exact absurd shape initializing
      · cases point <;> simp_all [leaving, mayAbandon]
  | signal cleaner queue idle unannounced published current clear =>
      exact absurd current (by simp [show state.syncQueue = none from gone])
  | withdraw call writes next ready closes | close call writes next ready closes
  | cleanerClose cleaner _ call writes next ready closes =>
      have lowers := closes.lowers
      dsimp only [State.write, State.setCleaner] at flag gone
      simp_all
  | runCallback supervisor markStopped rest writes running finishes =>
      have lowers := finishes.lowers
      dsimp only [State.write, State.setSupervisor] at flag gone lowers
      simp_all
  | queue ready => cases gone
  | resume ready => cases flag
  | admitted quiet queue clear =>
      exact absurd (clear.symm.trans flag) (by simp)
  | _ =>
      rcases before with clear | current
      · exact absurd (clear.symm.trans flag) (by simp)
      · exact absurd gone current

theorem Finishes.kept_or_opens {state : State} {supervisor : Option Generation}
    {markStopped : Bool} {writes : CloseWrites}
    (finishes : Finishes state supervisor markStopped writes) (gone : state.syncQueue = none) :
    writes.embeddingSupervisor = state.embeddingSupervisor ∨ writes.shutdownStarted = false := by
  cases finishes with
  | stale closing same other => exact .inl rfl
  | kept same queue => exact absurd gone queue
  | released same queue => exact .inr rfl

theorem Closes.kept_or_opens {state : State} {call : CloseCall} {writes : CloseWrites}
    {next : Option CloseCall} (closes : Closes state call writes next)
    (gone : state.syncQueue = none) :
    writes.embeddingSupervisor = state.embeddingSupervisor ∨ writes.shutdownStarted = false := by
  cases closes with
  | finish markStopped writes finishes => exact finishes.kept_or_opens gone
  | finishNow supervisor markStopped writes finishes => exact finishes.kept_or_opens gone
  | callNow supervisor markStopped released => exact .inl rfl
  | register supervisor markStopped held => exact .inl rfl
  | close supervisor => exact .inl rfl

/-- Behind a shut gate `_embedding_supervisor` is reset only by the close that
opens the gate. -/
theorem moves_keeps_embedding {state following : State} {action : Action}
    (formed : WellFormed state) (moves : Moves state action following)
    (before : state.syncQueue = none) (flag : following.shutdownStarted = true) :
    following.embeddingSupervisor = state.embeddingSupervisor := by
  have shut {writes : CloseWrites} (same : following.shutdownStarted = writes.shutdownStarted) :
      ¬writes.shutdownStarted = false := by
    rw [← same, flag]
    simp
  cases moves with
  | store ready =>
      have queued := formed.ownership.shared.queued (by rw [ready]; rfl) (by rw [ready]; simp)
      rw [before] at queued
      cases queued
  | bindUnavailable ready => exact (formed.attached.detached (by rw [ready]; rfl)).symm
  | withdraw call writes next ready closes | close call writes next ready closes
  | cleanerClose cleaner _ call writes next ready closes =>
      exact (closes.kept_or_opens before).resolve_right (shut rfl)
  | runCallback supervisor markStopped rest writes running finishes =>
      exact (finishes.kept_or_opens before).resolve_right (shut rfl)
  | _ => rfl

theorem moves_early {state following : State} {action : Action} (formed : WellFormed state)
    (opens : Opens state) (ready : mayAbandon state.initializer = true)
    (moves : Moves state action following) (before : state.syncQueue = none) :
    Owed following := by
  cases moves with
  | abandon error supervisor point => exact opens.abandon point
  | starts point kept =>
      have queued := formed.ownership.shared.queued (by rw [point]; rfl) (by rw [point]; simp)
      rw [before] at queued
      cases queued
  | announce cron vectorUnavailable modelMissing point queue clear => exact absurd before queue
  | withdraw call writes next point closes =>
      refine .early ?_
      cases next <;> rfl
  | scrubTest _ point next | leave point | close _ _ _ point _ | scrubRelease point
  | scrubReset point | finalize point =>
      rw [point] at ready
      cases ready
  | _ => first | exact .early ready | exact .early rfl

theorem moves_owed {state following : State} {action : Action} (formed : WellFormed state)
    (opens : Opens state) (owed : Owed state) (moves : Moves state action following)
    (before : state.syncQueue = none) (flag : following.shutdownStarted = true) :
    Owed following := by
  have kept := moves_keeps_embedding formed moves before flag
  have shut {writes : CloseWrites} (same : following.shutdownStarted = writes.shutdownStarted)
      (opened : writes.shutdownStarted = false) : False := by
    rw [same, opened] at flag
    cases flag
  cases owed with
  | early ready => exact moves_early formed opens ready moves before
  | entering markStopped standing =>
      generalize current : state.embeddingSupervisor = supervisor at standing
      rw [current] at kept
      cases moves_close_call moves standing with
      | waits standing => exact .entering markStopped (by rwa [kept])
      | runs writes next closes flag health supervisors standing =>
          cases closes with
          | finish _ _ finishes => exact (shut flag (finishes.opens current before)).elim
          | callNow generation _ released =>
              exact .calling generation markStopped kept (standing _ rfl)
          | register generation _ held =>
              exact .registered generation markStopped kept (.inl (by simp [supervisors]))
  | calling generation markStopped same standing =>
      cases moves_close_call moves standing with
      | waits standing => exact .calling generation markStopped (kept.trans same) standing
      | runs writes next closes flag health supervisors standing =>
          cases closes with
          | finishNow _ _ _ finishes => exact (shut flag (finishes.opens same before)).elim
  | registered generation markStopped same owes =>
      rcases moves_callbacks formed.released moves owes with
        owes | ⟨first, rest, changed, writes, _, _, finishes, embedding, queue, flag, _⟩
      · exact .registered generation markStopped (kept.trans same) owes
      · exact (shut flag
          (finishes.opens (embedding.trans same) (queue.trans before))).elim

theorem moves_opens {state following : State} {action : Action} (formed : WellFormed state)
    (opens : Opens state) (spared : wedges state action = false)
    (moves : Moves state action following) : Opens following := by
  refine ⟨moves_captures formed opens spared moves, fun flag gone => ?_⟩
  by_cases shut : state.shutdownStarted = true ∧ state.syncQueue = none
  · exact moves_owed formed opens (opens.owed shut.1 shut.2) moves shut.2 flag
  · refine moves_shuts opens spared moves ?_ flag gone
    rw [not_and_or, Bool.not_eq_true] at shut
    exact shut

theorem reachable_opens {state : State}
    (reached : Reaches step (fun state action => wedges state action = false) fresh state) :
    Opens state := by
  refine reached.invariant_with WellFormed Opens ?_ fresh_opens ?_
  · exact fun _ prior => reachable_well_formed prior
  · intro state action following formed opens spared taken
    exact moves_opens formed opens spared (step_moves taken)

/-! ## Quiescence -/

/-- Nothing of the provider is left or in progress. -/
structure Quiescent (state : State) : Prop where
  initializer : state.initializer = none
  cleaners : ∀ cleaner, state.cleaners cleaner = .idle
  queue : state.syncQueue = none
  threads : ∀ thread, state.alive thread = false
  owner : state.owner = none
  callbacks : ∀ generation, (state.supervisors generation).releasing = false ∧
    (state.supervisors generation).runningCallbacks = []

theorem Quiescent.not_owed {state : State} (quiescent : Quiescent state)
    (formed : WellFormed state) : ¬Owed state := by
  have standing (call : CloseCall) : ¬AtClose state call := by
    rintro (ready | ⟨cleaner, queue, ready⟩)
    · rw [quiescent.initializer] at ready
      cases ready
    · rw [quiescent.cleaners cleaner] at ready
      cases ready
  intro owed
  cases owed with
  | early ready =>
      rw [quiescent.initializer] at ready
      cases ready
  | entering markStopped at_call => exact standing _ at_call
  | calling generation markStopped same at_call => exact standing _ at_call
  | registered generation markStopped same owes =>
      have ⟨settled, idle⟩ := quiescent.callbacks generation
      have claimed := (formed.attached.attached generation same).2.2
      rw [quiescent.owner, settled] at claimed
      have released : (state.supervisors generation).ownerReleased = true := by
        simpa using claimed
      simp [Supervisor.Owes, idle, formed.released.callbacks generation released] at owes

/-- In a run without the two wedging steps, a quiescent provider admits the next
`initialize`. -/
theorem quiescent_admits_initialize {state : State}
    (reached : Reaches step (fun state action => wedges state action = false) fresh state)
    (quiescent : Quiescent state) :
    state.shutdownStarted = false ∧
      (initializeProvider state).initializer = some .queueing := by
  have clear : state.shutdownStarted = false := by
    by_contra set
    have owed := (reachable_opens reached).owed (by simpa using set) quiescent.queue
    exact quiescent.not_owed (reachable_well_formed reached) owed
  exact ⟨clear, by simp [initializeProvider, quiescent.initializer, quiescent.queue, clear]⟩

/-- A whole generation, from its admission to the end of its `shutdown`. -/
def wholeGeneration : List Action :=
  toAcquired ++ .advance :: toIdentity ++ .identify true :: toReturn ++ shutdownCleared 1 ++
    List.replicate 5 (.clean 0) ++ closeCallback 1

theorem whole_generation_admits_initialize :
    ∃ state : State, state.healthGeneration = 1 ∧ state.clearings 1 = 1 ∧
      state.shutdownStarted = false ∧
      (initializeProvider state).initializer = some .queueing := by
  have reached := reaches_of_execute_where step (fun state action => wedges state action = false)
    (fun state action => !wedges state action) (by simp) fresh wholeGeneration rfl
  refine ⟨_, rfl, rfl, quiescent_admits_initialize reached ⟨rfl, ?_, rfl, ?_, rfl, ?_⟩⟩
  · exact fun cleaner => match cleaner with | 0 => rfl | _ + 1 => rfl
  · exact fun thread => match thread with
      | .sync 0 => rfl
      | .sync 1 => rfl
      | .sync (_ + 2) => rfl
      | .prefetch _ => rfl
  · exact fun generation => match generation with
      | 0 => ⟨rfl, rfl⟩
      | 1 => ⟨rfl, rfl⟩
      | _ + 2 => ⟨rfl, rfl⟩

/-- `load_config` raises; the handler clears the flag, and `shutdown` sets it again
before `_initializing` is reset. -/
def wedgedSchedule : List Action :=
  [.initializeProvider, .raise .configInvalid "TypeError"] ++ statements 3 ++
    .shutdown 0 :: statements 2

/-- The provider is quiescent and every later `initialize` is deferred. -/
theorem late_shutdown_wedges :
    ¬∀ state, Reaches step anyStep fresh state → Quiescent state →
      state.shutdownStarted = false := by
  intro opens
  have reached := reaches_of_execute step fresh wedgedSchedule rfl
  have clear := opens _ reached ⟨rfl, fun _ => rfl, rfl, fun _ => rfl, rfl,
    fun _ => ⟨rfl, rfl⟩⟩
  cases clear

/-- The other way in: identity resolution fails, and the callback registered then
runs while the handler of a later exception holds the supervisor. -/
def overtakenSchedule : List Action :=
  toAcquired ++ .advance :: toIdentity ++
    [.identify false, .advance, .advance, .raise .storageError "OperationalError", .advance] ++
    closeCallback 1 ++ statements 8

example :
    (execute step fresh overtakenSchedule).map
        (fun state => (state.initializer, state.syncQueue, state.shutdownStarted)) =
      some (none, none, true) := by
  decide

end HermesCashew.Lifecycle
