import HermesCashew.SyncShutdown

/-!
# The worker survives its turns

A turn that cannot be drained costs the worker nothing but that turn, unless the
failure handler fails as well: it measures the user content a second time. The steps
of the generation never read the ledger or what has been counted so far, so what they
do from here on is the same whatever became of the turns before.
-/

namespace HermesCashew.SyncQueue

open HermesCashew.Transition

set_option autoImplicit false

def Worker.facesUnsized : Worker → Bool
  | .processing turn _ => turn.user.len.isNone
  | _ => false

def Action.ofWorker : Action → Bool
  | .worker _ => true
  | _ => false

/-- The worker goes on with a turn whose user content has no length. -/
def TakesUpUnsized (state : State) (action : Action) : Prop :=
  state.worker.facesUnsized = true ∧ action.ofWorker = true

instance (state : State) (action : Action) : Decidable (TakesUpUnsized state action) :=
  inferInstanceAs (Decidable (_ ∧ _))

def Worker.held (worker : Worker) : Nat :=
  worker.busy + worker.items.length

/-! ## What the steps read -/

def State.control (state : State) : State :=
  { state with ledger := {}, handed := [], journal := [], taken := 0, taskDone := 0 }

/-- A later state, when `state` had been behind it. The ledger is the one that its
journal determines and is left out. -/
def State.onto (state later : State) : State :=
  { later with
    ledger := {}
    handed := state.handed ++ later.handed
    journal := state.journal ++ later.journal
    taken := state.taken + later.taken
    taskDone := state.taskDone + later.taskDone }

def State.unledgered (state : State) : State :=
  { state with ledger := {} }

theorem onto_control (state : State) : state.onto state.control = state.unledgered := by
  simp [State.onto, State.control, State.unledgered]

theorem onto_unledgered (state later : State) : state.onto later.unledgered = state.onto later :=
  rfl

theorem onto_onto (state later last : State) :
    state.onto (later.onto last) = (state.onto later).onto last := by
  simp [State.onto, Nat.add_assoc]

theorem control_of_unledgered {state later following : State}
    (same : following.unledgered = state.onto later) : following.control = later.control := by
  have control := congrArg State.control same
  exact control

/-- A step does to a state what it does to the control alone. -/
theorem step_onto (state : State) (action : Action) :
    (step state action).map State.unledgered =
      (step state.control action).map state.onto := by
  cases action with
  | finishInitialization => simp [step, State.onto, State.control, State.unledgered]
  | syncTurn user assistant session =>
      have refuses : state.control.refuses = state.refuses := rfl
      have producer : state.control.producer = state.producer := rfl
      simp only [step, syncTurn, refuses, producer]
      by_cases free : state.producer = .free
      · by_cases refused : state.refuses = true
        · by_cases closing : (state.attached && (state.initializing || state.shutdownStarted)) = true
          · simp [free, refused, closing, State.control, State.record, State.onto, State.unledgered]
          · simp [free, refused, closing, State.control, State.onto, State.unledgered]
        · simp [free, refused, State.control, State.onto, State.unledgered]
      · simp [free]
  | producer =>
      by_cases room : state.queue.length < maxsize
      · simp only [step, producerStep, State.control, room, if_true]
        split
        all_goals try split
        all_goals simp [State.put, State.record, State.onto, State.unledgered]
      · simp only [step, producerStep, State.control, room, if_false]
        split
        all_goals try split
        all_goals simp [State.record, State.onto, State.unledgered]
  | shutdown =>
      by_cases open_gate : state.producer = .free ∧ state.closer = .absent
      · simp [step, SyncQueue.shutdown, State.control, open_gate, State.onto, State.unledgered]
      · simp [step, SyncQueue.shutdown, State.control, open_gate]
  | postSentinel =>
      by_cases room : state.queue.length < maxsize
      · simp only [step, SyncQueue.postSentinel, State.control, room, if_true]
        split <;> simp [State.onto, State.unledgered]
      · simp only [step, SyncQueue.postSentinel, State.control, room, if_false]
        split <;> simp [State.onto, State.unledgered]
  | giveUp =>
      by_cases late : state.closer = .waiting ∧ maxsize ≤ state.queue.length
      · simp [step, SyncQueue.giveUp, State.control, late, State.onto, State.unledgered]
      · simp [step, SyncQueue.giveUp, State.control, late]
  | clearRuntimeState =>
      by_cases ended : state.closer = .joining ∧ state.producer = .free ∧
        state.worker.ended = true
      · simp [step, SyncQueue.clearRuntimeState, State.control, ended, State.onto,
          State.unledgered]
      · simp [step, SyncQueue.clearRuntimeState, State.control, ended]
  | get =>
      simp only [step, workerGet, State.control]
      split <;> simp [State.onto, State.unledgered]
      rfl
  | empty =>
      simp only [step, workerEmpty, State.control]
      split <;> simp [State.onto, State.unledgered]
  | worker outcome =>
      by_cases free : state.producer = .free
      · simp only [step, workerStep, State.control, free, if_true]
        split
        all_goals try split
        all_goals simp [State.record, State.onto, State.unledgered, free]
      · simp only [step, workerStep, State.control, free, if_false]
        split
        all_goals try split
        all_goals simp_all [State.onto, State.unledgered]

/-- A whole schedule does to a state what it does to the control alone. -/
theorem execute_onto (state : State) (schedule : List Action) :
    (execute step state schedule).map State.unledgered =
      (execute step state.control schedule).map state.onto := by
  induction schedule generalizing state with
  | nil => simp [execute, executeWhere, onto_control]
  | cons action rest inductive_hypothesis =>
      have one := step_onto state action
      simp only [execute, executeWhere, if_true]
      cases taken : step state.control action with
      | none =>
          have stuck : step state action = none := by simpa [taken] using one
          simp [stuck]
      | some later =>
          rw [taken, Option.map_some] at one
          obtain ⟨following, moved, same⟩ := Option.map_eq_some_iff.mp one
          have first := inductive_hypothesis following
          have second := inductive_hypothesis later
          rw [control_of_unledgered same] at first
          simp only [execute] at first second
          rw [moved, Option.bind_some, Option.bind_some, first]
          have shifted := congrArg (Option.map state.onto) second
          simp only [Option.map_map, Function.comp_def, onto_unledgered, onto_onto] at shifted
          rw [shifted]
          apply congrArg (fun add => Option.map add _)
          funext last
          rw [← same]
          rfl

/-! ## What the worker owes -/

def Owes (state : State) : Prop :=
  state.taken = state.taskDone + state.worker.held

theorem moves_owes {state following : State} {action : Action} (gate : Gate state)
    (owes : Owes state) (moves : Moves state action following) : Owes following := by
  unfold Owes at owes ⊢
  cases moves with
  | takeSentinel rest ready queue =>
      simp only [ready, Worker.held, Worker.busy, Worker.items, List.length_nil] at owes ⊢
      omega
  | takeTurn turn rest worker ready queue next =>
      simp only [ready, Worker.held, Worker.busy, Worker.items, List.length_nil] at owes
      rcases next with rfl | rfl <;>
        simp only [Worker.held, Worker.busy, Worker.items, List.length_cons, List.length_nil] <;>
        omega
  | collectSentinel items rest left ready queue
  | collectTurn items rest left turn ready queue =>
      simp only [ready, Worker.held, Worker.busy, Worker.items, List.length_append,
        List.length_cons, List.length_nil] at owes ⊢
      omega
  | exitSentinel outcome rest ready =>
      have nothing : rest ++ state.queue = [] := by
        simpa [State.outstanding, ready, Worker.items, SentinelLast] using gate.sentinelLast
      have last : rest = [] := (List.append_eq_nil_iff.mp nothing).1
      simp only [ready, last, Worker.held, Worker.busy, Worker.items, List.length_cons,
        List.length_nil] at owes ⊢
      omega
  | startTurn outcome turn rest free ready =>
      simp only [ready, Worker.held, Worker.busy, Worker.items, List.length_cons] at owes
      simp only [State.record, Worker.held, Worker.busy, Worker.items]
      omega
  | settle unused turn rest outcome free ready sized =>
      simp only [ready, Worker.held, Worker.busy, Worker.items] at owes
      simp only [State.record, Worker.held, Worker.busy, Worker.items]
      omega
  | settleUnsized unused turn rest outcome worker free ready unsized next =>
      simp only [ready, Worker.held, Worker.busy, Worker.items] at owes
      have left : worker = .killed rest ∨ worker = .draining rest := by
        rw [next]
        split_ifs <;> simp
      rcases left with rfl | rfl <;>
        simp only [State.record, Worker.held, Worker.busy, Worker.items] <;> omega
  | testFlag outcome ready =>
      simp only [ready, Worker.held, Worker.busy, Worker.items, List.length_nil] at owes
      split_ifs <;> simpa [Worker.held, Worker.busy, Worker.items] using owes
  | empty ready queue | endBatch action items left ready | loop outcome ready
  | hand turn rest outcome ready sized | lengthFails outcome turn rest ready unsized =>
      simpa [ready, Worker.held, Worker.busy, Worker.items] using owes
  | _ => exact owes

/-- The worker has not been killed, and the turn in its hands has a length once it
has been handed on. -/
structure Sound (state : State) : Prop where
  alive : ∀ rest, state.worker ≠ .killed rest
  sized : ∀ turn rest outcome, state.worker = .settling turn rest outcome →
    turn.user.len ≠ none

theorem sound_of_worker {state : State} {worker : Worker} (same : state.worker = worker)
    (alive : ∀ rest, worker ≠ .killed rest)
    (idle : ∀ turn rest outcome, worker ≠ .settling turn rest outcome) : Sound state where
  alive := by
    rw [same]
    exact alive
  sized := by
    intro turn rest outcome settling
    exact absurd (same ▸ settling) (idle turn rest outcome)

theorem moves_sound {state following : State} {action : Action} (sound : Sound state)
    (safe : ¬ TakesUpUnsized state action) (moves : Moves state action following) :
    Sound following := by
  cases moves with
  | takeTurn turn rest worker ready queue next =>
      rcases next with rfl | rfl <;> exact sound_of_worker rfl (by simp) (by simp)
  | testFlag outcome ready =>
      by_cases started : state.shutdownStarted = true
      · exact sound_of_worker (if_pos started) (by simp) (by simp)
      · exact sound_of_worker (if_neg started) (by simp) (by simp)
  | hand turn rest outcome ready sized =>
      refine ⟨by simp, ?_⟩
      intro other behind result settling
      obtain ⟨rfl, -⟩ : turn = other ∧ _ := by simpa using settling
      intro unsized
      simp [unsized] at sized
  | lengthFails outcome turn rest ready unsized =>
      exact absurd ⟨by simp [ready, Worker.facesUnsized, unsized], rfl⟩ safe
  | settleUnsized unused turn rest outcome worker free ready unsized next =>
      exact absurd unsized (sound.sized turn rest outcome ready)
  | takeSentinel | collectSentinel | collectTurn | empty | endBatch | loop | exitSentinel
  | startTurn | settle => exact sound_of_worker rfl (by simp) (by simp)
  | _ => exact ⟨sound.alive, sound.sized⟩

/-! ## Survival -/

def Leaves (state : State) : Prop :=
  (state.worker = .polling ∧ state.queue.head? = some .shutdown) ∨
    (∃ rest, state.worker = .draining (.shutdown :: rest)) ∨
    (state.worker = .testing ∧ state.shutdownStarted = true)

/-- Both runs take the same steps, hand on the same turns, make the same ledger calls
and mark the same number of items as done; only what lies behind them differs. -/
def SameFuture (first second : State) : Prop :=
  ∃ common : State, ∀ schedule : List Action,
    (execute step first schedule).map State.unledgered =
        (execute step common schedule).map first.onto ∧
      (execute step second schedule).map State.unledgered =
        (execute step common schedule).map second.onto

theorem same_future {first second : State} (control : first.control = second.control) :
    SameFuture first second := by
  refine ⟨first.control, fun schedule => ⟨execute_onto first schedule, ?_⟩⟩
  rw [control]
  exact execute_onto second schedule

structure Survives (state : State) : Prop where
  alive : ∀ rest, state.worker ≠ .killed rest
  leaves : ∀ action following, step state action = some following →
    following.worker.ended = true → state.worker.ended = true ∨ Leaves state
  goesOn : state.worker.ended = false → state.producer = .free →
    ∃ action following, step state action = some following ∧
      following.worker ≠ state.worker
  nothingLost : ∀ turn ∈ state.entered, turn ∈ state.evicted ∨ turn ∈ state.line
  unaffected : ∀ turn rest outcome unused following,
    state.worker = .settling turn rest outcome →
    step state (.worker unused) = some following →
      SameFuture following { state with worker := .draining rest }
  taskDone : state.taken = state.taskDone + state.worker.held
  settled : state.worker.ended = true → state.taken = state.taskDone

theorem moves_ended {state following : State} {action : Action} (sound : Sound state)
    (moves : Moves state action following) (ended : following.worker.ended = true) :
    state.worker.ended = true ∨ Leaves state := by
  cases moves with
  | takeSentinel rest ready queue =>
      exact .inr (.inl ⟨ready, by simp [queue]⟩)
  | takeTurn turn rest worker ready queue next =>
      rcases next with rfl | rfl <;> simp [Worker.ended] at ended
  | testFlag outcome ready =>
      by_cases started : state.shutdownStarted = true
      · exact .inr (.inr (.inr ⟨ready, started⟩))
      · simp [started, Worker.ended] at ended
  | exitSentinel outcome rest ready => exact .inr (.inr (.inl ⟨rest, ready⟩))
  | settleUnsized unused turn rest outcome worker free ready unsized next =>
      exact absurd unsized (sound.sized turn rest outcome ready)
  | collectSentinel | collectTurn | empty | endBatch | loop | startTurn | hand | lengthFails
  | settle => simp [Worker.ended] at ended
  | _ => exact .inl ended

theorem worker_goes_on {state : State} (running : state.worker.ended = false)
    (free : state.producer = .free) :
    ∃ action following, step state action = some following ∧
      following.worker ≠ state.worker := by
  cases worker : state.worker with
  | polling =>
      cases queue : state.queue with
      | nil => exact ⟨.empty, _, by simp only [step, workerEmpty, worker, queue]; rfl, by simp⟩
      | cons item rest =>
          cases item with
          | shutdown => exact ⟨.get, _, by simp only [step, workerGet, worker, queue]; rfl, by simp⟩
          | turn turn =>
              refine ⟨.get, _, by simp only [step, workerGet, worker, queue]; rfl, ?_⟩
              dsimp only
              split_ifs <;> simp
  | testing =>
      refine ⟨.worker .completed, _, by simp only [step, workerStep, worker]; rfl, ?_⟩
      dsimp only
      split_ifs <;> simp
  | collecting items left =>
      cases left with
      | zero => exact ⟨.worker .completed, _, by simp only [step, workerStep, worker]; rfl, by simp⟩
      | succ left =>
          cases queue : state.queue with
          | nil => exact ⟨.empty, _, by simp only [step, workerEmpty, worker, queue]; rfl, by simp⟩
          | cons item rest =>
              refine ⟨.get, _, by simp only [step, workerGet, worker, queue]; rfl, ?_⟩
              dsimp only
              split_ifs <;> simp
  | draining items =>
      cases items with
      | nil => exact ⟨.worker .completed, _, by simp only [step, workerStep, worker]; rfl, by simp⟩
      | cons item rest =>
          cases item with
          | shutdown =>
              exact ⟨.worker .completed, _, by simp only [step, workerStep, worker]; rfl, by simp⟩
          | turn turn =>
              exact ⟨.worker .completed, _,
                by simp only [step, workerStep, worker, free, if_true]; rfl, by simp⟩
  | processing turn rest =>
      by_cases sized : turn.user.len.isSome = true
      · exact ⟨.worker .completed, _,
          by simp only [step, workerStep, worker, sized, if_true]; rfl, by simp⟩
      · exact ⟨.worker .completed, _,
          by simp only [step, workerStep, worker, sized]; rfl, by simp⟩
  | settling turn rest outcome =>
      refine ⟨.worker .completed, _,
        by simp only [step, workerStep, worker, free, if_true]; rfl, ?_⟩
      dsimp only [State.record]
      split <;> simp
  | returned => simp [worker, Worker.ended] at running
  | killed rest => simp [worker, Worker.ended] at running

theorem settled_control {state following : State} {turn : Turn} {rest : List Item}
    {outcome unused : DrainOutcome} (sound : Sound state)
    (settling : state.worker = .settling turn rest outcome)
    (taken : step state (.worker unused) = some following) :
    following.control = { state with worker := .draining rest : State }.control := by
  have moves := step_moves taken
  cases moves with
  | settle unused other behind result free ready sized =>
      obtain ⟨rfl, rfl, rfl⟩ : other = turn ∧ behind = rest ∧ result = outcome := by
        simpa [ready] using settling
      rfl
  | settleUnsized unused other behind result worker free ready unsized next =>
      exact absurd unsized (sound.sized other behind result ready)
  | endBatch action items left ready | testFlag outcome ready | loop outcome ready
  | exitSentinel outcome rest ready | startTurn outcome turn rest free ready
  | hand turn rest outcome ready sized | lengthFails outcome turn rest ready unsized =>
      simp [ready] at settling

structure Surviving (state : State) : Prop where
  consistent : Consistent state
  sound : Sound state
  owes : Owes state
  kept : Kept state

theorem reachable_surviving {config : Config} {state : State}
    (reached : Reaches step (fun state action => ¬ TakesUpUnsized state action)
      (start config) state) : Surviving state := by
  refine reached.invariant Surviving ?_ ?_
  · exact ⟨start_consistent config, ⟨by simp [start], by simp [start]⟩, rfl,
      .inr (by simp [start])⟩
  · intro state action following surviving safe taken
    have moves := step_moves taken
    obtain ⟨consistent, sound, owes, kept⟩ := surviving
    exact ⟨step_consistent consistent taken, moves_sound sound safe moves,
      moves_owes consistent.gate owes moves,
      moves_kept consistent.gate consistent.measured kept moves⟩

theorem Surviving.survives {state : State} (surviving : Surviving state) : Survives state where
  alive := surviving.sound.alive
  leaves := fun action following taken ended =>
    moves_ended surviving.sound (step_moves taken) ended
  goesOn := worker_goes_on
  nothingLost := by
    rcases surviving.kept with ⟨rest, killed⟩ | kept
    · exact absurd killed (surviving.sound.alive rest)
    · exact kept
  unaffected := fun turn rest outcome unused following settling taken =>
    same_future (settled_control surviving.sound settling taken)
  taskDone := surviving.owes
  settled := by
    intro ended
    have owes := surviving.owes
    unfold Owes at owes
    cases worker : state.worker with
    | returned => simpa [worker, Worker.held, Worker.busy, Worker.items] using owes
    | killed rest => exact absurd worker (surviving.sound.alive rest)
    | _ => simp [worker, Worker.ended] at ended

/-! ## A turn without a length -/

/-- The turn is being booked as a failure, or its worker is dead and holds the rest. -/
def Dying (turn : Turn) (rest : List Item) (state : State) : Prop :=
  state.worker = .settling turn rest (.raised none) ∨ state.worker = .killed rest

theorem moves_dying {turn : Turn} {rest : List Item} {state following : State} {action : Action}
    (unsized : turn.user.len = none) (dying : Dying turn rest state)
    (moves : Moves state action following) : Dying turn rest following := by
  rcases dying with settling | killed
  · cases moves with
    | settle unused other behind result free ready sized =>
        obtain ⟨rfl, -⟩ : other = turn ∧ _ := by simpa [ready] using settling
        simp [unsized] at sized
    | settleUnsized unused other behind result worker free ready absent next =>
        obtain ⟨rfl, rfl, rfl⟩ : other = turn ∧ behind = rest ∧ result = .raised none := by
          simpa [ready] using settling
        exact .inr next
    | endBatch action items left ready | testFlag outcome ready | loop outcome ready
    | exitSentinel outcome rest ready | startTurn outcome turn rest free ready
    | hand turn rest outcome ready sized | lengthFails outcome turn rest ready unsized
    | takeSentinel rest ready queue | takeTurn turn rest worker ready queue next
    | collectSentinel items rest left ready queue | collectTurn items rest left turn ready queue
    | empty ready queue => simp [ready] at settling
    | _ => exact .inl settling
  · exact .inr (moves_killed killed moves)

theorem takes_up_dying {state following : State} {action : Action}
    (takesUp : TakesUpUnsized state action) (taken : step state action = some following) :
    ∃ turn rest, turn.user.len = none ∧ Dying turn rest following := by
  obtain ⟨faces, worked⟩ := takesUp
  cases action with
  | worker outcome =>
      cases worker : state.worker with
      | processing turn rest =>
          rw [worker] at faces
          have unsized : turn.user.len = none := Option.isNone_iff_eq_none.mp faces
          refine ⟨turn, rest, unsized, .inl ?_⟩
          simp only [step, workerStep, worker, unsized, Option.isSome_none, Bool.false_eq_true,
            if_false, Option.some.injEq] at taken
          rw [← taken]
      | _ => simp [worker, Worker.facesUnsized] at faces
  | _ => simp [Action.ofWorker] at worked

/-- The worker survives every run in which it takes up no turn whose user content has
no length. After it has taken one up it never gets past that turn. -/
theorem worker_survives_unless_unsized (config : Config) :
    (∀ state,
      Reaches step (fun state action => ¬ TakesUpUnsized state action) (start config) state →
        Survives state) ∧
    (∀ state action following last,
      Reaches step anyStep (start config) state →
      TakesUpUnsized state action → step state action = some following →
      Reaches step anyStep following last →
        ∃ turn rest, turn.user.len = none ∧ Dying turn rest last ∧
          (last.producer = .free → ¬ Survives last)) := by
  constructor
  · intro state reached
    exact (reachable_surviving reached).survives
  · intro state action following last reached takesUp taken later
    obtain ⟨turn, rest, unsized, dying⟩ := takes_up_dying takesUp taken
    have kept : Dying turn rest last := by
      refine later.invariant (Dying turn rest) dying ?_
      intro state action following dying _ taken
      exact moves_dying unsized dying (step_moves taken)
    refine ⟨turn, rest, unsized, kept, ?_⟩
    intro free survives
    rcases kept with settling | killed
    · have dies : step last (.worker .completed) = some
          { last.record (DrainOutcome.raised none).ledgerCall with
            taskDone := last.taskDone + 1, worker := .killed rest } := by
        simp only [step, workerStep, settling, free, if_true, unsized]
      have ended := survives.leaves _ _ dies rfl
      rcases ended with ended | ⟨polling, -⟩ | ⟨behind, draining⟩ | ⟨testing, -⟩
      · simp [settling, Worker.ended] at ended
      · simp [settling] at polling
      · simp [settling] at draining
      · simp [settling] at testing
    · exact survives.alive rest killed

/-- Two turns of one batch; the first one raises in `_drain_once`. -/
def poisonedSchedule : List Action :=
  [.finishInitialization,
    .syncTurn (.str "first") (.str "") "", .producer, .producer, .get,
    .syncTurn (.str "second") (.str "") "", .producer, .producer, .get, .empty,
    .worker .completed, .worker (.raised none), .worker .completed,
    .worker .completed, .worker .completed, .worker .completed]

theorem poisoned_turn_survived :
    ∃ state, state.handed.length = 2 ∧ state.taskDone = 2 ∧ Survives state := by
  have reached := reaches_of_execute_where step
    (fun state action => ¬ TakesUpUnsized state action)
    (fun state action => !decide (TakesUpUnsized state action))
    (by simp) (start batchConfig) poisonedSchedule rfl
  exact ⟨_, rfl, rfl, (worker_survives_unless_unsized batchConfig).1 _ reached⟩

def unsizedSchedule : List Action :=
  [.finishInitialization,
    .syncTurn .unsized (.str "assistant") "", .producer, .producer, .get,
    .syncTurn (.str "second") (.str "") "", .producer, .producer, .get, .empty,
    .worker .completed, .worker .completed, .worker .completed]

/-- The thread is dead; the second turn was taken and is never marked as done. -/
theorem unsized_turn_kills_worker :
    ¬ ∀ config state, Reaches step anyStep (start config) state → Survives state := by
  intro survives
  have reached := reaches_of_execute step (start batchConfig) unsizedSchedule rfl
  have survived := survives batchConfig _ reached
  exact survived.alive _ rfl

end HermesCashew.SyncQueue
