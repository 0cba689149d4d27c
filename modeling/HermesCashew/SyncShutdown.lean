import HermesCashew.SyncLedger

/-!
# Draining the queue at shutdown

The worker leaves its loop by the sentinel or by the empty-queue branch. The
second exit reads `_shutdown_started` after `q.get` has timed out, without the
state lock, so a turn put between the two and followed by `shutdown` is still in
the queue when the worker returns. That is the only way to lose one.
-/

namespace HermesCashew.SyncQueue

open HermesCashew.Transition

set_option autoImplicit false

/-- `shutdown` sets the flag while the worker stands between the `queue.Empty`
of its timed-out `q.get` and the test of the flag, and a turn was put meanwhile. -/
def StrandsTurn (state : State) (action : Action) : Prop :=
  action = .shutdown ∧ state.worker = .testing ∧ turnsOf state.queue ≠ []

instance (state : State) (action : Action) : Decidable (StrandsTurn state action) :=
  inferInstanceAs (Decidable (_ ∧ _ ∧ _))

/-- No admitted turn is lost: each was evicted or handed to `_drain_once`. -/
structure Drained (state : State) : Prop where
  handed : ∀ turn ∈ state.admitted, turn ∉ state.evicted → turn ∈ state.handed
  queue : turnsOf state.queue = []
  pending : state.ledger.pending = 0

structure Exits (state : State) : Prop where
  testing : state.shutdownStarted = true → state.worker = .testing →
    turnsOf state.queue = []
  returned : state.worker = .returned →
    state.shutdownStarted = true ∧ turnsOf state.queue = []

theorem start_exits (config : Config) : Exits (start config) where
  testing := by simp [start]
  returned := by simp [start]

/-- A step that leaves the worker busy has neither exit to account for. -/
theorem exits_of_running {state : State} (notTesting : state.worker ≠ .testing)
    (notReturned : state.worker ≠ .returned) : Exits state where
  testing := fun _ testing => absurd testing notTesting
  returned := fun returned => absurd returned notReturned

theorem Exits.unchanged {state following : State} (exits : Exits state)
    (flag : following.shutdownStarted = state.shutdownStarted)
    (worker : following.worker = state.worker)
    (queue : turnsOf following.queue = turnsOf state.queue) : Exits following where
  testing := by rw [flag, worker, queue]; exact exits.testing
  returned := by rw [flag, worker, queue]; exact exits.returned

theorem moves_exits {state following : State} {action : Action}
    (gate : Gate state) (exits : Exits state)
    (safe : ¬StrandsTurn state action) (moves : Moves state action following) :
    Exits following := by
  cases moves with
  | shutdown free absent =>
      refine ⟨fun _ testing => ?_, fun returned => ⟨rfl, (exits.returned returned).2⟩⟩
      by_contra waiting
      exact safe ⟨rfl, testing, waiting⟩
  | put turn ready =>
      have active : state.producer ≠ .free := by
        rcases ready with ready | ready <;> simp [ready]
      have closed : state.shutdownStarted ≠ true := by
        intro started
        exact gate.flag.mp started (gate.producing active)
      exact ⟨fun started => absurd started closed,
        fun returned => absurd (exits.returned returned).1 closed⟩
  | evict turn item rest ready queue =>
      have closed : state.shutdownStarted ≠ true := by
        intro started
        exact gate.flag.mp started (gate.producing (by simp [ready]))
      exact ⟨fun started => absurd started closed,
        fun returned => absurd (exits.returned returned).1 closed⟩
  | post ready => exact exits.unchanged rfl rfl (by simp)
  | takeSentinel rest ready queue =>
      have posted : state.closer ≠ .absent := by
        intro absent
        have missing := gate.unposted (.inl absent)
        simp [State.outstanding, queue] at missing
      have nothing : rest = [] := by
        simpa [State.outstanding, ready, Worker.items, queue, SentinelLast] using
          gate.sentinelLast
      exact ⟨fun _ testing => by simp at testing,
        fun _ => ⟨gate.flag.mpr posted, by simp [nothing]⟩⟩
  | takeTurn turn rest worker ready queue next =>
      rcases next with rfl | rfl <;> exact exits_of_running (by simp) (by simp)
  | empty ready queue =>
      exact ⟨fun _ _ => by simp [queue], fun returned => by simp at returned⟩
  | testFlag outcome ready =>
      by_cases started : state.shutdownStarted = true
      · have queue := exits.testing started ready
        exact ⟨fun _ _ => queue, fun _ => ⟨started, queue⟩⟩
      · exact ⟨fun flag => absurd flag started, fun returned => by simp [started] at returned⟩
  | exitSentinel outcome rest ready =>
      have posted : state.closer ≠ .absent := by
        intro absent
        have missing := gate.unposted (.inl absent)
        simp [State.outstanding, ready, Worker.items] at missing
      have nothing : rest ++ state.queue = [] := by
        simpa [State.outstanding, ready, Worker.items, SentinelLast] using
          gate.sentinelLast
      exact ⟨fun _ testing => by simp at testing, fun _ =>
        ⟨gate.flag.mpr posted, by simp [(List.append_eq_nil_iff.mp nothing).2]⟩⟩
  | collectSentinel items rest left ready queue
  | collectTurn items rest left turn ready queue
  | endBatch action items left ready | loop outcome ready
  | startTurn outcome turn rest free ready | hand turn rest outcome ready sized
  | lengthFails outcome turn rest ready unsized
  | settle unused turn rest outcome free ready sized =>
      exact exits_of_running (by simp) (by simp)
  | settleUnsized unused turn rest outcome worker free ready unsized next =>
      refine exits_of_running ?_ ?_ <;> cases outcome <;> simp_all
  | _ => exact exits.unchanged rfl rfl rfl

theorem moves_killed {state following : State} {action : Action} {rest : List Item}
    (killed : state.worker = .killed rest) (moves : Moves state action following) :
    following.worker = .killed rest := by
  cases moves <;> first | exact killed | simp_all

/-- Every turn put is accounted for while the worker thread lives. -/
def Kept (state : State) : Prop :=
  (∃ rest, state.worker = .killed rest) ∨
    ∀ turn ∈ state.entered, turn ∈ state.evicted ∨ turn ∈ state.line

theorem LineChange.kept {state following : State}
    (change : LineChange state following)
    (kept : ∀ turn ∈ state.entered, turn ∈ state.evicted ∨ turn ∈ state.line) :
    Kept following := by
  cases change with
  | same line entered evictions =>
      right
      rw [entered, line, State.evicted, evictions]
      exact kept
  | put turn line entered evictions =>
      right
      rw [entered, line, State.evicted, evictions]
      intro other member
      rcases List.mem_append.mp member with old | only
      · exact (kept other old).imp id (List.mem_append_left _)
      · exact .inr (List.mem_append_right _ only)
  | evict oldest rest front back line queued left entered evictions =>
      right
      rw [entered, left, State.evicted, evictions]
      intro other member
      simp only [List.map_append, List.map_cons, List.map_nil, turns_of_append,
        turns_of_turn, turns_of_nil, List.mem_append, List.mem_singleton]
      rcases kept other member with dropped | waiting
      · exact .inl (.inl dropped)
      · rw [line, List.mem_append, List.mem_cons] at waiting
        rcases waiting with ahead | rfl | behind
        · exact .inr (.inl ahead)
        · exact .inl (.inr rfl)
        · exact .inr (.inr behind)
  | abandon turn front back rest line left killed entered evictions =>
      exact .inl ⟨rest, killed⟩

theorem moves_kept {state following : State} {action : Action} (gate : Gate state)
    (measured : Measured state) (kept : Kept state)
    (moves : Moves state action following) : Kept following := by
  rcases kept with ⟨rest, killed⟩ | kept
  · exact .inl ⟨rest, moves_killed killed moves⟩
  · exact (moves_line_change gate measured moves).kept kept

/-- The invariants of a run in which no `shutdown` strands a turn. -/
structure Draining (state : State) : Prop where
  consistent : Consistent state
  exits : Exits state
  kept : Kept state

theorem reachable_draining {config : Config} {state : State}
    (reached : Reaches step (fun state action => ¬StrandsTurn state action)
      (start config) state) : Draining state := by
  refine reached.invariant Draining ?_ ?_
  · exact ⟨start_consistent config, start_exits config, .inr (by simp [start])⟩
  · intro state action following draining safe taken
    have moves := step_moves taken
    obtain ⟨consistent, exits, kept⟩ := draining
    exact ⟨step_consistent consistent taken,
      moves_exits consistent.gate exits safe moves,
      moves_kept consistent.gate consistent.measured kept moves⟩

theorem Draining.drained {state : State} (draining : Draining state)
    (returned : state.worker = .returned) : Drained state := by
  obtain ⟨consistent, exits, kept⟩ := draining
  obtain ⟨started, queue⟩ := exits.returned returned
  have free : state.producer = .free := by
    by_contra busy
    exact consistent.gate.flag.mp started (consistent.gate.producing busy)
  have outstanding : turnsOf state.outstanding = [] := by
    simp [State.outstanding, returned, Worker.items, queue]
  have admission := consistent.tickets.admission
  rw [free] at admission
  simp only [Producer.unadmitted, List.append_nil] at admission
  refine ⟨?_, queue, ?_⟩
  · intro turn member present
    rw [← admission] at member
    rcases kept with ⟨rest, killed⟩ | kept
    · simp [returned] at killed
    · rcases kept turn member with dropped | waiting
      · exact absurd dropped present
      · simpa [State.line, returned, Worker.inHand, outstanding] using waiting
  · have pending := consistent.books.pending
    rw [free, outstanding] at pending
    simpa [Producer.unadmitted, Producer.undropped] using pending

structure Stranded (turn : Turn) (state : State) : Prop where
  gate : Gate state
  flag : state.shutdownStarted = true
  queued : turn ∈ turnsOf state.queue
  worker : state.worker = .testing ∨ state.worker = .returned

theorem moves_stranded {turn : Turn} {state following : State} {action : Action}
    (stranded : Stranded turn state) (moves : Moves state action following) :
    Stranded turn following := by
  have gate := moves_gate stranded.gate moves
  obtain ⟨before, flag, queued, worker⟩ := stranded
  have free : state.producer = .free := by
    by_contra busy
    exact before.flag.mp flag (before.producing busy)
  cases moves with
  | put added ready => rcases ready with ready | ready <;> simp [free] at ready
  | evict added item rest ready queue => simp [free] at ready
  | shutdown free absent => exact absurd absent (before.flag.mp flag)
  | post ready => exact ⟨gate, flag, by simpa using queued, worker⟩
  | testFlag outcome ready => exact ⟨gate, flag, queued, by simp [flag]⟩
  | takeSentinel | takeTurn | collectSentinel | collectTurn | empty | endBatch | loop
  | exitSentinel | startTurn | hand | lengthFails | settle | settleUnsized =>
      rcases worker with worker | worker <;> simp_all
  | _ => exact ⟨gate, flag, queued, worker⟩

theorem stranded_of_strands {state following : State} {action : Action}
    (gate : Gate state) (strands : StrandsTurn state action)
    (taken : step state action = some following) :
    ∃ turn, Stranded turn following := by
  obtain ⟨rfl, testing, waiting⟩ := strands
  obtain ⟨turn, rest, queue⟩ := List.exists_cons_of_ne_nil waiting
  have following_gate := moves_gate gate (step_moves taken)
  obtain ⟨ready, same⟩ := Option.ite_none_right_eq_some.mp taken
  obtain rfl := Option.some.inj same
  exact ⟨turn, following_gate, rfl, by simp [queue], .inl testing⟩

/-- A worker that returns has drained every admitted turn exactly in the runs in
which no `shutdown` strands one: without such a step the queue is drained, and
after such a step no continuation drains it. -/
theorem shutdown_drains_unless_stranded (config : Config) :
    (∀ state,
      Reaches step (fun state action => ¬StrandsTurn state action)
        (start config) state →
      state.worker = .returned → Drained state) ∧
    (∀ state action following last,
      Reaches step anyStep (start config) state →
      StrandsTurn state action → step state action = some following →
      Reaches step anyStep following last →
      last.worker = .returned → ¬Drained last) := by
  constructor
  · intro state reached returned
    exact (reachable_draining reached).drained returned
  · intro state action following last reached strands taken later returned drained
    obtain ⟨turn, stranded⟩ :=
      stranded_of_strands (reachable_consistent reached).gate strands taken
    have kept : Stranded turn last := by
      refine later.invariant (Stranded turn) stranded ?_
      intro state action following stranded _ taken
      exact moves_stranded stranded (step_moves taken)
    have queued := kept.queued
    rw [drained.queue] at queued
    exact absurd queued List.not_mem_nil

def sampleConfig : Config where
  writeEnabled := true
  identityReady := true
  autoExtraction := true
  experimentalBatchSync := false
  sessionId := "session"

/-- One whole `sync_turn` call on a queue with room. -/
def sampleTurn : List Action :=
  [.syncTurn (.str "user") (.str "assistant") "", .producer, .producer]

def drainedSchedule : List Action :=
  .finishInitialization :: sampleTurn ++
    [.shutdown, .postSentinel, .get, .worker .completed, .worker .completed,
      .worker .completed, .worker .completed, .get]

theorem drained_schedule_drains :
    ∃ state, state.worker = .returned ∧ state.handed.length = 1 ∧ Drained state := by
  have reached := reaches_of_execute_where step
    (fun state action => ¬StrandsTurn state action)
    (fun state action => !decide (StrandsTurn state action))
    (by simp) (start sampleConfig) drainedSchedule rfl
  exact ⟨_, rfl, rfl, (shutdown_drains_unless_stranded sampleConfig).1 _ reached rfl⟩

/-- The turn is put after the timed-out `q.get`, and `shutdown` sets the flag
before the worker tests it. -/
def strandedSchedule : List Action :=
  .finishInitialization :: .empty :: sampleTurn ++
    [.shutdown, .worker .completed, .postSentinel]

/-- The worker has returned, one turn is still in front of the sentinel, and
the ledger counts it as pending for good. -/
theorem shutdown_strands_admitted_turn :
    ¬∀ config state, Reaches step anyStep (start config) state →
      state.worker = .returned → Drained state := by
  intro drains
  have reached := reaches_of_execute step (start sampleConfig) strandedSchedule rfl
  have drained := drains sampleConfig _ reached rfl
  exact absurd drained.pending (by decide)

end HermesCashew.SyncQueue
