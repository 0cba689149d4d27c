import HermesCashew.LifecycleSupervisors

/-!
# Generation exclusivity

A worker is started only when nothing of an earlier generation is left, an
`initialize` that was cancelled in time starts none, and every generation is
cleared once. A late `_clear_runtime_state` cannot reach the fields of a newer
generation through the queue, the worker or the supervisor. It can through
`_log_scrub_acquired`, which it tests and resets outside the lock after the gate
was opened again.
-/

namespace HermesCashew.Lifecycle

open HermesCashew.Transition

set_option autoImplicit false

/-! ## Starting a worker -/

/-- No thread is alive when `initialize` hands over to a new worker. -/
theorem WellFormed.no_thread {state : State} (formed : WellFormed state)
    (ready : state.initializer = some .publishing) (thread : Thread) :
    state.alive thread = false := by
  by_contra dead
  have living : state.alive thread = true := by simpa using dead
  have ⟨current, ran⟩ := formed.threads.current formed.ownership living
  have latest : thread.generation = state.healthGeneration := by
    simpa [current] using formed.ownership.shared.queue
  have waiting := formed.ownership.shared.unstarted (by rw [ready]; rfl)
  rw [latest, waiting] at ran
  cases ran

/-- A stored supervisor that still owns the process is that of this generation. -/
theorem WellFormed.stored_owner {state : State} (formed : WellFormed state)
    {generation : Generation} (stored : state.stored generation = true)
    (owner : state.owner = some generation) : generation = state.healthGeneration :=
  (formed.attached.attached generation (formed.attached.stored generation stored owner)).1

theorem moves_starts {state following : State} {action : Action}
    (moves : Moves state action following) {generation : Generation}
    (idle : state.started (.sync generation) = false)
    (ran : following.started (.sync generation) = true) :
    state.initializer = some .publishing ∧ generation = state.healthGeneration := by
  cases moves with
  | starts ready kept =>
      by_cases same : generation = state.healthGeneration
      · exact ⟨ready, same⟩
      · simp [same, idle] at ran
  | prefetchStarts config quiet clear => simp [idle] at ran
  | _ => exact absurd (idle.symm.trans ran) (by simp)

/-! ## Cancelling in time -/

/-- A generation cancelled before its worker was published has none, and its
`initialize` will still see the cancellation. -/
structure Cancelled (state : State) : Prop where
  known : ∀ generation, state.cancelledEarly generation = true →
    generation ≤ state.healthGeneration
  unstarted : ∀ generation, state.cancelledEarly generation = true →
    state.started (.sync generation) = false
  pending : inBody state.initializer = true →
    state.cancelledEarly state.healthGeneration = true → state.initializationCancelled = true

theorem moves_cancelled {state following : State} {action : Action}
    (shared : Shared state) (cancelled : Cancelled state)
    (moves : Moves state action following) : Cancelled following := by
  have ⟨known, unstarted, pending⟩ := cancelled
  have started := shared.started
  cases moves with
  | withdraw call writes next ready closes =>
      exact ⟨known, unstarted, fun _ => pending (by rw [ready]; rfl)⟩
  | close call writes next ready closes =>
      exact ⟨known, unstarted, by cases next <;> simp [inBody]⟩
  | admitted quiet queue clear =>
      refine ⟨fun generation early => Nat.le_succ_of_le (known generation early), unstarted, ?_⟩
      intro _ early
      exact absurd (known _ early) (Nat.not_succ_le_self _)
  | cancel cleaner unannounced initializing unpublished =>
      refine ⟨?_, ?_, fun _ _ => rfl⟩
      · intro generation early
        by_cases same : generation = state.healthGeneration
        · exact Nat.le_of_eq same
        · exact known generation (by simpa [Function.update_apply, same] using early)
      · intro generation early
        by_cases same : generation = state.healthGeneration
        · subst same
          by_contra ran
          have old : state.cancelledEarly state.healthGeneration = true := by
            simpa [ran] using early
          exact ran (unstarted _ old)
        · exact unstarted generation (by simpa [Function.update_apply, same] using early)
  | starts ready kept =>
      refine ⟨known, ?_, by simp [inBody]⟩
      intro generation early
      by_cases same : generation = state.healthGeneration
      · subst same
        have set := pending (by rw [ready]; rfl) early
        rw [kept] at set
        cases set
      · simpa [Function.update_apply, same] using unstarted generation early
  | prefetchStarts config quiet clear =>
      exact ⟨known, fun generation early => by simpa using unstarted generation early, pending⟩
  | finalize ready => exact ⟨known, unstarted, by simp [inBody]⟩
  | scrubTest point ready next =>
      refine ⟨known, unstarted, ?_⟩
      rcases next with rfl | rfl <;> simp [inBody]
  | queue ready | resume ready | acquire ready | recordScrub ready | load ready
  | resolve ready | store ready | check ready | bindReadOnly ready | bindUnavailable ready
  | bindClaimed ready unowned | identify readOnly identityReady ready | identifyFails ready =>
      exact ⟨known, unstarted, fun _ => pending (by rw [ready]; rfl)⟩
  | checkCancelled ready _ | leave ready | capture error ready | abandon error supervisor ready
  | scrubRelease ready | scrubReset ready | publishCancelled _ ready _ | startFails ready _
  | announceCancelled _ _ _ ready _ | announce _ _ _ ready _ _ | raiseStarting _ _ ready
  | raise _ _ ready =>
      exact ⟨known, unstarted, by simp [inBody]⟩
  | _ => exact ⟨known, unstarted, pending⟩

/-! ## Clearing once -/

structure Cleared (state : State) : Prop where
  once : ∀ generation, state.clearings generation ≤ 1
  known : ∀ generation, state.healthGeneration < generation → state.clearings generation = 0
  queueing : unstarted state.initializer = true → state.clearings state.healthGeneration = 0
  current : ∀ generation, state.syncQueue = some generation → state.clearings generation = 0

theorem moves_clearings {state following : State} {action : Action}
    (moves : Moves state action following) (generation : Generation) :
    following.clearings generation = state.clearings generation ∨
      ∃ cleaner worker, state.cleaners cleaner = .clearing worker generation ∧
        state.syncQueue = some generation ∧ following.syncQueue = none ∧
        following.clearings generation = state.clearings generation + 1 := by
  cases moves with
  | clear cleaner worker queue ready current =>
      by_cases same : generation = queue
      · subst same
        exact .inr ⟨cleaner, worker, ready, current, rfl, by simp⟩
      · exact .inl (by simp [same])
  | _ => exact .inl rfl

/-- `initialize` never goes back to a point before its worker. -/
theorem moves_unstarted {state following : State} {action : Action} (shared : Shared state)
    (moves : Moves state action following) (waiting : unstarted following.initializer = true) :
    unstarted state.initializer = true ∨ Begins state following := by
  cases moves with
  | admitted quiet queue clear => exact .inr ⟨quiet, queue, clear, rfl, rfl, rfl⟩
  | announceCancelled cron vectorUnavailable modelMissing ready closed =>
      have ⟨queue, _, _, clear⟩ := shared.announcing ready
      simp [queue, clear] at closed
  | raise reason errorClass ready => exact .inl (in_body_classes ready).1
  | starts ready kept => cases waiting
  | announce cron vectorUnavailable modelMissing ready queue clear => cases waiting
  | leave ready => cases waiting
  | finalize ready => cases waiting
  | _ =>
    first
    | exact .inl waiting
    | (rename_i ready; exact .inl (by rw [ready]; rfl))
    | (rename_i ready _; exact .inl (by rw [ready]; rfl))

theorem moves_cleared {state following : State} {action : Action} (ownership : Ownership state)
    (cleared : Cleared state) (moves : Moves state action following) : Cleared following := by
  have clearings := moves_clearings moves
  have latest {generation : Generation} (current : state.syncQueue = some generation) :
      generation = state.healthGeneration := by
    simpa [current] using ownership.shared.queue
  refine ⟨?_, ?_, ?_, ?_⟩
  · intro generation
    rcases clearings generation with same | ⟨_, _, _, current, _, counted⟩
    · exact same ▸ cleared.once generation
    · exact Nat.le_of_eq (by rw [counted, cleared.current generation current])
  · intro generation later
    have before : state.healthGeneration < generation := by
      rcases moves_generation moves with same | begins
      · exact same ▸ later
      · rw [begins.generation] at later
        exact Nat.lt_of_succ_lt later
    rcases clearings generation with same | ⟨_, _, _, current, _, _⟩
    · exact same.trans (cleared.known generation before)
    · exact absurd (latest current) (Nat.ne_of_gt before)
  · intro waiting
    rcases moves_generation moves with kept | begins
    · have before := (moves_unstarted ownership.shared moves waiting).resolve_right fun begins =>
        Nat.succ_ne_self _ (begins.generation.symm.trans kept)
      have unstarted := ownership.shared.unstarted before
      rw [kept]
      rcases clearings state.healthGeneration with same | ⟨cleaner, _, ready, current, _, _⟩
      · exact same.trans (cleared.queueing before)
      · have ran := ownership.targets.joined cleaner _ (by rw [ready]; rfl) current
        rw [unstarted] at ran
        cases ran
    · rw [begins.generation]
      rcases clearings (state.healthGeneration + 1) with same | ⟨_, _, _, current, _, _⟩
      · exact same.trans (cleared.known _ (Nat.lt_succ_self _))
      · exact absurd (latest current) (Nat.succ_ne_self _)
  · intro generation current
    rcases clearings generation with same | ⟨_, _, _, _, gone, _⟩
    · rw [same]
      rcases moves_queue moves current with old | ⟨queueing, rfl⟩
      · exact cleared.current generation old
      · exact cleared.queueing (by rw [queueing]; rfl)
    · rw [gone] at current
      cases current

/-! ## Late teardowns -/

structure Tagged (state : State) : Prop where
  config : ∀ generation, state.config = some generation → generation ≤ state.healthGeneration
  dbPath : ∀ generation, state.dbPath = some generation → generation ≤ state.healthGeneration
  prefetchWorker : ∀ generation, state.prefetchWorker = some generation →
    generation ≤ state.healthGeneration
  prefetchThreads : ∀ generation, generation ∈ state.prefetchThreads →
    generation ≤ state.healthGeneration
  logScrub : ∀ generation, state.logScrubAcquired = some generation →
    generation ≤ state.healthGeneration

theorem moves_tagged {state following : State} {action : Action} (tagged : Tagged state)
    (moves : Moves state action following) : Tagged following := by
  have ⟨config, dbPath, prefetchWorker, prefetchThreads, logScrub⟩ := tagged
  cases moves with
  | admitted quiet queue clear => constructor <;> grind
  | recordScrub ready | load ready | resolve ready => constructor <;> grind
  | abandon error supervisor ready =>
      exact ⟨by simp [Lifecycle.abandon], by simp [Lifecycle.abandon], prefetchWorker,
        prefetchThreads, logScrub⟩
  | scrubReset ready => exact ⟨config, dbPath, prefetchWorker, prefetchThreads, by simp⟩
  | clear cleaner worker queue ready current =>
      exact ⟨by simp, by simp, by simp, by simp, logScrub⟩
  | cleanerReset cleaner queue ready =>
      exact ⟨config, dbPath, prefetchWorker, prefetchThreads, by simp⟩
  | prefetchStarts configured quiet clear => constructor <;> grind
  | prefetchLeaves generation flag =>
      refine ⟨config, dbPath, ?_, ?_, logScrub⟩
      · grind
      · exact fun other member => prefetchThreads other (List.mem_of_mem_erase member)
  | _ => exact ⟨config, dbPath, prefetchWorker, prefetchThreads, logScrub⟩

/-- A field that holds an object newer than `queue` keeps it. -/
def Keeps (queue : Generation) (before after : Option Generation) : Prop :=
  ∀ generation, queue < generation → before = some generation → after = some generation

/-- No field of a generation newer than `queue` is cleared. -/
structure KeepsNewer (queue : Generation) (before after : State) : Prop where
  syncQueue : Keeps queue before.syncQueue after.syncQueue
  syncWorker : Keeps queue before.syncWorker after.syncWorker
  config : Keeps queue before.config after.config
  dbPath : Keeps queue before.dbPath after.dbPath
  embeddingSupervisor : Keeps queue before.embeddingSupervisor after.embeddingSupervisor
  prefetchWorker : Keeps queue before.prefetchWorker after.prefetchWorker
  prefetchThreads : ∀ generation ∈ before.prefetchThreads, queue < generation →
    generation ∈ after.prefetchThreads
  shutdownCleanupPending : ∀ cleanup, queue < cleanup.queue →
    before.shutdownCleanupPending = some cleanup → after.shutdownCleanupPending = some cleanup
  logScrubAcquired : Keeps queue before.logScrubAcquired after.logScrubAcquired
  current : queue < before.healthGeneration →
    after.shutdownStarted = before.shutdownStarted ∧ after.health = before.health ∧
      after.embeddingIdentityReady = before.embeddingIdentityReady

theorem keeps_newer_rfl (queue : Generation) (state : State) : KeepsNewer queue state state := by
  have same (value : Option Generation) : Keeps queue value value := fun _ _ held => held
  exact ⟨same _, same _, same _, same _, same _, same _, fun _ member _ => member,
    fun _ _ held => held, same _, fun _ => ⟨rfl, rfl, rfl⟩⟩

/-- The generation whose `_clear_runtime_state` the cleaner is running. -/
def CleanerPoint.clears : CleanerPoint → Option Generation
  | .clearing _ queue | .closing queue _ | .scrubbing queue _ => some queue
  | _ => none

def CleanerPoint.releases : CleanerPoint → Option Generation
  | .closing queue _ | .scrubbing queue _ => some queue
  | _ => none

/-- A step of the `_clear_runtime_state` of `queue`, or of a callback it left. -/
def TearsDown (state : State) (action : Action) (queue : Generation) : Prop :=
  (∃ cleaner, action = .clean cleaner ∧ (state.cleaners cleaner).clears = some queue) ∨
    action = .runCallback queue

def ScrubOrdered (state : State) : Prop :=
  ∀ cleaner queue generation, (state.cleaners cleaner).releases = some queue →
    state.logScrubAcquired = some generation → generation ≤ queue

theorem Finishes.keeps_newer {state changed : State} {queue : Generation} {markStopped : Bool}
    {writes : CloseWrites} (finishes : Finishes changed (some queue) markStopped writes)
    (attached : Attached state)
    (embedding : changed.embeddingSupervisor = state.embeddingSupervisor)
    (flag : changed.shutdownStarted = state.shutdownStarted)
    (health : changed.health = state.health) :
    Keeps queue state.embeddingSupervisor writes.embeddingSupervisor ∧
      (queue < state.healthGeneration → writes.shutdownStarted = state.shutdownStarted ∧
        writes.health = state.health) := by
  cases finishes with
  | stale closing same other =>
      exact ⟨by simp [Keeps, State.writes, embedding], fun _ => ⟨flag, health⟩⟩
  | kept same present | released same gone =>
      have current := same.resolve_left (by simp)
      rw [embedding] at current
      have latest := (attached.attached queue current).1
      refine ⟨?_, fun older => absurd latest (Nat.ne_of_lt older)⟩
      intro generation newer held
      rw [current] at held
      exact absurd (Option.some.inj held) (Nat.ne_of_lt newer)

theorem Closes.keeps_newer {state : State} {cleaner : Nat} {queue : Generation}
    {call : CloseCall} {writes : CloseWrites} {next : Option CloseCall}
    (attached : Attached state) (ready : state.cleaners cleaner = .closing queue call)
    (closes : Closes state call writes next) :
    Keeps queue state.embeddingSupervisor writes.embeddingSupervisor ∧
      (queue < state.healthGeneration → writes.shutdownStarted = state.shutdownStarted ∧
        writes.health = state.health) := by
  have ⟨concerns, _⟩ := attached.cleaner cleaner queue call ready
  cases closes with
  | finish markStopped writes finishes =>
      have ⟨empty, _, _, _, latest⟩ := attached.cleanerNone cleaner queue markStopped ready
      exact ⟨by simp [Keeps, empty], fun older => absurd latest (Nat.ne_of_lt older)⟩
  | finishNow supervisor markStopped writes finishes =>
      obtain ⟨rfl, _⟩ := concerns
      exact finishes.keeps_newer attached rfl rfl rfl
  | callNow supervisor markStopped released => exact ⟨by simp [Keeps, State.writes], fun _ => ⟨rfl, rfl⟩⟩
  | register supervisor markStopped held => exact ⟨by simp [Keeps, State.writes], fun _ => ⟨rfl, rfl⟩⟩
  | close supervisor => exact ⟨by simp [Keeps, State.writes], fun _ => ⟨rfl, rfl⟩⟩

/-- What a close writes leaves the other fields of every generation alone. -/
theorem write_keeps_newer {queue : Generation} {state : State} {writes : CloseWrites}
    (embedding : Keeps queue state.embeddingSupervisor writes.embeddingSupervisor)
    (current : queue < state.healthGeneration →
      writes.shutdownStarted = state.shutdownStarted ∧ writes.health = state.health) :
    KeepsNewer queue state (state.write writes) := by
  have same := keeps_newer_rfl queue state
  exact ⟨same.1, same.2, same.3, same.4, embedding, same.6, same.7, same.8, same.9,
    fun older => ⟨(current older).1, (current older).2, rfl⟩⟩

theorem clear_keeps_newer {state following : State} (formed : WellFormed state)
    (tagged : Tagged state) {queue : Generation} (current : state.syncQueue = some queue)
    (scrub : following.logScrubAcquired = state.logScrubAcquired)
    (embedding : following.embeddingSupervisor = state.embeddingSupervisor) :
    KeepsNewer queue state following := by
  have latest : queue = state.healthGeneration := by
    simpa [current] using formed.ownership.shared.queue
  have old {generation : Generation} (known : generation ≤ state.healthGeneration)
      (newer : queue < generation) : False :=
    absurd newer (Nat.not_lt_of_le (latest ▸ known))
  have worker := formed.ownership.shared.worker
  refine ⟨?_, ?_, ?_, ?_, by simp [Keeps, embedding], ?_, ?_, ?_, by simp [Keeps, scrub], ?_⟩
  · intro generation newer held
    rw [current] at held
    exact absurd (Option.some.inj held) (Nat.ne_of_lt newer)
  · intro generation newer held
    rw [held, current] at worker
    exact absurd (Option.some.inj (worker.resolve_left (by simp))) (Nat.ne_of_gt newer)
  · exact fun generation newer held => (old (tagged.config generation held) newer).elim
  · exact fun generation newer held => (old (tagged.dbPath generation held) newer).elim
  · exact fun generation newer held => (old (tagged.prefetchWorker generation held) newer).elim
  · exact fun generation held newer =>
      (old (tagged.prefetchThreads generation held) newer).elim
  · exact fun cleanup newer held =>
      (old (formed.ownership.targets.pending cleanup held).1.known newer).elim
  · exact fun older => absurd latest (Nat.ne_of_lt older)

theorem tear_down_keeps_newer {state following : State} {action : Action}
    (formed : WellFormed state) (tagged : Tagged state) (ordered : ScrubOrdered state)
    (moves : Moves state action following) {queue : Generation}
    (tears : TearsDown state action queue) : KeepsNewer queue state following := by
  rcases tears with ⟨cleaner, rfl, clears⟩ | rfl
  · cases moves with
    | clear _ worker other ready current =>
        obtain rfl : other = queue := by simpa [ready, CleanerPoint.clears] using clears
        exact clear_keeps_newer formed tagged current rfl rfl
    | clearStale _ worker other ready =>
        have same := keeps_newer_rfl queue state
        exact ⟨same.1, same.2, same.3, same.4, same.5, same.6, same.7, same.8, same.9, same.10⟩
    | cleanerClose _ other call writes next ready closes =>
        obtain rfl : other = queue := by simpa [ready, CleanerPoint.clears] using clears
        have ⟨embedding, current⟩ := closes.keeps_newer formed.attached ready
        have kept := write_keeps_newer embedding current
        exact ⟨kept.1, kept.2, kept.3, kept.4, kept.5, kept.6, kept.7, kept.8, kept.9, kept.10⟩
    | cleanerTest _ other point ready next =>
        have same := keeps_newer_rfl queue state
        exact ⟨same.1, same.2, same.3, same.4, same.5, same.6, same.7, same.8, same.9, same.10⟩
    | cleanerRelease _ other ready =>
        have same := keeps_newer_rfl queue state
        exact ⟨same.1, same.2, same.3, same.4, same.5, same.6, same.7, same.8, same.9, same.10⟩
    | cleanerReset _ other ready =>
        obtain rfl : other = queue := by simpa [ready, CleanerPoint.clears] using clears
        have same := keeps_newer_rfl other state
        refine ⟨same.1, same.2, same.3, same.4, same.5, same.6, same.7, same.8, ?_, same.10⟩
        intro generation newer held
        have known := ordered cleaner other generation (by rw [ready]; rfl) held
        exact absurd newer (Nat.not_lt_of_le known)
    | exited _ cleanup ready dead =>
        rcases ready with ready | ready
        · simp [ready, CleanerPoint.clears] at clears
        · simp [ready, CleanerPoint.clears] at clears
    | _ => simp_all [CleanerPoint.clears]
  · cases moves with
    | runCallback _ markStopped rest writes running finishes =>
        have ⟨embedding, current⟩ := finishes.keeps_newer formed.attached rfl rfl rfl
        exact write_keeps_newer embedding current

/-- The step is not an `initialize` that sets `_log_scrub_acquired` while an
earlier teardown has left its locked block and not finished its scrub release. -/
def ScrubsInOrder (state : State) (action : Action) : Prop :=
  state.initializer = some .acquired → action = .advance →
    ∀ cleaner, (state.cleaners cleaner).releases = none

/-- A scrub release becomes outstanding in the locked block of its teardown. -/
theorem moves_releases {state following : State} {action : Action}
    (moves : Moves state action following) {cleaner : Nat} {queue : Generation}
    (outstanding : (following.cleaners cleaner).releases = some queue) :
    (state.cleaners cleaner).releases = some queue ∨ state.syncQueue = some queue := by
  have moved := moves_cleaner moves cleaner
  generalize state.cleaners cleaner = before at moved ⊢
  generalize following.cleaners cleaner = after at moved outstanding
  cases moved with
  | same => exact .inl outstanding
  | clear worker other current cleared kept flag initializer generation =>
      obtain rfl : other = queue := Option.some.inj outstanding
      exact .inr current
  | close other call writes next closes =>
      have same : some other = some queue := by
        cases next with
        | none => exact outstanding
        | some next => exact outstanding
      exact .inl same
  | scrub other point next => exact .inl outstanding
  | _ => cases outstanding

theorem moves_log_scrub {state following : State} {action : Action}
    (moves : Moves state action following) {generation : Generation}
    (held : following.logScrubAcquired = some generation) :
    state.logScrubAcquired = some generation ∨
      state.initializer = some .acquired ∧ action = .advance ∧
        following.cleaners = state.cleaners := by
  cases moves with
  | recordScrub ready => exact .inr ⟨ready, rfl, rfl⟩
  | scrubReset ready => cases held
  | cleanerReset cleaner queue ready => cases held
  | _ => exact .inl held

theorem moves_scrub_ordered {state following : State} {action : Action}
    (ownership : Ownership state) (tagged : Tagged state) (ordered : ScrubOrdered state)
    (allowed : ScrubsInOrder state action) (moves : Moves state action following) :
    ScrubOrdered following := by
  intro cleaner queue generation outstanding held
  rcases moves_log_scrub moves held with held | ⟨ready, advances, same⟩
  · rcases moves_releases moves outstanding with older | current
    · exact ordered cleaner queue generation older held
    · have latest : queue = state.healthGeneration := by
        simpa [current] using ownership.shared.queue
      rw [latest]
      exact tagged.logScrub generation held
  · have idle := allowed ready advances cleaner
    rw [same, idle] at outstanding
    cases outstanding

/-! ## Every run -/

/-- A worker is started only when the threads of earlier generations have ended and
no supervisor stored by an earlier generation owns the process. -/
def StartsAlone (state following : State) : Prop :=
  ∀ generation, state.started (.sync generation) = false →
    following.started (.sync generation) = true →
    (∀ thread, thread.generation < generation → state.alive thread = false) ∧
      ∀ earlier, earlier < generation → state.stored earlier = true →
        state.owner ≠ some earlier

/-- What the generations of a run have reached. -/
structure Exclusive (state : State) : Prop where
  formed : WellFormed state
  cancelled : Cancelled state
  cleared : Cleared state
  tagged : Tagged state

theorem fresh_exclusive : Exclusive fresh where
  formed := fresh_well_formed
  cancelled := by constructor <;> simp [fresh]
  cleared := by constructor <;> simp [fresh]
  tagged := by constructor <;> simp [fresh]

theorem moves_exclusive {state following : State} {action : Action}
    (exclusive : Exclusive state) (moves : Moves state action following) :
    Exclusive following where
  formed := moves_well_formed exclusive.formed moves
  cancelled := moves_cancelled exclusive.formed.ownership.shared exclusive.cancelled moves
  cleared := moves_cleared exclusive.formed.ownership exclusive.cleared moves
  tagged := moves_tagged exclusive.tagged moves

theorem reachable_exclusive {allowed : State → Action → Prop} {state : State}
    (reached : Reaches step allowed fresh state) : Exclusive state :=
  reached.invariant Exclusive fresh_exclusive
    fun _ _ _ exclusive _ taken => moves_exclusive exclusive (step_moves taken)

theorem moves_starts_alone {state following : State} {action : Action}
    (formed : WellFormed state) (moves : Moves state action following) :
    StartsAlone state following := by
  intro generation idle ran
  have ⟨ready, latest⟩ := moves_starts moves idle ran
  refine ⟨fun thread _ => formed.no_thread ready thread, ?_⟩
  intro earlier older stored owner
  have current := formed.stored_owner stored owner
  exact absurd (current.trans latest.symm) (Nat.ne_of_lt older)

theorem reachable_scrub_ordered {state : State}
    (reached : Reaches step ScrubsInOrder fresh state) : ScrubOrdered state := by
  refine reached.invariant_with Exclusive ScrubOrdered ?_ ?_ ?_
  · exact fun _ prior => reachable_exclusive prior
  · intro cleaner queue generation outstanding
    cases outstanding
  · intro state action following exclusive ordered allowed taken
    exact moves_scrub_ordered exclusive.formed.ownership exclusive.tagged ordered allowed
      (step_moves taken)

/-- In every run, workers are started alone, an initialization cancelled in time
starts none, and a generation is cleared at most once. In a run whose scrub
releases finish before the next `initialize` acquires the filters, a late
teardown moreover leaves every field of a newer generation alone. -/
theorem generations_exclusive (state : State) :
    (Reaches step anyStep fresh state →
      (∀ action following, step state action = some following →
        StartsAlone state following) ∧
      (∀ generation, state.cancelledEarly generation = true →
        state.started (.sync generation) = false) ∧
      ∀ generation, state.clearings generation ≤ 1) ∧
    (Reaches step ScrubsInOrder fresh state →
      ∀ action following queue, step state action = some following →
        TearsDown state action queue → KeepsNewer queue state following) := by
  constructor
  · intro reached
    have exclusive := reachable_exclusive reached
    exact ⟨fun _ _ taken => moves_starts_alone exclusive.formed (step_moves taken),
      exclusive.cancelled.unstarted, exclusive.cleared.once⟩
  · intro reached action following queue taken tears
    have exclusive := reachable_exclusive reached
    exact tear_down_keeps_newer exclusive.formed exclusive.tagged
      (reachable_scrub_ordered reached) (step_moves taken) tears

/-- Consecutive statements of `initialize`. -/
def statements (count : Nat) : List Action := List.replicate count .advance

/-- `initialize` up to the point between `acquire_provider_scrub_filters` and the
assignment after it. -/
def toAcquired : List Action := .initializeProvider :: statements 3

/-- The same `initialize` up to the call that publishes the identity. -/
def toIdentity : List Action := statements 2 ++ [.bind .claimed, .advance]

def toReturn : List Action :=
  [.advance, .startSyncWorker true, .announce .disabled false false, .advance, .advance]

/-- A `shutdown` whose worker exits in time, up to the end of its locked block. -/
def shutdownCleared (worker : Generation) : List Action :=
  [.shutdown 0, .exit (.sync worker), .clean 0, .join 0 [], .clean 0]

def closeCallback (supervisor : Generation) : List Action :=
  [.dropOwner supervisor, .takeCallbacks supervisor, .runCallback supervisor]

def lateCallbackSchedule : List Action :=
  toIdentity ++ [.identify false, .advance, .advance] ++ toReturn ++ shutdownCleared 1 ++
    List.replicate 5 (.clean 0) ++ closeCallback 1 ++ toAcquired

/-- The steps other than the assignment of `_log_scrub_acquired`. -/
def leavesScrub (state : State) (action : Action) : Bool :=
  !decide (state.initializer = some .acquired ∧ action = .advance)

theorem scrubs_in_order_of_leaves (state : State) (action : Action)
    (leaves : leavesScrub state action = true) : ScrubsInOrder state action := by
  intro ready advances
  simp [leavesScrub, ready, advances] at leaves

/-- The second callback of the first generation is late. -/
theorem late_callback_keeps_newer :
    ∃ state following : State, state.syncQueue = some 2 ∧ state.logScrubAcquired = some 2 ∧
      step state (.runCallback 1) = some following ∧ KeepsNewer 1 state following ∧
      state.clearings 1 = 1 ∧ ∀ generation, state.clearings generation ≤ 1 := by
  have first := reaches_of_execute_where step ScrubsInOrder leavesScrub
    scrubs_in_order_of_leaves fresh toAcquired rfl
  have recorded := first.next (fun _ _ _ => rfl) (show step _ .advance = some _ from rfl)
  have second := recorded.trans
    (reaches_of_execute_where step ScrubsInOrder leavesScrub scrubs_in_order_of_leaves _
      lateCallbackSchedule rfl)
  have reached := second.next
    (fun _ _ cleaner => match cleaner with | 0 => rfl | _ + 1 => rfl)
    (show step _ .advance = some _ from rfl)
  exact ⟨_, _, rfl, rfl, rfl, (generations_exclusive _).2 reached (.runCallback 1) _ 1 rfl
    (.inr rfl), rfl, ((generations_exclusive _).1 reached.weaken).2.2⟩

/-- The teardown of the first generation releases its supervisor, so the second
`initialize` runs to its acquisition before the teardown tests the scrub flag. -/
def lateScrubSchedule : List Action :=
  toAcquired ++ .advance :: toIdentity ++ .identify true :: toReturn ++ shutdownCleared 1 ++
    List.replicate 2 (.clean 0) ++ closeCallback 1 ++ toAcquired ++
    [.advance, .clean 0, .clean 0]

/-- The late teardown resets `_log_scrub_acquired` of the second generation. -/
theorem late_teardown_clears_newer :
    ¬∀ state action following queue, Reaches step anyStep fresh state →
      step state action = some following → TearsDown state action queue →
      KeepsNewer queue state following := by
  intro keeps
  have reached := reaches_of_execute step fresh lateScrubSchedule rfl
  have kept := keeps _ (.clean 0) _ 1 reached rfl (.inl ⟨0, rfl, rfl⟩)
  have held := kept.logScrubAcquired 2 (by decide) rfl
  cases held

end HermesCashew.Lifecycle
