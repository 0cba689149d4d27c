import HermesCashew.Lifecycle

/-!
# Who owns the queue and the worker

The program points of `initialize`, `shutdown` and the cleanup threads say which
generation the shared fields hold. The two halves of `Ownership` depend on each
other: a cleaner relies on the fields of the generation it was started for, and
`initialize` relies on no cleaner being left for its own generation.
-/

namespace HermesCashew.Lifecycle

open HermesCashew.Transition

set_option autoImplicit false

/-- The generation that a `shutdown` call or cleanup thread may still clear. -/
def CleanerPoint.target : CleanerPoint → Option Generation
  | .signalled queue _ | .joining _ queue _ | .clearing _ queue => some queue
  | .retaining cleanup | .scheduling cleanup | .spawning cleanup | .watching cleanup =>
      some cleanup.queue
  | _ => none

def CleanerPoint.joinedTarget : CleanerPoint → Option Generation
  | .clearing _ queue => some queue
  | .retaining cleanup | .scheduling cleanup | .spawning cleanup | .watching cleanup =>
      some cleanup.queue
  | _ => none

/-- What a thread may rely on while it holds `queue` as the queue to clear. -/
structure Owned (state : State) (queue : Generation) : Prop where
  known : queue ≤ state.healthGeneration
  flag : state.syncQueue = some queue → state.shutdownStarted = true
  worker : state.syncQueue = some queue → state.syncWorker = some queue
  older : state.initializer = some .queueing → queue < state.healthGeneration

/-- `initialize` runs and has not started a worker thread. -/
def unstarted : Option InitializePoint → Bool
  | none | some .announcing | some .published | some .finalizing => false
  | _ => true

/-- `initialize` is in one of its handlers, behind the locked block. -/
def tornDown : Option InitializePoint → Bool
  | some (.closing _) | some (.scrubbing _) => true
  | _ => false

def settled : Option InitializePoint → Bool
  | none | some .published | some .finalizing => true
  | _ => false

/-- `initialize` raised because it was cancelled. -/
def giving : Option InitializePoint → Bool
  | some (.raised .cancelled) | some (.captured .cancelled _) => true
  | _ => false

structure Shared (state : State) : Prop where
  queue : state.syncQueue = none ∨ state.syncQueue = some state.healthGeneration
  worker : state.syncWorker = none ∨ state.syncWorker = state.syncQueue
  started : ∀ generation, state.started (.sync generation) = true →
    generation ≤ state.healthGeneration
  queueing : state.initializer = some .queueing → state.syncQueue = none
  queued : inBody state.initializer = true → state.initializer ≠ some .queueing →
    state.syncQueue = some state.healthGeneration
  workerless : inBody state.initializer = true ∨ giving state.initializer = true →
    state.syncWorker = none
  flag : inBody state.initializer = true → state.shutdownStarted = true →
    state.initializationCancelled = true
  unstarted : unstarted state.initializer = true →
    state.started (.sync state.healthGeneration) = false
  announcing : state.initializer = some .announcing →
    state.syncQueue = some state.healthGeneration ∧
      state.syncWorker = some state.healthGeneration ∧
      state.started (.sync state.healthGeneration) = true ∧ state.shutdownStarted = false
  tornDown : tornDown state.initializer = true → state.syncQueue = none
  settled : ∀ generation, settled state.initializer = true →
    state.syncQueue = some generation →
    state.syncWorker = some generation ∧ state.started (.sync generation) = true

structure Targets (state : State) : Prop where
  target : ∀ cleaner queue, (state.cleaners cleaner).target = some queue → Owned state queue
  joining : ∀ cleaner worker queue prefetchThreads,
    state.cleaners cleaner = .joining worker queue prefetchThreads →
    state.syncQueue = some queue → worker = some queue
  joined : ∀ cleaner queue, (state.cleaners cleaner).joinedTarget = some queue →
    state.syncQueue = some queue → state.started (.sync queue) = true
  pending : ∀ cleanup, state.shutdownCleanupPending = some cleanup →
    Owned state cleanup.queue ∧
      (state.syncQueue = some cleanup.queue → state.started (.sync cleanup.queue) = true)

structure Ownership (state : State) : Prop where
  shared : Shared state
  targets : Targets state

theorem fresh_ownership : Ownership fresh := by
  constructor <;> constructor <;> simp [fresh, CleanerPoint.target, CleanerPoint.joinedTarget,
    inBody, giving, unstarted, tornDown, settled]

attribute [local grind =] inBody giving unstarted tornDown settled CleanerPoint.target
  CleanerPoint.joinedTarget Function.update_apply State.setCleaner State.setHealth
  State.setSupervisor State.write

theorem in_body_classes {point : Option InitializePoint} (body : inBody point = true) :
    unstarted point = true ∧ tornDown point = false ∧ settled point = false := by
  rcases point with _ | point
  · cases body
  · cases point <;> first | exact ⟨rfl, rfl, rfl⟩ | cases body

/-- A step that leaves the shared fields alone, except that it may clear the flag. -/
theorem Shared.unchanged {state following : State} (shared : Shared state)
    (initializer : following.initializer = state.initializer)
    (cancelled : following.initializationCancelled = state.initializationCancelled)
    (queue : following.syncQueue = state.syncQueue)
    (worker : following.syncWorker = state.syncWorker)
    (generation : following.healthGeneration = state.healthGeneration)
    (started : ∀ generation, following.started (.sync generation) =
      state.started (.sync generation))
    (flag : following.shutdownStarted = true → state.shutdownStarted = true) :
    Shared following := by
  obtain ⟨_, _, _, _, _, _, _, _, _, _, _⟩ := shared
  constructor <;> grind

/-- `initialize` goes from one statement of its body to the next. -/
theorem Shared.proceed {state following : State} (shared : Shared state)
    (before : inBody state.initializer = true) (after : inBody following.initializer = true)
    (notFirst : state.initializer ≠ some .queueing)
    (notAgain : following.initializer ≠ some .queueing)
    (cancelled : following.initializationCancelled = state.initializationCancelled)
    (queue : following.syncQueue = state.syncQueue)
    (worker : following.syncWorker = state.syncWorker)
    (generation : following.healthGeneration = state.healthGeneration)
    (started : following.started = state.started)
    (flag : following.shutdownStarted = true → state.shutdownStarted = true) :
    Shared following := by
  have waiting := shared.unstarted (in_body_classes before).1
  have classes := in_body_classes after
  obtain ⟨_, _, _, _, _, _, _, _, _, _, _⟩ := shared
  constructor <;> grind

/-- A step that leaves the queue and the worker alone and does not lower the flag
of the generation. -/
theorem Owned.kept {state following : State} {queue : Generation} (owned : Owned state queue)
    (generation : following.healthGeneration = state.healthGeneration)
    (same : following.syncQueue = state.syncQueue)
    (worker : following.syncWorker = state.syncWorker)
    (flag : state.syncQueue = some queue → state.shutdownStarted = true →
      following.shutdownStarted = true)
    (older : following.initializer = some .queueing → state.initializer = some .queueing) :
    Owned following queue := by
  constructor
  · rw [generation]
    exact owned.known
  · intro current
    rw [same] at current
    exact flag current (owned.flag current)
  · intro current
    rw [same] at current
    rw [worker]
    exact owned.worker current
  · intro queueing
    rw [generation]
    exact owned.older (older queueing)

/-- Nothing is left to rely on once the queue is another one. -/
theorem Owned.lost {state following : State} {queue : Generation} (owned : Owned state queue)
    (generation : following.healthGeneration = state.healthGeneration)
    (gone : following.syncQueue ≠ some queue)
    (older : following.initializer ≠ some .queueing) : Owned following queue := by
  constructor
  · rw [generation]
    exact owned.known
  · exact fun current => absurd current gone
  · exact fun current => absurd current gone
  · exact fun queueing => absurd queueing older

theorem Owned.lowers {state : State} {queue : Generation} {flag : Bool}
    (lowers : flag = state.shutdownStarted ∨ flag = false ∧ state.syncQueue = none)
    (current : state.syncQueue = some queue) (set : state.shutdownStarted = true) :
    flag = true := by
  rcases lowers with same | ⟨_, gone⟩
  · exact same.trans set
  · rw [gone] at current
    cases current

theorem moves_owned {state following : State} {action : Action} (shared : Shared state)
    (moves : Moves state action following) (queue : Generation) (owned : Owned state queue) :
    Owned following queue := by
  have workerless (body : inBody state.initializer = true) : state.syncQueue ≠ some queue := by
    intro current
    have worker := owned.worker current
    rw [shared.workerless (.inl body)] at worker
    cases worker
  cases moves with
  | admitted quiet gone clear =>
      constructor
      · exact Nat.le_succ_of_le owned.known
      · exact owned.flag
      · exact owned.worker
      · exact fun _ => Nat.lt_succ_of_le owned.known
  | queue ready =>
      have older := owned.older ready
      refine owned.lost rfl ?_ nofun
      intro current
      exact absurd (Option.some.inj current) (Nat.ne_of_gt older)
  | resume ready =>
      exact owned.lost rfl (workerless (by rw [ready]; rfl)) nofun
  | withdraw call writes next ready closes | close call writes next ready closes =>
      refine owned.kept rfl rfl rfl (Owned.lowers closes.lowers) ?_
      cases next <;> exact nofun
  | cleanerClose cleaner _ call writes next ready closes =>
      exact owned.kept rfl rfl rfl (Owned.lowers closes.lowers) id
  | runCallback supervisor markStopped rest writes running finishes =>
      exact owned.kept rfl rfl rfl (Owned.lowers finishes.lowers) id
  | startFails ready kept | starts ready kept =>
      exact owned.lost rfl (workerless (by rw [ready]; rfl)) nofun
  | abandon error supervisor ready => exact owned.lost rfl nofun nofun
  | clear cleaner worker _ ready current =>
      constructor
      · exact owned.known
      · exact nofun
      · exact nofun
      · exact owned.older
  | cancel cleaner unannounced initializing unpublished
  | signal cleaner _ idle unannounced published current clear =>
      exact owned.kept rfl rfl rfl (fun _ _ => rfl) id
  | scrubTest point ready next =>
      rcases next with rfl | rfl <;> exact owned.kept rfl rfl rfl (fun _ => id) nofun
  | _ => first
    | exact owned
    | exact owned.kept rfl rfl rfl (fun _ => id) id
    | exact owned.kept rfl rfl rfl (fun _ => id) nofun

theorem lowered {state : State} {flag : Bool}
    (lowers : flag = state.shutdownStarted ∨ flag = false ∧ state.syncQueue = none)
    (set : flag = true) : state.shutdownStarted = true := by
  rcases lowers with same | ⟨clear, _⟩
  · exact same.symm.trans set
  · rw [clear] at set
    cases set

/-- `initialize` leaves its body, or goes on behind it. -/
theorem Shared.passes {state following : State} (shared : Shared state)
    (body : inBody following.initializer = false)
    (announcing : following.initializer ≠ some .announcing)
    (queue : following.syncQueue = state.syncQueue)
    (worker : following.syncWorker = state.syncWorker)
    (generation : following.healthGeneration = state.healthGeneration)
    (started : following.started = state.started)
    (given : giving following.initializer = true → state.syncWorker = none)
    (waiting : Lifecycle.unstarted following.initializer = true →
      Lifecycle.unstarted state.initializer = true)
    (gone : Lifecycle.tornDown following.initializer = true → state.syncQueue = none)
    (ready : Lifecycle.settled following.initializer = true → ∀ current,
      state.syncQueue = some current →
      state.syncWorker = some current ∧ state.started (.sync current) = true) :
    Shared following := by
  constructor
  · rw [queue, generation]
    exact shared.queue
  · rw [worker, queue]
    exact shared.worker
  · rw [started, generation]
    exact shared.started
  · intro queueing
    rw [queueing] at body
    cases body
  · intro inside
    rw [body] at inside
    cases inside
  · rw [worker]
    rintro (inside | giving)
    · rw [body] at inside
      cases inside
    · exact given giving
  · intro inside
    rw [body] at inside
    cases inside
  · rw [started, generation]
    exact fun point => shared.unstarted (waiting point)
  · exact fun point => absurd point announcing
  · rw [queue]
    exact gone
  · intro current point
    rw [queue, worker, started]
    exact ready point current

theorem Shared.settles {state : State} (shared : Shared state)
    (gone : Lifecycle.tornDown state.initializer = true) (current : Generation)
    (queue : state.syncQueue = some current) :
    state.syncWorker = some current ∧ state.started (.sync current) = true := by
  rw [shared.tornDown gone] at queue
  cases queue

/-- The queue is dropped, by a handler of `initialize` or by a cleanup. -/
theorem Shared.drops {state following : State} (shared : Shared state)
    (queue : following.syncQueue = none) (worker : following.syncWorker = none)
    (body : inBody following.initializer = false)
    (announcing : following.initializer ≠ some .announcing)
    (generation : following.healthGeneration = state.healthGeneration)
    (started : following.started = state.started)
    (waiting : Lifecycle.unstarted following.initializer = true →
      Lifecycle.unstarted state.initializer = true) : Shared following := by
  constructor
  · exact .inl queue
  · exact .inl worker
  · rw [started, generation]
    exact shared.started
  · exact fun _ => queue
  · intro inside
    rw [body] at inside
    cases inside
  · exact fun _ => worker
  · intro inside
    rw [body] at inside
    cases inside
  · rw [started, generation]
    exact fun point => shared.unstarted (waiting point)
  · exact fun point => absurd point announcing
  · exact fun _ => queue
  · intro current _ stands
    rw [queue] at stands
    cases stands

/-- `shutdown` sets the flag. -/
theorem Shared.flagged {state following : State} (shared : Shared state)
    (initializer : following.initializer = state.initializer)
    (queue : following.syncQueue = state.syncQueue)
    (worker : following.syncWorker = state.syncWorker)
    (generation : following.healthGeneration = state.healthGeneration)
    (started : following.started = state.started)
    (unannounced : state.initializer ≠ some .announcing)
    (cancelled : inBody state.initializer = true → following.initializationCancelled = true) :
    Shared following := by
  constructor
  · rw [queue, generation]
    exact shared.queue
  · rw [worker, queue]
    exact shared.worker
  · rw [started, generation]
    exact shared.started
  · rw [initializer, queue]
    exact shared.queueing
  · rw [initializer, queue, generation]
    exact shared.queued
  · rw [initializer, worker]
    exact shared.workerless
  · rw [initializer]
    exact fun inside _ => cancelled inside
  · rw [initializer, started, generation]
    exact shared.unstarted
  · rw [initializer]
    exact fun point => absurd point unannounced
  · rw [initializer, queue]
    exact shared.tornDown
  · rw [initializer, queue, worker, started]
    exact shared.settled

theorem admitted_shared {state following : State} (shared : Shared state)
    (initializer : following.initializer = some .queueing) (gone : state.syncQueue = none)
    (clear : following.shutdownStarted = false)
    (queue : following.syncQueue = state.syncQueue)
    (worker : following.syncWorker = state.syncWorker)
    (generation : following.healthGeneration = state.healthGeneration + 1)
    (started : following.started = state.started) : Shared following := by
  have empty : following.syncQueue = none := queue.trans gone
  have idle : following.syncWorker = none := by
    rw [worker]
    rcases shared.worker with none | same
    · exact none
    · exact same.trans gone
  constructor
  · exact .inl empty
  · exact .inl idle
  · rw [started, generation]
    exact fun other ran => Nat.le_succ_of_le (shared.started other ran)
  · exact fun _ => empty
  · exact fun _ other => absurd initializer other
  · exact fun _ => idle
  · rw [clear]
    exact nofun
  · intro _
    rw [started, generation]
    apply Bool.eq_false_iff.mpr
    intro ran
    exact absurd (shared.started _ ran) (Nat.not_succ_le_self _)
  · rw [initializer]
    exact nofun
  · exact fun _ => empty
  · rw [initializer]
    exact nofun

theorem queue_shared {state following : State} (shared : Shared state)
    (ready : state.initializer = some .queueing)
    (initializer : following.initializer = some .resuming)
    (cancelled : following.initializationCancelled = state.initializationCancelled)
    (flag : following.shutdownStarted = state.shutdownStarted)
    (queue : following.syncQueue = some state.healthGeneration)
    (worker : following.syncWorker = state.syncWorker)
    (generation : following.healthGeneration = state.healthGeneration)
    (started : following.started = state.started) : Shared following := by
  have inside : inBody state.initializer = true := by rw [ready]; rfl
  have idle : following.syncWorker = none := worker.trans (shared.workerless (.inl inside))
  constructor
  · exact .inr (by rw [queue, generation])
  · exact .inl idle
  · rw [started, generation]
    exact shared.started
  · rw [initializer]
    exact nofun
  · exact fun _ _ => by rw [queue, generation]
  · exact fun _ => idle
  · rw [flag, cancelled]
    exact fun _ => shared.flag inside
  · rw [started, generation]
    exact fun _ => shared.unstarted (in_body_classes inside).1
  · rw [initializer]
    exact nofun
  · rw [initializer]
    exact nofun
  · rw [initializer]
    exact nofun

/-- `_start_sync_worker` has stored the worker; only a started one is announced. -/
theorem handoff_shared {state following : State} (shared : Shared state)
    (ready : state.initializer = some .publishing)
    (kept : state.initializationCancelled = false)
    (body : inBody following.initializer = false)
    (given : giving following.initializer = false)
    (gone : Lifecycle.tornDown following.initializer = false)
    (unsettled : Lifecycle.settled following.initializer = false)
    (flag : following.shutdownStarted = state.shutdownStarted)
    (queue : following.syncQueue = state.syncQueue)
    (worker : following.syncWorker = some state.healthGeneration)
    (generation : following.healthGeneration = state.healthGeneration)
    (started : ∀ other, following.started (.sync other) = true →
      other = state.healthGeneration ∨ state.started (.sync other) = true)
    (waiting : Lifecycle.unstarted following.initializer = true →
      following.started (.sync state.healthGeneration) = false)
    (announcing : following.initializer = some .announcing →
      following.started (.sync state.healthGeneration) = true) : Shared following := by
  have inside : inBody state.initializer = true := by rw [ready]; rfl
  have current : following.syncQueue = some following.healthGeneration := by
    rw [queue, generation]
    exact shared.queued inside (by rw [ready]; exact nofun)
  have clear : following.shutdownStarted = false := by
    rw [flag]
    apply Bool.eq_false_iff.mpr
    intro set
    rw [shared.flag inside set] at kept
    cases kept
  constructor
  · exact .inr current
  · exact .inr (by rw [worker, current, generation])
  · rw [generation]
    intro other ran
    rcases started other ran with same | before
    · exact Nat.le_of_eq same
    · exact shared.started other before
  · intro queueing
    rw [queueing] at body
    cases body
  · intro again
    rw [body] at again
    cases again
  · rintro (again | giving)
    · rw [body] at again
      cases again
    · rw [given] at giving
      cases giving
  · intro again
    rw [body] at again
    cases again
  · rw [generation]
    exact waiting
  · intro point
    rw [generation]
    exact ⟨by rw [current, generation], worker, announcing point, clear⟩
  · intro torn
    rw [gone] at torn
    cases torn
  · intro _ point
    rw [unsettled] at point
    cases point

theorem moves_shared {state following : State} {action : Action} (ownership : Ownership state)
    (moves : Moves state action following) : Shared following := by
  have shared := ownership.shared
  cases moves with
  | deferred | shutdownIgnored cleaner | prefetchIgnored
  | reportIgnored generation reason fallback error => exact shared
  | retry cleaner cleanup idle flag pending | readWorker cleaner queue prefetchThreads ready
  | retain cleaner cleanup ready | defer cleaner cleanup ready
  | exited cleaner cleanup ready dead | handOver cleaner queue ready current
  | handOverStale cleaner queue ready | clearStale cleaner worker queue ready
  | cleanerTest cleaner queue point ready next | cleanerRelease cleaner queue ready
  | cleanerReset cleaner queue ready
  | joinRaises cleaner seen worker queue prefetchThreads ready
  | joined cleaner worker queue prefetchThreads ready ran dead
  | timedOut cleaner seen worker queue prefetchThreads ready ran remaining member complete
  | spawnFails cleaner cleanup ready | spawn cleaner slot cleanup ready idle
  | prefetchLeaves generation flag | exit thread
  | report reason fallback error clear working | dropOwner supervisor owner closed
  | takeCallbacks supervisor releasing =>
      exact shared.unchanged rfl rfl rfl rfl rfl (fun _ => rfl) id
  | prefetchStarts config quiet clear =>
      exact shared.unchanged rfl rfl rfl rfl rfl (fun _ => by simp) id
  | cleanerClose cleaner _ call writes next ready closes =>
      exact shared.unchanged rfl rfl rfl rfl rfl (fun _ => rfl) (lowered closes.lowers)
  | runCallback supervisor markStopped rest writes running finishes =>
      exact shared.unchanged rfl rfl rfl rfl rfl (fun _ => rfl) (lowered finishes.lowers)
  | withdraw call writes next ready closes =>
      cases next <;> refine shared.proceed ?_ rfl ?_ nofun rfl rfl rfl rfl rfl
        (lowered closes.lowers) <;> simp [ready, inBody]
  | resume ready | acquire ready | recordScrub ready | load ready | resolve ready
  | store ready | check ready | bindReadOnly ready | bindUnavailable ready
  | bindClaimed ready unowned | identify readOnly identityReady ready | identifyFails ready =>
      refine shared.proceed ?_ rfl ?_ ?_ rfl rfl rfl rfl rfl ?_ <;> simp [ready, inBody]
  | admitted quiet gone clear => exact admitted_shared shared rfl gone clear rfl rfl rfl rfl
  | queue ready => exact queue_shared shared ready rfl rfl rfl rfl rfl rfl rfl
  | startFails ready kept =>
      exact handoff_shared shared ready kept rfl rfl rfl rfl rfl rfl rfl rfl (fun _ => .inr)
        (fun _ => shared.unstarted (by rw [ready]; rfl)) nofun
  | starts ready kept =>
      refine handoff_shared shared ready kept rfl rfl rfl rfl rfl rfl rfl rfl ?_ ?_ ?_
      · intro other ran
        by_cases same : other = state.healthGeneration
        · exact .inl same
        · exact .inr (by simpa [Function.update_apply, same] using ran)
      · exact nofun
      · exact fun _ => by simp
  | close call writes next ready closes =>
      have gone : Lifecycle.tornDown state.initializer = true := by rw [ready]; rfl
      have waiting : Lifecycle.unstarted state.initializer = true := by rw [ready]; rfl
      cases next <;> exact shared.passes rfl nofun rfl rfl rfl rfl nofun (fun _ => waiting)
        (fun _ => shared.tornDown gone) nofun
  | scrubTest point ready next =>
      have gone : Lifecycle.tornDown state.initializer = true := by rw [ready]; rfl
      have waiting : Lifecycle.unstarted state.initializer = true := by rw [ready]; rfl
      rcases next with rfl | rfl <;> exact shared.passes rfl nofun rfl rfl rfl rfl nofun
        (fun _ => waiting) (fun _ => shared.tornDown gone) (fun _ => shared.settles gone)
  | scrubRelease ready | scrubReset ready =>
      have gone : Lifecycle.tornDown state.initializer = true := by rw [ready]; rfl
      have waiting : Lifecycle.unstarted state.initializer = true := by rw [ready]; rfl
      exact shared.passes rfl nofun rfl rfl rfl rfl nofun (fun _ => waiting)
        (fun _ => shared.tornDown gone) (fun _ => shared.settles gone)
  | checkCancelled ready cancelled | publishCancelled starts ready cancelled =>
      have inside : inBody state.initializer = true := by rw [ready]; rfl
      exact shared.passes rfl nofun rfl rfl rfl rfl (fun _ => shared.workerless (.inl inside))
        (fun _ => (in_body_classes inside).1) nofun nofun
  | raise reason errorClass inside =>
      exact shared.passes rfl nofun rfl rfl rfl rfl nofun (fun _ => (in_body_classes inside).1)
        nofun nofun
  | raiseStarting reason errorClass ready =>
      have inside : inBody state.initializer = true := by rw [ready]; rfl
      exact shared.passes rfl nofun rfl rfl rfl rfl nofun (fun _ => (in_body_classes inside).1)
        nofun nofun
  | capture error ready =>
      have waiting : Lifecycle.unstarted state.initializer = true := by rw [ready]; rfl
      have given : giving (some (.captured error state.embeddingSupervisor)) = true →
          giving state.initializer = true := by
        rw [ready]
        cases error <;> exact id
      exact shared.passes rfl nofun rfl rfl rfl rfl
        (fun point => shared.workerless (.inr (given point))) (fun _ => waiting) nofun nofun
  | announceCancelled cron vectorUnavailable modelMissing ready closed =>
      have ⟨queue, _, _, clear⟩ := shared.announcing ready
      rw [queue, clear] at closed
      rcases closed with none | set
      · cases none
      · cases set
  | announce cron vectorUnavailable modelMissing ready stands clear =>
      have ⟨queue, worker, ran, _⟩ := shared.announcing ready
      refine shared.passes rfl nofun rfl rfl rfl rfl nofun nofun nofun ?_
      intro _ current stands
      obtain rfl := Option.some.inj (queue.symm.trans stands)
      exact ⟨worker, ran⟩
  | leave ready | finalize ready =>
      exact shared.passes rfl nofun rfl rfl rfl rfl nofun nofun nofun
        (fun _ current => shared.settled current (by rw [ready]; rfl))
  | abandon error supervisor ready =>
      have idle : (Lifecycle.abandon state error).syncWorker = none := by
        cases error with
        | cancelled => exact shared.workerless (.inr (by rw [ready]; rfl))
        | failed reason errorClass => rfl
      exact shared.drops rfl idle rfl nofun rfl rfl (fun _ => by rw [ready]; rfl)
  | clear cleaner worker queue ready current =>
      have owned := ownership.targets.target cleaner queue (by rw [ready]; rfl)
      refine shared.drops rfl rfl ?_ ?_ rfl rfl id
      · apply Bool.eq_false_iff.mpr
        intro inside
        have idle := shared.workerless (.inl inside)
        rw [owned.worker current] at idle
        cases idle
      · intro announcing
        have ⟨_, _, _, clear⟩ := shared.announcing announcing
        rw [owned.flag current] at clear
        cases clear
  | cancel cleaner unannounced initializing unpublished =>
      exact shared.flagged rfl rfl rfl rfl rfl unannounced fun _ => rfl
  | signal cleaner queue idle unannounced published current clear =>
      refine shared.flagged rfl rfl rfl rfl rfl unannounced ?_
      intro inside
      rcases published with quiet | worker
      · rw [quiet] at inside
        cases inside
      · exact absurd (shared.workerless (.inl inside)) worker

/-- What a step does to one `shutdown` call or cleanup thread. -/
inductive CleanerMoves (state following : State) : CleanerPoint → CleanerPoint → Prop where
  | same (point : CleanerPoint) : CleanerMoves state following point point
  | ends (point : CleanerPoint) : CleanerMoves state following point .idle
  | signal (queue : Generation) (published : state.initializer = none ∨ state.syncWorker ≠ none)
      (current : state.syncQueue = some queue) (clear : state.shutdownStarted = false)
      (flag : following.shutdownStarted = true)
      (initializer : following.initializer = state.initializer)
      (kept : following.syncQueue = state.syncQueue)
      (worker : following.syncWorker = state.syncWorker)
      (generation : following.healthGeneration = state.healthGeneration)
      (alive : following.alive = state.alive) :
      CleanerMoves state following .idle
        (.signalled queue (state.prefetchThreads.map .prefetch))
  | retry (cleanup : Cleanup) (flag : state.shutdownStarted = true)
      (pending : state.shutdownCleanupPending = some cleanup) :
      CleanerMoves state following .idle (.scheduling cleanup)
  | readWorker (queue : Generation) (prefetchThreads : List Thread) :
      CleanerMoves state following (.signalled queue prefetchThreads)
        (.joining state.syncWorker queue prefetchThreads)
  | joined (worker : Option Generation) (queue : Generation) (prefetchThreads : List Thread)
      (ran : ∀ generation, worker = some generation → state.started (.sync generation) = true)
      (dead : ∀ thread ∈ Lifecycle.joined worker prefetchThreads, state.alive thread = false) :
      CleanerMoves state following (.joining worker queue prefetchThreads)
        (.clearing worker queue)
  | timedOut (seen : List Thread) (worker : Option Generation) (queue : Generation)
      (prefetchThreads : List Thread)
      (ran : ∀ generation, worker = some generation → state.started (.sync generation) = true)
      (complete : ∀ thread ∈ Lifecycle.joined worker prefetchThreads,
        state.alive thread = true → thread ∈ seen) :
      CleanerMoves state following (.joining worker queue prefetchThreads)
        (.retaining { worker := worker, queue := queue, workers := seen })
  | retain (cleanup : Cleanup) :
      CleanerMoves state following (.retaining cleanup) (.scheduling cleanup)
  | defer (cleanup : Cleanup) :
      CleanerMoves state following (.scheduling cleanup) (.spawning cleanup)
  | exited (point : CleanerPoint) (cleanup : Cleanup)
      (ready : point = .scheduling cleanup ∨ point = .watching cleanup)
      (dead : cleanup.workers.any state.alive = false) :
      CleanerMoves state following point (.clearing cleanup.worker cleanup.queue)
  | spawn (cleanup : Cleanup) :
      CleanerMoves state following (.spawning cleanup) (.spawned cleanup.queue)
  | watch (cleanup : Cleanup) (spawner : Nat)
      (ready : state.cleaners spawner = .spawning cleanup) :
      CleanerMoves state following .idle (.watching cleanup)
  | clear (worker : Option Generation) (queue : Generation)
      (current : state.syncQueue = some queue) (cleared : following.syncQueue = none)
      (kept : following.embeddingSupervisor = state.embeddingSupervisor)
      (flag : following.shutdownStarted = state.shutdownStarted)
      (initializer : following.initializer = state.initializer)
      (generation : following.healthGeneration = state.healthGeneration) :
      CleanerMoves state following (.clearing worker queue)
        (.closing queue (.enter state.embeddingSupervisor true))
  | close (queue : Generation) (call : CloseCall) (writes : CloseWrites)
      (next : Option CloseCall) (closes : Closes state call writes next) :
      CleanerMoves state following (.closing queue call)
        (next.elim (.scrubbing queue .test) (.closing queue))
  | scrub (queue : Generation) (point next : ScrubPoint) :
      CleanerMoves state following (.scrubbing queue point) (.scrubbing queue next)

/-- A step that writes one cleaner moves that one and keeps the others. -/
theorem set_cleaner_moves {state following : State} (cleaner other : Nat) (point : CleanerPoint)
    (written : following.cleaners = Function.update state.cleaners cleaner point)
    (moved : CleanerMoves state following (state.cleaners cleaner) point) :
    CleanerMoves state following (state.cleaners other) (following.cleaners other) := by
  rw [written]
  by_cases same : other = cleaner
  · subst same
    simpa using moved
  · rw [Function.update_of_ne same]
    exact .same _

theorem moves_cleaner {state following : State} {action : Action}
    (moves : Moves state action following) (other : Nat) :
    CleanerMoves state following (state.cleaners other) (following.cleaners other) := by
  cases moves with
  | signal cleaner queue idle unannounced published current clear =>
      refine set_cleaner_moves cleaner other _ rfl ?_
      rw [idle]
      exact .signal queue published current clear rfl rfl rfl rfl rfl rfl
  | retry cleaner cleanup idle flag pending =>
      refine set_cleaner_moves cleaner other _ rfl ?_
      rw [idle]
      exact .retry cleanup flag pending
  | readWorker cleaner queue prefetchThreads ready =>
      refine set_cleaner_moves cleaner other _ rfl ?_
      rw [ready]
      exact .readWorker queue prefetchThreads
  | retain cleaner cleanup ready =>
      refine set_cleaner_moves cleaner other _ rfl ?_
      rw [ready]
      exact .retain cleanup
  | defer cleaner cleanup ready =>
      refine set_cleaner_moves cleaner other _ rfl ?_
      rw [ready]
      exact .defer cleanup
  | exited cleaner cleanup ready dead =>
      exact set_cleaner_moves cleaner other _ rfl (.exited _ cleanup ready dead)
  | handOver cleaner queue ready current | handOverStale cleaner queue ready
  | clearStale cleaner worker queue ready | cleanerReset cleaner queue ready
  | joinRaises cleaner seen worker queue prefetchThreads ready
  | spawnFails cleaner cleanup ready =>
      exact set_cleaner_moves cleaner other _ rfl (.ends _)
  | clear cleaner worker queue ready current =>
      refine set_cleaner_moves cleaner other _ rfl ?_
      rw [ready]
      exact .clear worker queue current rfl rfl rfl rfl rfl
  | cleanerClose cleaner queue call writes next ready closes =>
      refine set_cleaner_moves cleaner other _ rfl ?_
      rw [ready]
      exact .close queue call writes next closes
  | cleanerTest cleaner queue point ready next =>
      refine set_cleaner_moves cleaner other _ rfl ?_
      rcases next with rfl | rfl
      · rw [ready]
        exact .scrub queue _ _
      · exact .ends _
  | cleanerRelease cleaner queue ready =>
      refine set_cleaner_moves cleaner other _ rfl ?_
      rw [ready]
      exact .scrub queue _ _
  | joined cleaner worker queue prefetchThreads ready ran dead =>
      refine set_cleaner_moves cleaner other _ rfl ?_
      rw [ready]
      exact .joined worker queue prefetchThreads ran dead
  | timedOut cleaner seen worker queue prefetchThreads ready ran remaining member complete =>
      refine set_cleaner_moves cleaner other _ rfl ?_
      rw [ready]
      exact .timedOut seen worker queue prefetchThreads ran complete
  | spawn cleaner slot cleanup ready idle =>
      by_cases same : other = cleaner
      · subst same
        simpa [State.setCleaner, ready] using CleanerMoves.spawn cleanup
      · by_cases watcher : other = slot
        · subst watcher
          simpa [State.setCleaner, same, idle] using CleanerMoves.watch cleanup cleaner ready
        · simpa [State.setCleaner, same, watcher] using CleanerMoves.same _
  | _ => exact .same _

/-- Only `initialize` publishes a queue, that of its own generation. -/
theorem moves_queue {state following : State} {action : Action}
    (moves : Moves state action following) {queue : Generation}
    (current : following.syncQueue = some queue) :
    state.syncQueue = some queue ∨
      state.initializer = some .queueing ∧ queue = state.healthGeneration := by
  cases moves with
  | queue ready => exact .inr ⟨ready, (Option.some.inj current).symm⟩
  | abandon error supervisor ready => cases current
  | clear cleaner worker queue ready current => cases current
  | _ => exact .inl current

/-- A started thread stays started. -/
theorem moves_started {state following : State} {action : Action}
    (moves : Moves state action following) {thread : Thread}
    (ran : state.started thread = true) : following.started thread = true := by
  cases moves with
  | starts ready kept => simp [Function.update_apply, ran]
  | prefetchStarts config quiet clear => simp [Function.update_apply, ran]
  | _ => exact ran

/-- A cleanup becomes pending when its `shutdown` retains the state. -/
theorem moves_pending {state following : State} {action : Action}
    (moves : Moves state action following) {cleanup : Cleanup}
    (pending : following.shutdownCleanupPending = some cleanup) :
    state.shutdownCleanupPending = some cleanup ∨
      ∃ cleaner, state.cleaners cleaner = .retaining cleanup := by
  cases moves with
  | retain cleaner retained ready => exact .inr ⟨cleaner, Option.some.inj pending ▸ ready⟩
  | handOver cleaner queue ready current => cases pending
  | clear cleaner worker queue ready current => cases pending
  | _ => exact .inl pending

theorem moves_target {state following : State} {action : Action} (ownership : Ownership state)
    (moves : Moves state action following) (cleaner : Nat) (queue : Generation)
    (held : (following.cleaners cleaner).target = some queue) : Owned following queue := by
  have owned := moves_owned ownership.shared moves
  have target := ownership.targets.target cleaner
  have moved := moves_cleaner moves cleaner
  generalize state.cleaners cleaner = before at moved target
  generalize following.cleaners cleaner = after at moved held
  cases moved with
  | same => exact owned queue (target queue held)
  | retry cleanup flag pending =>
      obtain rfl := Option.some.inj held
      exact owned _ (ownership.targets.pending cleanup pending).1
  | watch cleanup spawner ready =>
      obtain rfl := Option.some.inj held
      exact owned _ (ownership.targets.target spawner _ (by rw [ready]; rfl))
  | signal current published queued clear flag initializer kept worker generation alive =>
      obtain rfl := Option.some.inj held
      obtain ⟨_, _, _, _, _, _, _, _, _, _, _⟩ := ownership.shared
      constructor <;> grind
  | readWorker _ _ | joined _ _ _ _ _ | timedOut _ _ _ _ _ _ | retain _ | defer _ =>
      exact owned queue (target queue held)
  | exited point cleanup ready dead =>
      rcases ready with rfl | rfl <;> exact owned queue (target queue held)
  | close _ _ _ next _ => cases next <;> cases held
  | ends | spawn _ | clear _ _ _ _ _ _ _ _ | scrub _ _ _ => cases held

/-- A thread that was started for an owned queue is still there while the queue is. -/
theorem moves_ran {state following : State} {action : Action}
    (moves : Moves state action following) (queue : Generation) (owned : Owned state queue)
    (ran : state.syncQueue = some queue → state.started (.sync queue) = true)
    (current : following.syncQueue = some queue) : following.started (.sync queue) = true := by
  rcases moves_queue moves current with kept | ⟨queueing, rfl⟩
  · exact moves_started moves (ran kept)
  · exact absurd (owned.older queueing) (Nat.lt_irrefl _)

theorem moves_joining {state following : State} {action : Action} (ownership : Ownership state)
    (moves : Moves state action following) (cleaner : Nat) (worker : Option Generation)
    (queue : Generation) (prefetchThreads : List Thread)
    (held : following.cleaners cleaner = .joining worker queue prefetchThreads)
    (current : following.syncQueue = some queue) : worker = some queue := by
  have target := ownership.targets.target cleaner queue
  have joining := ownership.targets.joining cleaner worker queue prefetchThreads
  have moved := moves_cleaner moves cleaner
  rw [held] at moved
  have kept : (state.cleaners cleaner).target = some queue → state.syncQueue = some queue := by
    intro same
    rcases moves_queue moves current with kept | ⟨queueing, rfl⟩
    · exact kept
    · exact absurd ((target same).older queueing) (Nat.lt_irrefl _)
  generalize state.cleaners cleaner = before at moved target joining kept
  generalize next : CleanerPoint.joining worker queue prefetchThreads = after at moved
  cases moved with
  | same => exact joining next.symm (kept (by rw [← next]; rfl))
  | readWorker _ _ =>
      cases next
      exact (target rfl).worker (kept rfl)
  | close _ _ _ following _ => cases following <;> cases next
  | _ => cases next

theorem moves_joined {state following : State} {action : Action} (ownership : Ownership state)
    (moves : Moves state action following) (cleaner : Nat) (queue : Generation)
    (held : (following.cleaners cleaner).joinedTarget = some queue)
    (current : following.syncQueue = some queue) : following.started (.sync queue) = true := by
  have target := ownership.targets.target cleaner queue
  have joined := ownership.targets.joined cleaner queue
  have joining := ownership.targets.joining cleaner
  have moved := moves_cleaner moves cleaner
  generalize state.cleaners cleaner = before at moved target joining joined
  generalize following.cleaners cleaner = after at moved held
  cases moved with
  | same =>
      refine moves_ran moves queue (target ?_) (joined held) current
      cases before <;> first | exact held | cases held
  | retry cleanup flag pending =>
      obtain rfl := Option.some.inj held
      have ⟨owned, ran⟩ := ownership.targets.pending cleanup pending
      exact moves_ran moves _ owned ran current
  | watch cleanup spawner ready =>
      obtain rfl := Option.some.inj held
      exact moves_ran moves _ (ownership.targets.target spawner _ (by rw [ready]; rfl))
        (ownership.targets.joined spawner _ (by rw [ready]; rfl)) current
  | joined worker _ prefetchThreads ran dead | timedOut _ worker _ prefetchThreads ran complete =>
      obtain rfl := Option.some.inj held
      exact moves_ran moves _ (target rfl) (fun kept => ran _ (joining _ _ _ rfl kept)) current
  | retain _ | defer _ => exact moves_ran moves queue (target held) (joined held) current
  | exited point cleanup ready dead =>
      rcases ready with rfl | rfl <;>
        exact moves_ran moves queue (target held) (joined held) current
  | close _ _ _ next _ => cases next <;> cases held
  | ends | signal _ _ _ _ _ _ _ _ _ _ | readWorker _ _ | spawn _ | clear _ _ _ _ _ _ _ _ | scrub _ _ _ =>
      cases held

theorem moves_targets {state following : State} {action : Action} (ownership : Ownership state)
    (moves : Moves state action following) : Targets following where
  target := moves_target ownership moves
  joining := moves_joining ownership moves
  joined := moves_joined ownership moves
  pending := by
    intro cleanup pending
    have ⟨owned, ran⟩ : Owned state cleanup.queue ∧
        (state.syncQueue = some cleanup.queue → state.started (.sync cleanup.queue) = true) := by
      rcases moves_pending moves pending with kept | ⟨cleaner, ready⟩
      · exact ownership.targets.pending cleanup kept
      · exact ⟨ownership.targets.target cleaner _ (by rw [ready]; rfl),
          ownership.targets.joined cleaner _ (by rw [ready]; rfl)⟩
    exact ⟨moves_owned ownership.shared moves _ owned, moves_ran moves _ owned ran⟩

theorem moves_ownership {state following : State} {action : Action} (ownership : Ownership state)
    (moves : Moves state action following) : Ownership following where
  shared := moves_shared ownership moves
  targets := moves_targets ownership moves

theorem reachable_ownership {allowed : State → Action → Prop} {state : State}
    (reached : Reaches step allowed fresh state) : Ownership state :=
  reached.invariant Ownership fresh_ownership
    fun _ _ _ ownership _ taken => moves_ownership ownership (step_moves taken)

end HermesCashew.Lifecycle
