import HermesCashew.LifecycleGenerations

/-!
# Which database a generation stands for

`_config` and `_db_path` belong to the generation whose queue stands, and both are
set once `initialize` is behind its resolution. So `_db_path` changes in three ways
only: `initialize` resolves it, a failing `initialize` gives it up, or the locked
block of `_clear_runtime_state` clears it.
-/

namespace HermesCashew.Lifecycle

open HermesCashew.Transition

set_option autoImplicit false

/-- `_db_path` was resolved, unless the queue is gone. -/
def resolved : Option InitializePoint → Bool
  | none | some .binding | some .starting | some (.identifying _) | some (.withdrawing _)
  | some .checking | some .publishing | some .announcing | some .published
  | some .finalizing => true
  | _ => false

/-- `_config` was loaded, unless the queue is gone. -/
def loaded (point : Option InitializePoint) : Bool :=
  resolved point || point == some .resolving

structure Located (state : State) : Prop where
  config : ∀ generation, state.config = some generation → state.syncQueue = some generation
  dbPath : ∀ generation, state.dbPath = some generation → state.syncQueue = some generation
  loaded : ∀ generation, loaded state.initializer = true →
    state.syncQueue = some generation → state.config = some generation
  resolved : ∀ generation, resolved state.initializer = true →
    state.syncQueue = some generation → state.dbPath = some generation

theorem fresh_located : Located fresh := by
  constructor <;> simp [fresh]

/-- A step that writes none of the three fields and does not pass a resolution. -/
theorem Located.kept {state following : State} (located : Located state)
    (queue : following.syncQueue = state.syncQueue) (config : following.config = state.config)
    (dbPath : following.dbPath = state.dbPath)
    (point : state.syncQueue = none ∨
      (Lifecycle.loaded following.initializer = true →
        Lifecycle.loaded state.initializer = true) ∧
      (Lifecycle.resolved following.initializer = true →
        Lifecycle.resolved state.initializer = true)) : Located following := by
  refine ⟨?_, ?_, ?_, ?_⟩ <;> intro generation <;> rw [queue]
  · rw [config]
    exact located.config generation
  · rw [dbPath]
    exact located.dbPath generation
  · intro known current
    rw [config]
    rcases point with gone | ⟨earlier, _⟩
    · rw [gone] at current
      cases current
    · exact located.loaded generation (earlier known) current
  · intro known current
    rw [dbPath]
    rcases point with gone | ⟨_, earlier⟩
    · rw [gone] at current
      cases current
    · exact located.resolved generation (earlier known) current

theorem moves_located {state following : State} {action : Action} (shared : Shared state)
    (located : Located state) (moves : Moves state action following) : Located following := by
  cases moves with
  | admitted quiet queue clear => exact located.kept rfl rfl rfl (.inl queue)
  | queue ready =>
      have gone := shared.queueing ready
      have config (generation : Generation) : state.config ≠ some generation := fun held => by
        rw [located.config generation held] at gone
        cases gone
      have dbPath (generation : Generation) : state.dbPath ≠ some generation := fun held => by
        rw [located.dbPath generation held] at gone
        cases gone
      exact ⟨fun _ held => absurd held (config _), fun _ held => absurd held (dbPath _), nofun, nofun⟩
  | load ready =>
      have queued := shared.queued (by rw [ready]; rfl) (by rw [ready]; simp)
      refine ⟨?_, located.dbPath, ?_, nofun⟩
      · intro generation held
        exact queued.trans held
      · intro generation _ current
        exact queued.symm.trans current
  | resolve ready =>
      have queued := shared.queued (by rw [ready]; rfl) (by rw [ready]; simp)
      refine ⟨located.config, ?_, ?_, ?_⟩
      · intro generation held
        exact queued.trans held
      · intro generation _ current
        exact located.loaded generation (by rw [ready]; rfl) current
      · intro generation _ current
        exact queued.symm.trans current
  | abandon error supervisor ready => exact ⟨nofun, nofun, nofun, nofun⟩
  | clear cleaner worker queue ready current => exact ⟨nofun, nofun, nofun, nofun⟩
  | withdraw call writes next ready closes =>
      refine located.kept rfl rfl rfl (.inr ?_)
      simp [ready, Lifecycle.loaded, Lifecycle.resolved]
  | close call writes next ready closes =>
      exact located.kept rfl rfl rfl (.inl (shared.tornDown (by rw [ready]; rfl)))
  | scrubTest point ready next =>
      exact located.kept rfl rfl rfl (.inl (shared.tornDown (by rw [ready]; rfl)))
  | scrubRelease ready | scrubReset ready =>
      exact located.kept rfl rfl rfl (.inl (shared.tornDown (by rw [ready]; rfl)))
  | resume ready | acquire ready | recordScrub ready | store ready
  | checkCancelled ready | check ready | leave ready | capture error ready | finalize ready
  | bindReadOnly ready | bindUnavailable ready | bindClaimed ready
  | identify readOnly identityReady ready | identifyFails ready
  | publishCancelled starts ready cancelled | startFails ready kept | starts ready kept
  | announceCancelled cron vectorUnavailable modelMissing ready closed
  | announce cron vectorUnavailable modelMissing ready queue clear
  | raiseStarting reason errorClass ready | raise reason errorClass ready =>
      refine located.kept rfl rfl rfl (.inr ?_)
      simp [ready, Lifecycle.loaded, Lifecycle.resolved]
  | _ => exact located.kept rfl rfl rfl (.inr ⟨id, id⟩)

/-- A provider whose entry guards may pass stands for one generation. -/
theorem Located.current {state : State} (located : Located state)
    (quiet : state.initializer = none) (config : state.config ≠ none) (shared : Shared state) :
    state.dbPath = some state.healthGeneration := by
  obtain ⟨generation, held⟩ := Option.ne_none_iff_exists'.mp config
  have queue := located.config generation held
  have latest := shared.queue.resolve_left (by rw [queue]; simp)
  exact located.resolved _ (by rw [quiet]; rfl) latest

/-- A live sync worker finds the database of its own generation. -/
theorem Located.worker {state : State} (located : Located state) (ownership : Ownership state)
    (threads : Threads state) {generation : Generation}
    (living : state.alive (.sync generation) = true) : state.dbPath = some generation := by
  have ⟨queue, _⟩ := threads.current ownership living
  have ⟨_, ran⟩ := threads.sync generation living
  have latest : generation = state.healthGeneration := by
    simpa [queue, Thread.generation] using ownership.shared.queue
  refine located.resolved generation ?_ queue
  have running : unstarted state.initializer = false := by
    by_contra waiting
    have idle := ownership.shared.unstarted (by simpa using waiting)
    rw [← latest, ran] at idle
    cases idle
  generalize state.initializer = point at running
  rcases point with _ | point
  · rfl
  · cases point <;> first | rfl | cases running

/-- The action is the locked block of `_clear_runtime_state`, and it applies. -/
def clears (state : State) : Action → Bool
  | .clean cleaner =>
      match state.cleaners cleaner with
      | .clearing _ queue => state.syncQueue == some queue
      | _ => false
  | _ => false

/-- The action is the statement of `initialize` that stores `_db_path`. -/
def resolves (state : State) : Action → Bool
  | .advance => state.initializer == some .resolving
  | _ => false

/-- What a step does to `_db_path`. -/
inductive PathMoves (state : State) (action : Action) (following : State) : Prop where
  | kept (same : following.dbPath = state.dbPath)
      (quiet : state.initializer = none → state.dbPath ≠ none → following.initializer = none)
  | gone (none : following.dbPath = none)
      (cleared : state.initializer = Option.none → clears state action = true)
  | stored (resolves : resolves state action = true) (pending : state.initializer ≠ none)
      (new : following.dbPath = some state.healthGeneration)

theorem moves_db_path {state following : State} {action : Action} (located : Located state)
    (moves : Moves state action following) : PathMoves state action following := by
  cases moves with
  | admitted quiet queue clear =>
      refine .kept rfl fun _ held => ?_
      obtain ⟨generation, held⟩ := Option.ne_none_iff_exists'.mp held
      rw [located.dbPath generation held] at queue
      cases queue
  | resolve ready => exact .stored (by simp [resolves, ready]) (by simp [ready]) rfl
  | abandon error supervisor ready => exact .gone rfl (fun quiet => by simp [ready] at quiet)
  | clear cleaner worker queue ready current =>
      exact .gone rfl (fun _ => by simp [clears, ready, current])
  | finalize ready => exact .kept rfl (fun _ _ => rfl)
  | queue ready | resume ready | acquire ready | recordScrub ready | load ready | store ready
  | checkCancelled ready | check ready | leave ready | capture error ready
  | bindReadOnly ready | bindUnavailable ready | bindClaimed ready
  | identify readOnly identityReady ready | identifyFails ready
  | publishCancelled starts ready cancelled | startFails ready kept | starts ready kept
  | announceCancelled cron vectorUnavailable modelMissing ready closed
  | announce cron vectorUnavailable modelMissing ready queue clear
  | raiseStarting reason errorClass ready
  | withdraw call writes next ready closes | close call writes next ready closes
  | scrubTest point ready next | scrubRelease ready | scrubReset ready =>
      exact .kept rfl (fun quiet => by simp [ready] at quiet)
  | raise reason errorClass ready =>
      exact .kept rfl (fun quiet => by simp [quiet, inBody] at ready)
  | _ => exact .kept rfl (fun quiet _ => quiet)

end HermesCashew.Lifecycle
