import HermesCashew.LifecycleOwnership

/-!
# Worker threads and the state they need

A live thread belongs to the generation whose queue stands, and whoever may clear
that generation waits for every live thread of it.
-/

namespace HermesCashew.Lifecycle

open HermesCashew.Transition

set_option autoImplicit false

def Thread.generation : Thread → Generation
  | .sync generation | .prefetch generation => generation

def Covers (state : State) (queue : Generation) (threads : List Thread) : Prop :=
  state.syncQueue = some queue → ∀ thread, thread.generation = queue →
    state.alive thread = true → thread ∈ threads

def CleanerPoint.watched : CleanerPoint → Option (Generation × List Thread)
  | .signalled queue prefetchThreads => some (queue, .sync queue :: prefetchThreads)
  | .joining worker queue prefetchThreads => some (queue, joined worker prefetchThreads)
  | .retaining cleanup | .scheduling cleanup | .spawning cleanup | .watching cleanup =>
      some (cleanup.queue, cleanup.workers)
  | .clearing _ queue => some (queue, [])
  | _ => none

structure Threads (state : State) : Prop where
  sync : ∀ generation, state.alive (.sync generation) = true →
    state.syncWorker = some generation ∧ state.started (.sync generation) = true
  prefetch : ∀ generation, state.alive (.prefetch generation) = true →
    state.syncQueue = some generation ∧ state.started (.sync generation) = true
  config : state.config ≠ none → state.syncQueue ≠ none
  listed : ∀ generation, state.alive (.prefetch generation) = true →
    state.shutdownStarted = false → generation ∈ state.prefetchThreads
  watched : ∀ cleaner queue threads,
    (state.cleaners cleaner).watched = some (queue, threads) → Covers state queue threads
  pending : ∀ cleanup, state.shutdownCleanupPending = some cleanup →
    Covers state cleanup.queue cleanup.workers

theorem fresh_threads : Threads fresh := by
  constructor <;> simp [fresh, CleanerPoint.watched]

theorem target_of_watched {point : CleanerPoint} {queue : Generation} {threads : List Thread}
    (watched : point.watched = some (queue, threads)) : point.target = some queue := by
  cases point <;> simp_all [CleanerPoint.watched, CleanerPoint.target]

/-- How a live thread came to be: it was alive, or `initialize` has started it at
its handoff, or `queue_prefetch` has. -/
inductive Living (state following : State) : Thread → Prop where
  | before (thread : Thread) (living : state.alive thread = true) :
      Living state following thread
  | handoff (ready : state.initializer = some .publishing)
      (worker : following.syncWorker = some state.healthGeneration)
      (ran : following.started (.sync state.healthGeneration) = true) :
      Living state following (.sync state.healthGeneration)
  | prefetch (quiet : state.initializer = none) (clear : state.shutdownStarted = false)
      (config : state.config ≠ none) (queue : following.syncQueue = state.syncQueue)
      (listed : state.healthGeneration ∈ following.prefetchThreads) :
      Living state following (.prefetch state.healthGeneration)

theorem moves_alive {state following : State} {action : Action}
    (moves : Moves state action following) {thread : Thread}
    (living : following.alive thread = true) : Living state following thread := by
  cases moves with
  | starts ready kept =>
      by_cases same : thread = .sync state.healthGeneration
      · subst same
        exact .handoff ready rfl (by simp)
      · exact .before _ (by simpa [Function.update_apply, same] using living)
  | prefetchStarts config quiet clear =>
      by_cases same : thread = .prefetch state.healthGeneration
      · subst same
        exact .prefetch quiet clear config rfl List.mem_cons_self
      · exact .before _ (by simpa [Function.update_apply, same] using living)
  | exit ended =>
      by_cases same : thread = ended
      · simp [same] at living
      · exact .before _ (by simpa [Function.update_apply, same] using living)
  | _ => exact .before _ living

theorem moves_covers {state following : State} {action : Action} (shared : Shared state)
    (moves : Moves state action following) (queue : Generation) (threads : List Thread)
    (owned : Owned state queue) (covers : Covers state queue threads) :
    Covers following queue threads := by
  intro current thread same living
  rcases moves_queue moves current with kept | ⟨queueing, rfl⟩
  · cases moves_alive moves living with
    | before _ old => exact covers kept thread same old
    | handoff ready _ _ =>
        have worker := owned.worker kept
        rw [shared.workerless (.inl (by rw [ready]; rfl))] at worker
        cases worker
    | prefetch _ clear _ _ _ =>
        rw [owned.flag kept] at clear
        cases clear
  · exact absurd (owned.older queueing) (Nat.lt_irrefl _)

theorem moves_watched {state following : State} {action : Action} (ownership : Ownership state)
    (threads : Threads state) (moves : Moves state action following) (cleaner : Nat)
    (queue : Generation) (listed : List Thread)
    (held : (following.cleaners cleaner).watched = some (queue, listed)) :
    Covers following queue listed := by
  have covers := moves_covers ownership.shared moves
  have target := ownership.targets.target cleaner queue
  have watched := threads.watched cleaner
  have joining := ownership.targets.joining cleaner
  have moved := moves_cleaner moves cleaner
  generalize state.cleaners cleaner = before at moved target joining watched
  generalize following.cleaners cleaner = after at moved held
  cases moved with
  | same => exact covers queue listed (target (target_of_watched held)) (watched queue listed held)
  | retry cleanup flag pending =>
      obtain ⟨rfl, rfl⟩ := Prod.mk.inj (Option.some.inj held)
      exact covers _ _ (ownership.targets.pending cleanup pending).1 (threads.pending cleanup pending)
  | watch cleanup spawner ready =>
      obtain ⟨rfl, rfl⟩ := Prod.mk.inj (Option.some.inj held)
      exact covers _ _ (ownership.targets.target spawner _ (by rw [ready]; rfl))
        (threads.watched spawner _ _ (by rw [ready]; rfl))
  | signal current published queued clear flag initializer kept worker generation alive =>
      obtain ⟨rfl, rfl⟩ := Prod.mk.inj (Option.some.inj held)
      intro _ thread same living
      rw [alive] at living
      cases thread with
      | sync other =>
          obtain rfl : other = current := same
          exact List.mem_cons_self
      | prefetch other =>
          obtain rfl : other = current := same
          exact List.mem_cons_of_mem _ (List.mem_map_of_mem (threads.listed _ living clear))
  | readWorker _ prefetchThreads =>
      obtain ⟨rfl, rfl⟩ := Prod.mk.inj (Option.some.inj held)
      refine covers _ _ (target rfl) fun current thread same living => ?_
      rw [joined, (target rfl).worker current]
      exact watched _ _ rfl current thread same living
  | joined worker _ prefetchThreads ran dead =>
      obtain ⟨rfl, rfl⟩ := Prod.mk.inj (Option.some.inj held)
      refine covers _ _ (target rfl) fun current thread same living => ?_
      have member := watched _ _ rfl current thread same living
      rw [dead thread member] at living
      cases living
  | timedOut _ worker _ prefetchThreads ran complete =>
      obtain ⟨rfl, rfl⟩ := Prod.mk.inj (Option.some.inj held)
      refine covers _ _ (target rfl) fun current thread same living => ?_
      exact complete thread (watched _ _ rfl current thread same living) living
  | retain _ | defer _ => exact covers queue listed (target (target_of_watched held)) (watched _ _ held)
  | exited point cleanup ready dead =>
      obtain ⟨rfl, rfl⟩ := Prod.mk.inj (Option.some.inj held)
      have waiting : Covers state cleanup.queue cleanup.workers := by
        rcases ready with rfl | rfl <;> exact watched _ _ rfl
      refine covers _ _ (target (by rcases ready with rfl | rfl <;> rfl))
        fun current thread same living => ?_
      have member := waiting current thread same living
      exact absurd living (by simpa using List.any_eq_false.mp dead thread member)
  | close _ _ _ next _ => cases next <;> cases held
  | ends | spawn _ | clear _ _ _ _ _ _ _ _ | scrub _ _ _ =>
      cases held

/-- The queue and the worker of a generation stay while one of its threads lives. -/
theorem moves_keeps_queue {state following : State} {action : Action}
    (ownership : Ownership state) (threads : Threads state)
    (moves : Moves state action following) {thread : Thread}
    (living : state.alive thread = true) (current : state.syncQueue = some thread.generation)
    (ran : state.started (.sync thread.generation) = true) :
    following.syncQueue = state.syncQueue ∧ following.syncWorker = state.syncWorker := by
  have latest : thread.generation = state.healthGeneration := by
    have queue := ownership.shared.queue
    simpa [current] using queue
  rw [latest] at ran
  have running : unstarted state.initializer = false := by
    by_contra waiting
    have idle := ownership.shared.unstarted (by simpa using waiting)
    rw [idle] at ran
    cases ran
  cases moves with
  | queue ready | startFails ready kept | starts ready kept | abandon error supervisor ready =>
      rw [ready] at running
      cases running
  | clear cleaner worker queue ready cleared =>
      have same : thread.generation = queue := Option.some.inj (current.symm.trans cleared)
      have member := threads.watched cleaner queue [] (by rw [ready]; rfl) cleared thread same living
      cases member
  | _ => exact ⟨rfl, rfl⟩

/-- A live thread belongs to the generation whose queue stands. -/
theorem Threads.current {state : State} (ownership : Ownership state) (threads : Threads state)
    {thread : Thread} (living : state.alive thread = true) :
    state.syncQueue = some thread.generation ∧
      state.started (.sync thread.generation) = true := by
  cases thread with
  | sync generation =>
      have ⟨worker, ran⟩ := threads.sync generation living
      have same := ownership.shared.worker
      rw [worker] at same
      exact ⟨(same.resolve_left (by simp)).symm, ran⟩
  | prefetch generation => exact threads.prefetch generation living

/-- The flag is cleared by `initialize`, or by a close that finds no queue. -/
theorem moves_flag {state following : State} {action : Action}
    (moves : Moves state action following) (clear : following.shutdownStarted = false) :
    state.shutdownStarted = false ∨ state.syncQueue = none ∨
      state.initializer = some .resuming := by
  cases moves with
  | resume ready => exact .inr (.inr ready)
  | withdraw call writes next ready closes | close call writes next ready closes
  | cleanerClose cleaner _ call writes next ready closes =>
      rcases closes.lowers with same | ⟨_, queue⟩
      · exact .inl (same ▸ clear)
      · exact .inr (.inl queue)
  | runCallback supervisor markStopped rest writes running finishes =>
      rcases finishes.lowers with same | ⟨_, queue⟩
      · exact .inl (same ▸ clear)
      · exact .inr (.inl queue)
  | abandon error supervisor ready => cases clear
  | cancel cleaner unannounced initializing unpublished => cases clear
  | signal cleaner queue idle unannounced published current _ => cases clear
  | _ => exact .inl clear

/-- A listed prefetch thread leaves the list under the flag or with the queue. -/
theorem moves_listed {state following : State} {action : Action}
    (moves : Moves state action following) {generation : Generation}
    (listed : generation ∈ state.prefetchThreads) :
    generation ∈ following.prefetchThreads ∨ state.shutdownStarted = true ∨
      following.syncQueue = none := by
  cases moves with
  | prefetchStarts config quiet clear => exact .inl (List.mem_cons_of_mem _ listed)
  | prefetchLeaves left flag => exact .inr (.inl flag)
  | clear cleaner worker queue ready current => exact .inr (.inr rfl)
  | _ => exact .inl listed

theorem moves_config {state following : State} {action : Action} (ownership : Ownership state)
    (threads : Threads state) (moves : Moves state action following)
    (config : following.config ≠ none) : following.syncQueue ≠ none := by
  cases moves with
  | queue ready => simp
  | load ready =>
      have queued := ownership.shared.queued (by rw [ready]; rfl) (by rw [ready]; simp)
      simp [queued]
  | abandon error supervisor ready => exact absurd rfl config
  | clear cleaner worker queue ready current => exact absurd rfl config
  | _ => exact threads.config config

theorem moves_threads {state following : State} {action : Action} (ownership : Ownership state)
    (threads : Threads state) (moves : Moves state action following) : Threads following := by
  have keeps {thread : Thread} (living : state.alive thread = true) :=
    moves_keeps_queue ownership threads moves living (threads.current ownership living).1
      (threads.current ownership living).2
  refine ⟨?_, ?_, ?_, ?_, moves_watched ownership threads moves, ?_⟩
  · intro generation living
    cases moves_alive moves living with
    | before _ old =>
        have ⟨worker, ran⟩ := threads.sync generation old
        exact ⟨(keeps old).2.trans worker, moves_started moves ran⟩
    | handoff ready worker ran => exact ⟨worker, ran⟩
  · intro generation living
    cases moves_alive moves living with
    | before _ old =>
        have ⟨queue, ran⟩ := threads.prefetch generation old
        exact ⟨(keeps old).1.trans queue, moves_started moves ran⟩
    | prefetch quiet clear config queue listed =>
        have current : state.syncQueue = some state.healthGeneration :=
          ownership.shared.queue.resolve_left (threads.config config)
        have settled := ownership.shared.settled _ (by rw [quiet]; rfl) current
        exact ⟨queue.trans current, moves_started moves settled.2⟩
  · exact moves_config ownership threads moves
  · intro generation living clear
    cases moves_alive moves living with
    | before _ old =>
        have ⟨current, ran⟩ := threads.prefetch generation old
        rcases moves_flag moves clear with flag | closed | resuming
        · rcases moves_listed moves (threads.listed generation old flag) with
            listed | set | gone
          · exact listed
          · rw [flag] at set
            cases set
          · rw [(keeps old).1, current] at gone
            cases gone
        · rw [current] at closed
          cases closed
        · have idle := ownership.shared.unstarted (by rw [resuming]; rfl)
          have latest := ownership.shared.queue
          simp_all
    | prefetch quiet _ config queue listed => exact listed
  · intro cleanup pending
    rcases moves_pending moves pending with kept | ⟨cleaner, ready⟩
    · exact moves_covers ownership.shared moves _ _ (ownership.targets.pending cleanup kept).1
        (threads.pending cleanup kept)
    · exact moves_covers ownership.shared moves _ _
        (ownership.targets.target cleaner _ (by rw [ready]; rfl))
        (threads.watched cleaner _ _ (by rw [ready]; rfl))

theorem reachable_threads {allowed : State → Action → Prop} {state : State}
    (reached : Reaches step allowed fresh state) : Threads state :=
  reached.invariant_with Ownership Threads (fun _ prior => reachable_ownership prior)
    fresh_threads
    fun _ _ _ ownership threads _ taken => moves_threads ownership threads (step_moves taken)

end HermesCashew.Lifecycle
