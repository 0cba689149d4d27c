import HermesCashew.PrefetchWorker

/-!
# One worker, one request

`_prefetch_worker` names the only thread that is in the loop, so at most one request
is active. The worker leaves the loop under the shutdown flag only, and no flag is
cleared while it lives; so a request in the slot always has a worker that is awake.
-/

namespace HermesCashew.PrefetchWorker

open HermesCashew.Lifecycle
open HermesCashew.Transition

set_option autoImplicit false

variable {Node : Type} {profiles : Generation → Profile} {text : Text} {nodeId : Node → String}
variable {world following : World Node}

/-! ## The worker threads -/

structure Threaded (world : World Node) : Prop where
  formed : WellFormed world.provider
  worker : ∀ generation, world.provider.prefetchWorker = some generation ↔
    world.workers generation ≠ .finished
  living : ∀ generation, world.workers generation ≠ .finished →
    world.provider.alive (.prefetch generation) = true ∧
      generation ∈ world.provider.prefetchThreads
  leaving : ∀ generation, world.workers generation = .leaving →
    world.provider.shutdownStarted = true
  waiting : ∀ generation, generation ∈ world.waiters ↔ world.workers generation = .waiting
  nodup : world.waiters.Nodup
  active : ∀ generation request, (world.workers generation).request = some request →
    world.activeIdentity = some request.identity

theorem empty_threaded : Threaded (emptyWorld Node) where
  formed := fresh_well_formed
  worker := by simp [emptyWorld, fresh]
  living := by simp [emptyWorld]
  leaving := by simp [emptyWorld]
  waiting := by simp [emptyWorld]
  nodup := List.nodup_nil
  active := by simp [emptyWorld, Point.request]

theorem Threaded.only (threaded : Threaded world) {first second : Generation}
    (one : world.workers first ≠ .finished) (two : world.workers second ≠ .finished) :
    first = second :=
  Option.some.inj (((threaded.worker first).mpr one).symm.trans ((threaded.worker second).mpr two))

theorem Threaded.dead (threaded : Threaded world) (dead : workerAlive world.provider = false) :
    world.provider.prefetchWorker = none ∧ (∀ generation, world.workers generation = .finished) ∧
      world.waiters = [] := by
  have idle : world.provider.prefetchWorker = none := by
    by_contra held
    obtain ⟨generation, held⟩ := Option.ne_none_iff_exists'.mp held
    have living := (threaded.living generation ((threaded.worker generation).mp held)).1
    simp [workerAlive, held, living] at dead
  have finished (generation : Generation) : world.workers generation = .finished := by
    by_contra unfinished
    have held := (threaded.worker generation).mpr unfinished
    rw [idle] at held
    cases held
  refine ⟨idle, finished, List.eq_nil_iff_forall_not_mem.mpr ?_⟩
  intro generation member
  have waits := (threaded.waiting generation).mp member
  rw [finished] at waits
  cases waits

/-- A notification turns waiting workers into looping ones. -/
theorem Threaded.woken (threaded : Threaded world)
    (provider : following.provider = world.provider)
    (active : following.activeIdentity = world.activeIdentity)
    (woken : ∀ generation, following.workers generation = world.workers generation ∨
      world.workers generation = .waiting ∧ following.workers generation = .looping)
    (waiting : ∀ generation, generation ∈ following.waiters ↔
      following.workers generation = .waiting)
    (nodup : following.waiters.Nodup) : Threaded following := by
  have finished (generation : Generation) : following.workers generation ≠ .finished ↔
      world.workers generation ≠ .finished := by
    rcases woken generation with same | ⟨before, after⟩
    · rw [same]
    · rw [before, after]
      exact ⟨nofun, nofun⟩
  refine ⟨?_, ?_, ?_, ?_, waiting, nodup, ?_⟩
  · rw [provider]
    exact threaded.formed
  · intro generation
    rw [provider, finished]
    exact threaded.worker generation
  · intro generation unfinished
    rw [provider]
    exact threaded.living generation ((finished generation).mp unfinished)
  · intro generation leaving
    rw [provider]
    rcases woken generation with same | ⟨_, after⟩
    · exact threaded.leaving generation (same ▸ leaving)
    · rw [after] at leaving
      cases leaving
  · intro generation request holds
    rw [active]
    rcases woken generation with same | ⟨_, after⟩
    · exact threaded.active generation request (same ▸ holds)
    · rw [after] at holds
      cases holds

theorem Threaded.notify (threaded : Threaded world) : Threaded world.notify := by
  unfold World.notify
  split
  · exact threaded
  · rename_i head rest waiters
    have member : head ∈ world.waiters := by rw [waiters]; exact List.mem_cons_self
    have nodup := threaded.nodup
    rw [waiters, List.nodup_cons] at nodup
    have waits := (threaded.waiting head).mp member
    refine threaded.woken rfl rfl ?_ ?_ nodup.2
    · intro generation
      by_cases same : generation = head
      · subst same
        exact .inr ⟨waits, by simp [World.setWorker]⟩
      · exact .inl (by simp [World.setWorker, same])
    · intro generation
      by_cases same : generation = head
      · subst same
        simp [World.setWorker, nodup.1]
      · have before := threaded.waiting generation
        rw [waiters, List.mem_cons, or_iff_right same] at before
        simpa [World.setWorker, same] using before

theorem Threaded.notify_all (threaded : Threaded world) : Threaded world.notifyAll := by
  refine threaded.woken rfl rfl ?_ ?_ List.nodup_nil
  · intro generation
    by_cases member : generation ∈ world.waiters
    · exact .inr ⟨(threaded.waiting generation).mp member, by simp [World.notifyAll, member]⟩
    · exact .inl (by simp [World.notifyAll, member])
  · intro generation
    by_cases member : generation ∈ world.waiters
    · simp [World.notifyAll, member]
    · have still := mt (threaded.waiting generation).mpr member
      simp [World.notifyAll, member, still]

/-- The worker goes from one point of its loop to the next. -/
theorem Threaded.sets (threaded : Threaded world) (generation : Generation) (point : Point Node)
    (provider : following.provider = world.provider)
    (workers : following.workers = Function.update world.workers generation point)
    (waiters : following.waiters = world.waiters)
    (before : (world.workers generation).awake = true) (finished : point ≠ .finished)
    (waiting : point ≠ .waiting)
    (flag : point = .leaving → world.provider.shutdownStarted = true)
    (active : ∀ request, point.request = some request →
      following.activeIdentity = some request.identity) : Threaded following := by
  have unfinished : world.workers generation ≠ .finished := by
    intro same
    rw [same] at before
    cases before
  have unwaiting : world.workers generation ≠ .waiting := by
    intro same
    rw [same] at before
    cases before
  have own : following.workers generation = point := by rw [workers, Function.update_self]
  have other {another : Generation} (different : another ≠ generation) :
      following.workers another = world.workers another := by
    rw [workers, Function.update_of_ne different]
  have idle {another : Generation} (different : another ≠ generation) :
      world.workers another = .finished := by
    by_contra busy
    exact different (threaded.only busy unfinished)
  refine ⟨by rw [provider]; exact threaded.formed, ?_, ?_, ?_, ?_, ?_, ?_⟩
  · intro another
    rw [provider, threaded.worker another]
    by_cases same : another = generation
    · subst same
      rw [own]
      exact ⟨fun _ => finished, fun _ => unfinished⟩
    · rw [other same]
  · intro another busy
    rw [provider]
    by_cases same : another = generation
    · subst same
      exact threaded.living another unfinished
    · exact threaded.living another (other same ▸ busy)
  · intro another leaving
    rw [provider]
    by_cases same : another = generation
    · subst same
      exact flag (own ▸ leaving)
    · exact threaded.leaving another (other same ▸ leaving)
  · intro another
    rw [waiters, threaded.waiting another]
    by_cases same : another = generation
    · subst same
      rw [own]
      exact ⟨fun waits => absurd waits unwaiting, fun waits => absurd waits waiting⟩
    · rw [other same]
  · rw [waiters]
    exact threaded.nodup
  · intro another request holds
    by_cases same : another = generation
    · subst same
      rw [own] at holds
      exact active request holds
    · rw [other same, idle same] at holds
      cases holds

/-- No flag is cleared while a thread lives. -/
theorem flag_kept {state after : State} {action : Lifecycle.Action} (formed : WellFormed state)
    (moves : Lifecycle.Moves state action after) {thread : Thread}
    (living : state.alive thread = true) (flag : state.shutdownStarted = true) :
    after.shutdownStarted = true := by
  have ⟨current, ran⟩ := formed.threads.current formed.ownership living
  by_contra cleared
  rcases moves_flag moves (by simpa using cleared) with clear | gone | resuming
  · rw [flag] at clear
    cases clear
  · rw [gone] at current
    cases current
  · have idle := formed.ownership.shared.unstarted (by rw [resuming]; rfl)
    have latest := formed.ownership.shared.queue.resolve_left (by rw [current]; exact nofun)
    rw [← Option.some.inj (current.symm.trans latest), ran] at idle
    cases idle

/-- A step of the lifecycle beside the prefetch threads. -/
theorem Threaded.beside (threaded : Threaded world)
    (runs : following.provider = world.provider ∨
      ∃ action, Lifecycle.Moves world.provider action following.provider)
    (beside : Beside world.provider following.provider)
    (workers : following.workers = world.workers) (waiters : following.waiters = world.waiters)
    (active : following.activeIdentity = world.activeIdentity) : Threaded following := by
  refine ⟨?_, ?_, ?_, ?_, ?_, ?_, ?_⟩
  · rcases runs with same | ⟨action, moves⟩
    · rw [same]
      exact threaded.formed
    · exact moves_well_formed threaded.formed moves
  · rw [beside.worker, workers]
    exact threaded.worker
  · intro generation unfinished
    rw [workers] at unfinished
    rw [beside.alive, beside.threads]
    exact threaded.living generation unfinished
  · intro generation leaving
    rw [workers] at leaving
    have flag := threaded.leaving generation leaving
    have living := (threaded.living generation (by rw [leaving]; exact nofun)).1
    rcases runs with same | ⟨action, moves⟩
    · rw [same]
      exact flag
    · exact flag_kept threaded.formed moves living flag
  · rw [workers, waiters]
    exact threaded.waiting
  · rw [waiters]
    exact threaded.nodup
  · rw [workers, active]
    exact threaded.active

/-- No worker is left. -/
theorem Threaded.idle (formed : WellFormed following.provider)
    (gone : following.provider.prefetchWorker = none)
    (finished : ∀ generation, following.workers generation = .finished)
    (waiters : following.waiters = []) : Threaded following := by
  refine ⟨formed, ?_, ?_, ?_, ?_, ?_, ?_⟩
  · intro generation
    rw [gone, finished]
    exact ⟨nofun, fun unfinished => absurd rfl unfinished⟩
  · exact fun generation unfinished => absurd (finished generation) unfinished
  · intro generation leaving
    rw [finished] at leaving
    cases leaving
  · intro generation
    rw [waiters, finished]
    exact ⟨nofun, nofun⟩
  · rw [waiters]
    exact List.nodup_nil
  · intro generation request holds
    rw [finished] at holds
    cases holds

theorem clears_idle (threaded : Threaded world) {cleaner : Nat} {worker : Option Generation}
    {queue : Generation} (ready : world.provider.cleaners cleaner = .clearing worker queue)
    (current : world.provider.syncQueue = some queue) :
    (∀ generation, world.workers generation = .finished) ∧ world.waiters = [] := by
  have finished (generation : Generation) : world.workers generation = .finished := by
    by_contra unfinished
    have living := (threaded.living generation unfinished).1
    have own := (threaded.formed.threads.prefetch generation living).1
    obtain rfl : generation = queue := Option.some.inj (own.symm.trans current)
    have member := threaded.formed.threads.watched cleaner generation []
      (by rw [ready]; rfl) current (.prefetch generation) rfl living
    cases member
  refine ⟨finished, List.eq_nil_iff_forall_not_mem.mpr ?_⟩
  intro generation member
  have waits := (threaded.waiting generation).mp member
  rw [finished] at waits
  cases waits

theorem awake_of_request {point : Point Node} (busy : point.request ≠ none) :
    point.awake = true := by
  cases point <;> first | rfl | exact absurd rfl busy

theorem queue_prefetch_starts {provider : State} (dead : workerAlive provider = false)
    (config : provider.config ≠ none) (path : provider.dbPath ≠ none)
    (quiet : provider.initializer = none) (clear : provider.shutdownStarted = false) :
    Lifecycle.queuePrefetch provider = { provider with
      prefetchWorker := some provider.healthGeneration
      prefetchThreads := provider.healthGeneration :: provider.prefetchThreads
      started := Function.update provider.started (.prefetch provider.healthGeneration) true
      alive := Function.update provider.alive (.prefetch provider.healthGeneration) true } := by
  unfold Lifecycle.queuePrefetch
  rw [if_neg]
  rintro (none | none | busy | flag | alive)
  · exact config none
  · exact path none
  · exact busy quiet
  · rw [clear] at flag
    cases flag
  · rw [workerAlive, alive] at dead
    cases dead

theorem start_threaded (threaded : Threaded world)
    (dead : workerAlive world.provider = false)
    (provider : following.provider = Lifecycle.queuePrefetch world.provider)
    (config : world.provider.config ≠ none) (path : world.provider.dbPath ≠ none)
    (quiet : world.provider.initializer = none) (clear : world.provider.shutdownStarted = false)
    (workers : following.workers =
      Function.update world.workers world.provider.healthGeneration .looping)
    (waiters : following.waiters = world.waiters) : Threaded following := by
  have ⟨gone, finished, empty⟩ := threaded.dead dead
  have started := queue_prefetch_starts dead config path quiet clear
  have own : following.workers world.provider.healthGeneration = .looping := by
    rw [workers, Function.update_self]
  have other {generation : Generation} (different : generation ≠ world.provider.healthGeneration) :
      following.workers generation = .finished := by
    rw [workers, Function.update_of_ne different, finished]
  refine ⟨?_, ?_, ?_, ?_, ?_, ?_, ?_⟩
  · have moves : Lifecycle.Moves world.provider .queuePrefetch
        (Lifecycle.queuePrefetch world.provider) := Lifecycle.step_moves rfl
    rw [provider]
    exact moves_well_formed threaded.formed moves
  · intro generation
    rw [provider, started]
    by_cases same : generation = world.provider.healthGeneration
    · subst same
      rw [own]
      exact ⟨fun _ => nofun, fun _ => rfl⟩
    · rw [other same]
      exact ⟨fun held => absurd (Option.some.inj held).symm same, fun busy => absurd rfl busy⟩
  · intro generation busy
    by_cases same : generation = world.provider.healthGeneration
    · subst same
      rw [provider, started]
      exact ⟨Function.update_self .., List.mem_cons_self⟩
    · exact absurd (other same) busy
  · intro generation leaving
    by_cases same : generation = world.provider.healthGeneration
    · rw [same, own] at leaving
      cases leaving
    · rw [other same] at leaving
      cases leaving
  · intro generation
    rw [waiters, empty]
    by_cases same : generation = world.provider.healthGeneration
    · rw [same, own]
      exact ⟨nofun, nofun⟩
    · rw [other same]
      exact ⟨nofun, nofun⟩
  · rw [waiters]
    exact threaded.nodup
  · intro generation request holds
    by_cases same : generation = world.provider.healthGeneration
    · rw [same, own] at holds
      cases holds
    · rw [other same] at holds
      cases holds

theorem wait_threaded (threaded : Threaded world) {generation : Generation}
    (ready : world.workers generation = .looping) :
    Threaded { world.setWorker generation .waiting with
      waiters := world.waiters ++ [generation] } := by
  have stranger : generation ∉ world.waiters := by
    intro member
    have waits := (threaded.waiting generation).mp member
    rw [ready] at waits
    cases waits
  have finished (another : Generation) :
      (world.setWorker generation .waiting).workers another ≠ .finished ↔
        world.workers another ≠ .finished := by
    by_cases same : another = generation
    · subst same
      rw [ready]
      simp [World.setWorker]
    · simp [World.setWorker, same]
  refine ⟨threaded.formed, ?_, ?_, ?_, ?_, ?_, ?_⟩
  · intro another
    rw [finished]
    exact threaded.worker another
  · exact fun another busy => threaded.living another ((finished another).mp busy)
  · intro another leaving
    by_cases same : another = generation
    · simp [World.setWorker, same] at leaving
    · exact threaded.leaving another (by simpa [World.setWorker, same] using leaving)
  · intro another
    rw [List.mem_append, List.mem_singleton]
    by_cases same : another = generation
    · simp [World.setWorker, same]
    · simpa [World.setWorker, same] using threaded.waiting another
  · exact threaded.nodup.append (List.nodup_singleton _)
      (by simpa [List.disjoint_singleton] using stranger)
  · intro another request holds
    by_cases same : another = generation
    · simp [World.setWorker, same, Point.request] at holds
    · exact threaded.active another request (by simpa [World.setWorker, same] using holds)

/-- The `finally` of the worker is the one of the lifecycle: the flag is still set. -/
theorem Threaded.leave (threaded : Threaded world) {generation : Generation}
    (ready : world.workers generation = .leaving) :
    Lifecycle.leavePrefetch world.provider generation =
      some (leave world.provider generation) := by
  have living := threaded.living generation (by rw [ready]; exact nofun)
  have flag := threaded.leaving generation ready
  unfold Lifecycle.leavePrefetch
  rw [if_pos ⟨living.1, living.2, flag⟩]
  rfl

theorem finalize_threaded (threaded : Threaded world) {generation : Generation}
    (ready : world.workers generation = .leaving) :
    Threaded { world.setWorker generation .finished with
      provider := PrefetchWorker.leave world.provider generation
      activeIdentity := none } := by
  have busy : world.workers generation ≠ .finished := by rw [ready]; exact nofun
  have held := (threaded.worker generation).mpr busy
  have finished (another : Generation) :
      (world.setWorker generation .finished).workers another = .finished := by
    by_cases same : another = generation
    · simp [World.setWorker, same]
    · by_contra other
      have unfinished : world.workers another ≠ .finished := by
        simpa [World.setWorker, same] using other
      exact same (threaded.only unfinished busy)
  have moves : Lifecycle.Moves world.provider (.leavePrefetch generation)
      (PrefetchWorker.leave world.provider generation) :=
    Lifecycle.step_moves (threaded.leave ready)
  refine .idle (moves_well_formed threaded.formed moves) ?_ finished ?_
  · simp [PrefetchWorker.leave, held]
  · apply List.eq_nil_iff_forall_not_mem.mpr
    intro another member
    have waits := (threaded.waiting another).mp member
    have same := threaded.only (by rw [waits]; exact nofun) busy
    rw [same, ready] at waits
    cases waits

theorem exit_threaded (threaded : Threaded world) {generation : Generation} {provider : State}
    (ready : world.workers generation = .finished)
    (taken : Lifecycle.exit world.provider (.prefetch generation) = some provider) :
    Threaded { world with provider := provider } := by
  have moves : Lifecycle.Moves world.provider (.exit (.prefetch generation)) provider :=
    Lifecycle.step_moves taken
  obtain ⟨_, same⟩ := Option.ite_none_right_eq_some.mp taken
  obtain rfl := Option.some.inj same
  refine ⟨moves_well_formed threaded.formed moves, threaded.worker, ?_, threaded.leaving,
    threaded.waiting, threaded.nodup, threaded.active⟩
  intro another busy
  have different : another ≠ generation := by
    rintro rfl
    exact busy ready
  simpa [different] using threaded.living another busy

theorem moves_threaded {action : Action Node} (threaded : Threaded world)
    (moves : Moves profiles text nodeId world action following) : Threaded following := by
  cases moves with
  | ignored => exact threaded
  | lifecycle action provider _ _ _ _ moves beside closed emptied dropped ended =>
      exact threaded.beside (.inr ⟨action, moves⟩) beside rfl rfl rfl
  | resets action provider _ _ runs beside emptied =>
      have before : Threaded { world with provider := provider } :=
        threaded.beside runs beside rfl rfl rfl
      exact Threaded.notify_all (before.beside (.inl rfl) ⟨rfl, rfl, fun _ => rfl⟩ rfl rfl rfl)
  | clears cleaner worker queue provider moves ready current gone alive =>
      have ⟨finished, waiters⟩ := clears_idle threaded ready current
      exact Threaded.notify_all
        (.idle (moves_well_formed threaded.formed moves) gone finished waiters)
  | epoch | drops | misses | hits =>
      exact threaded.beside (.inl rfl) ⟨rfl, rfl, fun _ => rfl⟩ rfl rfl rfl
  | wakes action request fresh alive =>
      exact Threaded.notify (threaded.beside (.inl rfl) ⟨rfl, rfl, fun _ => rfl⟩ rfl rfl rfl)
  | starts action request fresh dead =>
      exact Threaded.notify
        (start_threaded threaded dead rfl fresh.config fresh.path fresh.quiet fresh.clear rfl rfl)
  | fails action request fresh dead =>
      have ⟨gone, finished, waiters⟩ := threaded.dead dead
      have same : { world.provider with prefetchWorker := none } = world.provider := by
        rw [← gone]
      exact .idle (same.symm ▸ threaded.formed) rfl finished waiters
  | takes generation request cues found alive ready pending =>
      exact threaded.sets generation (.starting request) rfl rfl rfl (by rw [ready]; rfl)
        nofun nofun nofun fun _ held => by rw [← Option.some.inj held]
  | leaves generation cues found alive ready empty flag =>
      exact threaded.sets generation .leaving rfl rfl rfl (by rw [ready]; rfl) nofun nofun
        (fun _ => flag) nofun
  | waits generation cues found alive ready empty => exact wait_threaded threaded ready
  | proceeds generation point cues found alive busy awake same nodes =>
      refine threaded.sets generation point rfl rfl rfl (awake_of_request busy) ?_ ?_ ?_ ?_
      · rintro rfl
        cases awake
      · rintro rfl
        cases awake
      · rintro rfl
        cases awake
      · exact fun request holds => threaded.active generation request (same request holds)
  | gathers generation request cues cue remaining nodes found answer alive ready =>
      refine threaded.sets generation _ rfl rfl rfl (by rw [ready]; rfl) nofun nofun nofun ?_
      intro held holds
      exact threaded.active generation held (by rw [ready]; exact holds)
  | stages generation request cues nodes answer found alive ready =>
      exact threaded.sets generation .finishing rfl rfl rfl (by rw [ready]; rfl) nofun nofun
        nofun nofun
  | finishes generation cues found alive ready =>
      exact Threaded.notify_all (threaded.sets generation .looping rfl rfl rfl
        (by rw [ready]; rfl) nofun nofun nofun nofun)
  | finalizes generation cues found alive ready =>
      exact Threaded.notify_all (finalize_threaded threaded ready)
  | exits generation provider ready taken => exact exit_threaded threaded ready taken

/-! ## The request in the slot -/

def Attended (world : World Node) : Prop :=
  world.pendingRequest ≠ none → ∃ generation,
    world.provider.prefetchWorker = some generation ∧ (world.workers generation).awake = true

theorem Attended.kept (attended : Attended world)
    (pending : following.pendingRequest = world.pendingRequest ∨
      following.pendingRequest = none)
    (worker : following.provider.prefetchWorker = world.provider.prefetchWorker)
    (awake : ∀ generation, (world.workers generation).awake = true →
      (following.workers generation).awake = true) : Attended following := by
  intro requested
  rcases pending with same | none
  · obtain ⟨generation, held, up⟩ := attended (same ▸ requested)
    exact ⟨generation, worker.trans held, awake generation up⟩
  · exact absurd none requested

theorem worker_of_alive {provider : State} (alive : workerAlive provider = true) :
    ∃ generation, provider.prefetchWorker = some generation := by
  unfold workerAlive at alive
  cases held : provider.prefetchWorker with
  | none =>
      rw [held] at alive
      cases alive
  | some generation => exact ⟨generation, rfl⟩

@[simp]
theorem World.notify_provider : world.notify.provider = world.provider := by
  unfold World.notify
  split <;> rfl

theorem notify_awake (generation : Generation) (awake : (world.workers generation).awake = true) :
    (world.notify.workers generation).awake = true := by
  unfold World.notify
  split
  · exact awake
  · rename_i head rest waiters
    by_cases same : generation = head
    · simp [World.setWorker, same, Point.awake]
    · simpa [World.setWorker, same] using awake

/-- `notify` wakes the worker, since no other thread waits. -/
theorem notify_wakes (threaded : Threaded world) {generation : Generation}
    (busy : world.workers generation ≠ .finished)
    (clear : world.provider.shutdownStarted = false) :
    (world.notify.workers generation).awake = true := by
  by_cases waits : world.workers generation = .waiting
  · have member := (threaded.waiting generation).mpr waits
    unfold World.notify
    split
    · rename_i empty
      rw [empty] at member
      cases member
    · rename_i head rest waiters
      have heads := (threaded.waiting head).mp (by rw [waiters]; exact List.mem_cons_self)
      obtain rfl := threaded.only busy (by rw [heads]; exact nofun)
      simp [World.setWorker, Point.awake]
  · have stays : world.workers generation ≠ .leaving := by
      intro leaving
      rw [threaded.leaving generation leaving] at clear
      cases clear
    apply notify_awake
    cases point : world.workers generation with
    | waiting => exact absurd point waits
    | leaving => exact absurd point stays
    | finished => exact absurd point busy
    | _ => rfl

theorem set_awake {point : Point Node} {generation : Generation} (up : point.awake = true)
    (another : Generation) (awake : (world.workers another).awake = true) :
    ((world.setWorker generation point).workers another).awake = true := by
  by_cases same : another = generation
  · simpa [World.setWorker, same] using up
  · simpa [World.setWorker, same] using awake

theorem notify_all_awake (generation : Generation)
    (awake : (world.workers generation).awake = true) :
    (world.notifyAll.workers generation).awake = true := by
  unfold World.notifyAll
  dsimp only
  split
  · rfl
  · exact awake

theorem moves_attended {action : Action Node} (threaded : Threaded world)
    (attended : Attended world) (moves : Moves profiles text nodeId world action following) :
    Attended following := by
  cases moves with
  | ignored => exact attended
  | lifecycle action provider _ _ _ _ moves beside closed emptied dropped ended =>
      exact attended.kept (.inl rfl) beside.worker fun _ => id
  | resets | clears | fails => exact fun requested => absurd rfl requested
  | epoch | drops | misses | hits => exact attended.kept (.inl rfl) rfl fun _ => id
  | wakes action request fresh alive =>
      intro _
      have requested : Threaded (world.requested request) :=
        threaded.beside (.inl rfl) ⟨rfl, rfl, fun _ => rfl⟩ rfl rfl rfl
      obtain ⟨generation, held⟩ := worker_of_alive alive
      have busy := (threaded.worker generation).mp held
      refine ⟨generation, ?_, notify_wakes requested busy fresh.clear⟩
      rw [World.notify_provider]
      exact held
  | starts action request fresh dead =>
      intro _
      refine ⟨world.provider.healthGeneration, ?_, notify_awake _ (by simp [World.setWorker]; rfl)⟩
      rw [World.notify_provider, queue_prefetch_starts dead fresh.config fresh.path
        fresh.quiet fresh.clear]
  | takes generation request cues found alive ready pending =>
      exact fun requested => absurd rfl requested
  | leaves generation cues found alive ready empty flag
  | waits generation cues found alive ready empty =>
      exact fun requested => absurd empty requested
  | proceeds generation point cues found alive busy awake same nodes =>
      exact attended.kept (.inl rfl) rfl (set_awake awake)
  | gathers generation request cues cue remaining nodes found answer alive ready =>
      exact attended.kept (.inl rfl) rfl (set_awake rfl)
  | stages generation request cues nodes answer found alive ready =>
      exact attended.kept (.inl rfl) rfl (set_awake rfl)
  | finishes generation cues found alive ready =>
      exact attended.kept (.inl rfl) rfl fun another awake =>
        notify_all_awake another (set_awake rfl another awake)
  | finalizes generation cues found alive ready =>
      intro requested
      obtain ⟨another, held, awake⟩ := attended requested
      have same := threaded.only ((threaded.worker another).mp held)
        (by rw [ready]; exact nofun)
      rw [same, ready] at awake
      cases awake
  | exits generation provider ready taken =>
      obtain ⟨_, same⟩ := Option.ite_none_right_eq_some.mp taken
      obtain rfl := Option.some.inj same
      exact attended

end HermesCashew.PrefetchWorker
