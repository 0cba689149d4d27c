import HermesCashew.LifecycleThreads

/-!
# Supervisors and the gate

`_embedding_supervisor` is reset only after the owner was released, and while it
is set or a close is outstanding the flag keeps the next `initialize` out.
-/

namespace HermesCashew.Lifecycle

open HermesCashew.Transition

set_option autoImplicit false

/-- `initialize` has not stored a supervisor yet. -/
def unbound : Option InitializePoint → Bool
  | some .queueing | some .resuming | some .acquiring | some .acquired | some .loading
  | some .resolving | some .binding | some .starting => true
  | _ => false

/-- `generation` is later than every generation that has a supervisor of its own. -/
def Later (state : State) (generation : Generation) : Prop :=
  state.healthGeneration < generation ∨
    generation = state.healthGeneration ∧ unbound state.initializer = true

def CloseCall.Concerns (state : State) (generation : Generation) : CloseCall → Prop
  | .enter supervisor _ => supervisor = none ∨ supervisor = some generation
  | .callNow supervisor _ =>
      supervisor = generation ∧ (state.supervisors generation).ownerReleased = true
  | .close supervisor => supervisor = generation

/-- The life of one supervisor: owner, then releasing, then released. -/
structure Released (state : State) : Prop where
  owner : ∀ generation, state.owner = some generation →
    (state.supervisors generation).ownerReleased = false ∧
      (state.supervisors generation).releasing = false
  releasing : ∀ generation, (state.supervisors generation).releasing = true →
    (state.supervisors generation).ownerReleased = false
  running : ∀ generation, (state.supervisors generation).ownerReleased = false →
    (state.supervisors generation).runningCallbacks = []
  callbacks : ∀ generation, (state.supervisors generation).ownerReleased = true →
    (state.supervisors generation).closeCallbacks = []

theorem fresh_released : Released fresh := by
  constructor <;> simp [fresh]

attribute [local grind =] inBody giving unstarted tornDown settled unbound Function.update_apply
  State.setCleaner State.setHealth State.setSupervisor State.write State.writes

theorem Released.unchanged {state following : State} (released : Released state)
    (owner : following.owner = state.owner)
    (supervisors : ∀ generation,
      (following.supervisors generation).releasing = (state.supervisors generation).releasing ∧
      (following.supervisors generation).ownerReleased =
        (state.supervisors generation).ownerReleased ∧
      (following.supervisors generation).runningCallbacks =
        (state.supervisors generation).runningCallbacks ∧
      ((following.supervisors generation).closeCallbacks =
        (state.supervisors generation).closeCallbacks ∨
        (state.supervisors generation).ownerReleased = false)) : Released following := by
  obtain ⟨_, _, _, _⟩ := released
  constructor <;> grind

theorem Finishes.supervisors {state : State} {supervisor : Option Generation}
    {markStopped : Bool} {writes : CloseWrites}
    (finishes : Finishes state supervisor markStopped writes) :
    writes.supervisors = state.supervisors := by
  cases finishes <;> rfl

theorem Closes.released {state : State} {call : CloseCall} {writes : CloseWrites}
    {next : Option CloseCall} (closes : Closes state call writes next)
    (generation : Generation) :
    (writes.supervisors generation).releasing = (state.supervisors generation).releasing ∧
      (writes.supervisors generation).ownerReleased =
        (state.supervisors generation).ownerReleased ∧
      (writes.supervisors generation).runningCallbacks =
        (state.supervisors generation).runningCallbacks ∧
      ((writes.supervisors generation).closeCallbacks =
        (state.supervisors generation).closeCallbacks ∨
        (state.supervisors generation).ownerReleased = false) := by
  cases closes with
  | finish markStopped writes finishes => simp [finishes.supervisors]
  | finishNow supervisor markStopped writes finishes => simp [finishes.supervisors]
  | callNow supervisor markStopped released => simp [State.writes]
  | register supervisor markStopped held => grind
  | close supervisor => grind

theorem moves_released {state following : State} {action : Action} (released : Released state)
    (moves : Moves state action following)
    (fresh : state.initializer = some .binding →
      state.supervisors state.healthGeneration = {}) : Released following := by
  have ⟨owner, releasing, running, callbacks⟩ := released
  cases moves with
  | withdraw call writes next ready closes | close call writes next ready closes
  | cleanerClose cleaner _ call writes next ready closes =>
      exact released.unchanged rfl closes.released
  | bindClaimed ready unowned =>
      have untouched := fresh ready
      constructor <;> grind
  | raiseStarting reason errorClass ready =>
      refine released.unchanged rfl fun generation => ?_
      dsimp only [State.setSupervisor]
      grind
  | dropOwner supervisor owned closed | takeCallbacks supervisor owned =>
      constructor <;> dsimp only [State.setSupervisor] <;> grind
  | runCallback supervisor markStopped rest writes ran finishes =>
      have same : writes.supervisors = _ := finishes.supervisors
      dsimp only [State.setSupervisor] at same
      constructor <;> dsimp only [State.write] <;> rw [same] <;> grind
  | _ => exact released.unchanged rfl fun _ => ⟨rfl, rfl, rfl, .inl rfl⟩

structure Attached (state : State) : Prop where
  untouched : ∀ generation, Later state generation →
    state.supervisors generation = {} ∧ state.stored generation = false
  unowned : ∀ generation, Later state generation → state.owner = some generation →
    state.initializer = some .starting
  starting : state.initializer = some .starting → state.owner = some state.healthGeneration
  detached : unbound state.initializer = true → state.embeddingSupervisor = none
  attached : ∀ generation, state.embeddingSupervisor = some generation →
    generation = state.healthGeneration ∧ state.stored generation = true ∧
      (state.owner = some generation ∨ (state.supervisors generation).releasing = true ∨
        (state.supervisors generation).ownerReleased = true)
  gate : state.embeddingSupervisor ≠ none → state.syncQueue = none →
    state.shutdownStarted = true
  stored : ∀ generation, state.stored generation = true → state.owner = some generation →
    state.embeddingSupervisor = some generation
  withdrawing : ∀ call, state.initializer = some (.withdrawing call) →
    call.Concerns state state.healthGeneration ∧
      (∀ markStopped, call = .enter none markStopped → state.embeddingSupervisor = none)
  captured : ∀ error supervisor, state.initializer = some (.captured error supervisor) →
    supervisor = none ∧ state.embeddingSupervisor = none ∨
      supervisor = some state.healthGeneration
  closing : ∀ call, state.initializer = some (.closing call) →
    call.Concerns state state.healthGeneration ∧
      (∀ markStopped, call = .enter none markStopped →
        state.embeddingSupervisor = none ∧ state.shutdownStarted = true)
  cleaner : ∀ cleaner queue call, state.cleaners cleaner = .closing queue call →
    call.Concerns state queue ∧ queue ≤ state.healthGeneration ∧
      state.started (.sync queue) = true
  cleanerNone : ∀ cleaner queue markStopped,
    state.cleaners cleaner = .closing queue (.enter none markStopped) →
    state.embeddingSupervisor = none ∧ state.syncQueue = none ∧
      state.shutdownStarted = true ∧ settled state.initializer = true ∧
      queue = state.healthGeneration
  cleanerOnce : ∀ first second firstQueue secondQueue firstMark secondMark,
    state.cleaners first = .closing firstQueue (.enter none firstMark) →
    state.cleaners second = .closing secondQueue (.enter none secondMark) → first = second

theorem fresh_attached : Attached fresh := by
  constructor <;> simp [fresh, unbound]

theorem Finishes.embedding {state : State} {supervisor : Generation} {markStopped : Bool}
    {writes : CloseWrites} (finishes : Finishes state (some supervisor) markStopped writes) :
    writes.embeddingSupervisor = state.embeddingSupervisor ∨
      writes.embeddingSupervisor = none ∧ state.embeddingSupervisor = some supervisor := by
  cases finishes with
  | stale closing same other => exact .inl rfl
  | kept same queue => exact .inr ⟨rfl, same.resolve_left (by simp)⟩
  | released same queue => exact .inr ⟨rfl, same.resolve_left (by simp)⟩

/-- A close resets the field only for a supervisor that was released. -/
theorem Closes.embedding {state : State} {call : CloseCall} {writes : CloseWrites}
    {next : Option CloseCall} {generation : Generation} (closes : Closes state call writes next)
    (concerns : call.Concerns state generation)
    (bare : ∀ markStopped, call = .enter none markStopped → state.embeddingSupervisor = none) :
    writes.embeddingSupervisor = state.embeddingSupervisor ∨
      writes.embeddingSupervisor = none ∧ ∃ generation,
        state.embeddingSupervisor = some generation ∧
          (state.supervisors generation).ownerReleased = true := by
  cases closes with
  | finish markStopped writes finishes =>
      have none := bare markStopped rfl
      cases finishes with
      | stale closing same other => cases same
      | kept same queue => exact .inl none.symm
      | released same queue => exact .inl none.symm
  | finishNow supervisor markStopped writes finishes =>
      obtain ⟨rfl, released⟩ := concerns
      rcases finishes.embedding with same | ⟨reset, same⟩
      · exact .inl same
      · exact .inr ⟨reset, supervisor, same, released⟩
  | callNow supervisor markStopped released => exact .inl rfl
  | register supervisor markStopped held => exact .inl rfl
  | close supervisor => exact .inl rfl

/-- `initialize` stores the supervisor that `_bind_upstream_embedding` returned. -/
structure Stores (state following : State) : Prop where
  before : state.initializer = some .starting
  after : following.initializer = some (.identifying false)
  supervisor : following.embeddingSupervisor = some state.healthGeneration
  generation : following.healthGeneration = state.healthGeneration
  stored : following.stored state.healthGeneration = true
  owner : following.owner = state.owner
  queue : following.syncQueue = state.syncQueue

/-- `_embedding_supervisor` is written by `initialize`, or reset after its owner
was released. -/
theorem moves_embedding {state following : State} {action : Action} (attached : Attached state)
    (released : Released state) (moves : Moves state action following) :
    following.embeddingSupervisor = state.embeddingSupervisor ∨
      Stores state following ∨
      following.embeddingSupervisor = none ∧ ∃ generation,
        state.embeddingSupervisor = some generation ∧
          (state.supervisors generation).ownerReleased = true := by
  cases moves with
  | store ready => exact .inr (.inl ⟨ready, rfl, rfl, rfl, by simp, rfl, rfl⟩)
  | bindUnavailable ready =>
      have none := attached.detached (by rw [ready]; rfl)
      exact .inl none.symm
  | withdraw call writes next ready closes =>
      have ⟨concerns, bare⟩ := attached.withdrawing call ready
      exact (closes.embedding concerns bare).imp_right .inr
  | close call writes next ready closes =>
      have ⟨concerns, bare⟩ := attached.closing call ready
      exact (closes.embedding concerns fun mark same => (bare mark same).1).imp_right .inr
  | cleanerClose cleaner queue call writes next ready closes =>
      have ⟨concerns, _⟩ := attached.cleaner cleaner queue call ready
      refine (closes.embedding concerns fun mark same => ?_).imp_right .inr
      exact (attached.cleanerNone cleaner queue mark (same ▸ ready)).1
  | runCallback supervisor markStopped rest writes running finishes =>
      have released : (state.supervisors supervisor).ownerReleased = true := by
        by_contra held
        have idle := released.running supervisor (by simpa using held)
        rw [running] at idle
        cases idle
      rcases finishes.embedding with same | ⟨reset, same⟩
      · exact .inl same
      · exact .inr (.inr ⟨reset, supervisor, same, released⟩)
  | _ => exact .inl rfl

/-- Who clears the flag: `initialize`, the close of the stored supervisor once it
is released, or a close that found no supervisor. -/
inductive Clears (state following : State) : Prop where
  | resume (ready : state.initializer = some .resuming)
  | stored (generation : Generation) (same : state.embeddingSupervisor = some generation)
      (queue : state.syncQueue = none) (reset : following.embeddingSupervisor = none)
  | handler (markStopped : Bool)
      (ready : state.initializer = some (.closing (.enter none markStopped)))
      (done : following.initializer = some (.scrubbing .test))
  | cleaner (cleaner : Nat) (queue : Generation) (markStopped : Bool)
      (ready : state.cleaners cleaner = .closing queue (.enter none markStopped))
      (done : following.cleaners cleaner = .scrubbing queue .test)

theorem Finishes.clears {state : State} {supervisor : Generation} {markStopped : Bool}
    {writes : CloseWrites} (finishes : Finishes state (some supervisor) markStopped writes)
    (flag : state.shutdownStarted = true) (clear : writes.shutdownStarted = false) :
    state.embeddingSupervisor = some supervisor ∧ state.syncQueue = none ∧
      writes.embeddingSupervisor = none := by
  cases finishes with
  | stale closing same other => exact absurd (flag.symm.trans clear) (by simp)
  | kept same queue => exact absurd (flag.symm.trans clear) (by simp)
  | released same queue => exact ⟨same.resolve_left (by simp), queue, rfl⟩

theorem Closes.clears {state : State} {call : CloseCall} {writes : CloseWrites}
    {next : Option CloseCall} (closes : Closes state call writes next)
    (flag : state.shutdownStarted = true) (clear : writes.shutdownStarted = false) :
    (∃ markStopped, call = .enter none markStopped ∧ next = none ∧ state.syncQueue = none) ∨
      ∃ supervisor, state.embeddingSupervisor = some supervisor ∧ state.syncQueue = none ∧
        writes.embeddingSupervisor = none := by
  cases closes with
  | finish markStopped writes finishes =>
      cases finishes with
      | stale closing same other => cases same
      | kept same queue => exact absurd (flag.symm.trans clear) (by simp)
      | released same queue => exact .inl ⟨markStopped, rfl, rfl, queue⟩
  | finishNow supervisor markStopped writes finishes =>
      exact .inr ⟨supervisor, finishes.clears flag clear⟩
  | callNow supervisor markStopped released => exact absurd (flag.symm.trans clear) (by simp)
  | register supervisor markStopped held => exact absurd (flag.symm.trans clear) (by simp)
  | close supervisor => exact absurd (flag.symm.trans clear) (by simp)

theorem moves_clears {state following : State} {action : Action} (shared : Shared state)
    (moves : Moves state action following) (flag : state.shutdownStarted = true)
    (clear : following.shutdownStarted = false) : Clears state following := by
  cases moves with
  | resume ready => exact .resume ready
  | withdraw call writes next ready closes =>
      have queued := shared.queued (by rw [ready]; rfl) (by rw [ready]; simp)
      rcases closes.clears flag clear with ⟨_, _, _, queue⟩ | ⟨_, _, queue, _⟩ <;>
        rw [queue] at queued <;> cases queued
  | close call writes next ready closes =>
      rcases closes.clears flag clear with ⟨mark, rfl, rfl, _⟩ | ⟨supervisor, same, queue, reset⟩
      · exact .handler mark ready rfl
      · exact .stored supervisor same queue reset
  | cleanerClose cleaner queue call writes next ready closes =>
      rcases closes.clears flag clear with ⟨mark, rfl, rfl, _⟩ | ⟨supervisor, same, queue, reset⟩
      · exact .cleaner cleaner queue mark ready (by simp [State.setCleaner])
      · exact .stored supervisor same queue reset
  | runCallback supervisor markStopped rest writes running finishes =>
      have ⟨same, queue, reset⟩ := finishes.clears flag clear
      exact .stored supervisor same queue reset
  | abandon error supervisor ready => cases clear
  | cancel cleaner unannounced initializing unpublished => cases clear
  | signal cleaner queue idle unannounced published current _ => cases clear
  | admitted quiet queue opened => exact absurd (flag.symm.trans opened) (by simp)
  | _ => exact absurd (flag.symm.trans clear) (by simp)

theorem Closes.others {state : State} {call : CloseCall} {writes : CloseWrites}
    {next : Option CloseCall} {generation other : Generation}
    (closes : Closes state call writes next) (concerns : call.Concerns state generation)
    (different : other ≠ generation) :
    writes.supervisors other = state.supervisors other := by
  cases closes with
  | finish markStopped writes finishes => rw [finishes.supervisors]
  | finishNow supervisor markStopped writes finishes => rw [finishes.supervisors]
  | callNow supervisor markStopped released => rfl
  | register supervisor markStopped held =>
      obtain rfl : supervisor = generation := by simpa [CloseCall.Concerns] using concerns
      exact Function.update_of_ne different _ _
  | close supervisor =>
      obtain rfl : supervisor = generation := concerns
      exact Function.update_of_ne different _ _

theorem unstarted_of_unbound {point : Option InitializePoint}
    (early : unbound point = true) : unstarted point = true := by
  rcases point with _ | point
  · cases early
  · cases point <;> first | rfl | cases early

theorem moves_later {state following : State} {action : Action}
    (moves : Moves state action following) {generation : Generation}
    (later : Later following generation) : Later state generation := by
  unfold Later at later ⊢
  cases moves with
  | withdraw call writes next ready closes | close call writes next ready closes =>
      cases next <;> dsimp only [State.write, Option.elim_none, Option.elim_some] at later <;>
        grind
  | abandon error supervisor ready =>
      dsimp only [Lifecycle.abandon] at later
      grind
  | scrubTest point ready next => rcases next with rfl | rfl <;> grind
  | _ => grind

/-- No thread closes a supervisor that was not created. -/
theorem Attached.concerned {state : State} (ownership : Ownership state)
    (attached : Attached state) {cleaner : Nat} {queue : Generation} {call : CloseCall}
    (ready : state.cleaners cleaner = .closing queue call) {generation : Generation}
    (later : Later state generation) : generation ≠ queue := by
  have ⟨_, known, ran⟩ := attached.cleaner cleaner queue call ready
  rintro rfl
  rcases later with later | ⟨rfl, early⟩
  · exact absurd known (Nat.not_le_of_lt later)
  · have waiting := ownership.shared.unstarted (unstarted_of_unbound early)
    rw [waiting] at ran
    cases ran

theorem moves_untouched {state following : State} {action : Action} (ownership : Ownership state)
    (attached : Attached state) (moves : Moves state action following)
    (generation : Generation) (later : Later following generation) :
    following.supervisors generation = {} ∧ following.stored generation = false := by
  have before := moves_later moves later
  have ⟨record, stored⟩ := attached.untouched generation before
  unfold Later at later before
  cases moves with
  | withdraw call writes next ready closes =>
      have ⟨concerns, _⟩ := attached.withdrawing call ready
      have different : generation ≠ state.healthGeneration := by grind
      exact ⟨(closes.others concerns different).trans record, stored⟩
  | close call writes next ready closes =>
      have ⟨concerns, _⟩ := attached.closing call ready
      have different : generation ≠ state.healthGeneration := by grind
      exact ⟨(closes.others concerns different).trans record, stored⟩
  | cleanerClose cleaner queue call writes next ready closes =>
      have ⟨concerns, _⟩ := attached.cleaner cleaner queue call ready
      have different := attached.concerned ownership ready before
      exact ⟨(closes.others concerns different).trans record, stored⟩
  | runCallback supervisor markStopped rest writes running finishes =>
      have different : generation ≠ supervisor := by
        rintro rfl
        rw [record] at running
        cases running
      refine ⟨?_, stored⟩
      dsimp only [State.write]
      rw [finishes.supervisors]
      simpa [State.setSupervisor, different] using record
  | dropOwner supervisor owned closed =>
      have different : generation ≠ supervisor := by
        rintro rfl
        rw [record] at closed
        cases closed
      exact ⟨by simpa [State.setSupervisor, different] using record, stored⟩
  | takeCallbacks supervisor releasing =>
      have different : generation ≠ supervisor := by
        rintro rfl
        rw [record] at releasing
        cases releasing
      exact ⟨by simpa [State.setSupervisor, different] using record, stored⟩
  | raiseStarting reason errorClass ready =>
      have different : generation ≠ state.healthGeneration := by grind
      exact ⟨by simpa [State.setSupervisor, different] using record, stored⟩
  | store ready =>
      have different : generation ≠ state.healthGeneration := by grind
      exact ⟨record, by simpa [Function.update_apply, different] using stored⟩
  | _ => exact ⟨record, stored⟩

theorem moves_unowned {state following : State} {action : Action} (attached : Attached state)
    (moves : Moves state action following) (generation : Generation)
    (later : Later following generation) (owner : following.owner = some generation) :
    following.initializer = some .starting := by
  have before := moves_later moves later
  have unowned := attached.unowned generation before
  have starting := attached.starting
  unfold Later at later before
  cases moves with
  | bindClaimed ready free => rfl
  | withdraw call writes next ready closes | close call writes next ready closes =>
      exact absurd (unowned owner) (by rw [ready]; simp)
  | abandon error supervisor ready => exact absurd (unowned owner) (by rw [ready]; simp)
  | _ => grind

theorem moves_starting {state following : State} {action : Action} (attached : Attached state)
    (moves : Moves state action following)
    (ready : following.initializer = some .starting) :
    following.owner = some following.healthGeneration := by
  have starting := attached.starting
  cases moves with
  | bindClaimed point free => rfl
  | dropOwner supervisor owned closed =>
      have same : supervisor = state.healthGeneration :=
        Option.some.inj (owned.symm.trans (starting ready))
      have ⟨record, _⟩ := attached.untouched supervisor (.inr ⟨same, by
        simp only [State.setSupervisor] at ready
        rw [ready]; rfl⟩)
      rw [record] at closed
      cases closed
  | withdraw call writes next point closes | close call writes next point closes =>
      cases next <;> cases ready
  | scrubTest point _ next => rcases next with rfl | rfl <;> cases ready
  | _ => first | exact starting ready | cases ready

/-- An admitted `initialize` begins a generation, with nothing left of the last. -/
structure Begins (state following : State) : Prop where
  quiet : state.initializer = none
  queue : state.syncQueue = none
  clear : state.shutdownStarted = false
  generation : following.healthGeneration = state.healthGeneration + 1
  initializer : following.initializer = some .queueing
  supervisor : following.embeddingSupervisor = state.embeddingSupervisor

theorem moves_generation {state following : State} {action : Action}
    (moves : Moves state action following) :
    following.healthGeneration = state.healthGeneration ∨ Begins state following := by
  cases moves with
  | admitted quiet queue clear => exact .inr ⟨quiet, queue, clear, rfl, rfl, rfl⟩
  | _ => exact .inl rfl

theorem Attached.none_of_begins {state following : State} (attached : Attached state)
    (begins : Begins state following) : state.embeddingSupervisor = none := by
  by_contra some
  have flag := attached.gate some begins.queue
  rw [begins.clear] at flag
  cases flag

theorem moves_detached {state following : State} {action : Action} (attached : Attached state)
    (released : Released state) (moves : Moves state action following)
    (early : unbound following.initializer = true) : following.embeddingSupervisor = none := by
  have before : state.embeddingSupervisor = none := by
    rcases moves_generation moves with same | begins
    · rcases moves_later moves (.inr ⟨rfl, early⟩) with later | ⟨_, unbound⟩
      · exact absurd same.symm (Nat.ne_of_lt later)
      · exact attached.detached unbound
    · exact attached.none_of_begins begins
  rcases moves_embedding attached released moves with same | stores | ⟨reset, _⟩
  · exact same.trans before
  · rw [stores.after] at early
    cases early
  · exact reset

/-- A claimed supervisor goes from owner to releasing to released. -/
theorem moves_claimed {state following : State} {action : Action}
    (moves : Moves state action following) (generation : Generation)
    (claimed : state.owner = some generation ∨
      (state.supervisors generation).releasing = true ∨
      (state.supervisors generation).ownerReleased = true) :
    following.owner = some generation ∨ (following.supervisors generation).releasing = true ∨
      (following.supervisors generation).ownerReleased = true := by
  cases moves with
  | withdraw call writes next ready closes | close call writes next ready closes
  | cleanerClose cleaner _ call writes next ready closes =>
      have ⟨releasing, released, _⟩ := closes.released generation
      dsimp only [State.write, State.setCleaner]
      rwa [releasing, released]
  | runCallback supervisor markStopped rest writes running finishes =>
      dsimp only [State.write]
      rw [finishes.supervisors]
      dsimp only [State.setSupervisor]
      grind
  | raiseStarting reason errorClass ready | dropOwner supervisor owned closed
  | takeCallbacks supervisor releasing =>
      dsimp only [State.setSupervisor]
      grind
  | bindClaimed ready unowned => grind
  | _ => exact claimed

theorem moves_stored {state following : State} {action : Action}
    (moves : Moves state action following) {generation : Generation}
    (stored : state.stored generation = true) : following.stored generation = true := by
  cases moves with
  | store ready => simp [Function.update_apply, stored]
  | _ => exact stored

theorem moves_attached_field {state following : State} {action : Action}
    (attached : Attached state) (released : Released state)
    (moves : Moves state action following) (generation : Generation)
    (current : following.embeddingSupervisor = some generation) :
    generation = following.healthGeneration ∧ following.stored generation = true ∧
      (following.owner = some generation ∨
        (following.supervisors generation).releasing = true ∨
        (following.supervisors generation).ownerReleased = true) := by
  rcases moves_embedding attached released moves with same | stores | ⟨reset, _⟩
  · rw [same] at current
    have ⟨latest, stored, claimed⟩ := attached.attached generation current
    refine ⟨?_, moves_stored moves stored, moves_claimed moves generation claimed⟩
    rcases moves_generation moves with kept | begins
    · exact latest.trans kept.symm
    · rw [attached.none_of_begins begins] at current
      cases current
  · obtain rfl := Option.some.inj (stores.supervisor.symm.trans current)
    exact ⟨stores.generation.symm, stores.stored,
      .inl (stores.owner.trans (attached.starting stores.before))⟩
  · rw [reset] at current
    cases current

/-- The queue is taken away under the flag. -/
theorem moves_drops_queue {state following : State} {action : Action}
    (ownership : Ownership state) (moves : Moves state action following)
    (current : state.syncQueue ≠ none) (gone : following.syncQueue = none) :
    following.shutdownStarted = true := by
  cases moves with
  | abandon error supervisor ready => rfl
  | clear cleaner worker queue ready same =>
      exact (ownership.targets.target cleaner queue (by rw [ready]; rfl)).flag same
  | admitted quiet queue clear => exact absurd queue current
  | queue ready => cases gone
  | _ => exact absurd gone current

/-- While a supervisor is stored, only its own close can clear the flag. -/
theorem Attached.clears {state following : State} (attached : Attached state)
    (clears : Clears state following)
    (current : state.embeddingSupervisor ≠ none) : following.embeddingSupervisor = none := by
  cases clears with
  | resume ready => exact absurd (attached.detached (by rw [ready]; rfl)) current
  | stored generation same queue reset => exact reset
  | handler markStopped ready done =>
      exact absurd ((attached.closing _ ready).2 markStopped rfl).1 current
  | cleaner cleaner queue markStopped ready done =>
      exact absurd (attached.cleanerNone cleaner queue markStopped ready).1 current

theorem moves_gate {state following : State} {action : Action} (ownership : Ownership state)
    (attached : Attached state) (released : Released state)
    (moves : Moves state action following) (current : following.embeddingSupervisor ≠ none)
    (gone : following.syncQueue = none) : following.shutdownStarted = true := by
  rcases moves_embedding attached released moves with same | stores | ⟨reset, _⟩
  · rw [same] at current
    by_cases queue : state.syncQueue = none
    · by_contra clear
      have flag := attached.gate current queue
      have clears := moves_clears ownership.shared moves flag (by simpa using clear)
      exact current (same ▸ attached.clears clears current)
    · exact moves_drops_queue ownership moves queue gone
  · have queued := ownership.shared.queued (by rw [stores.before]; rfl)
      (by rw [stores.before]; simp)
    rw [stores.queue, queued] at gone
    cases gone
  · exact absurd reset current

theorem moves_owner {state following : State} {action : Action}
    (moves : Moves state action following) {generation : Generation}
    (owner : following.owner = some generation) :
    state.owner = some generation ∨ state.initializer = some .binding ∧
      generation = state.healthGeneration ∧ following.stored = state.stored := by
  cases moves with
  | bindClaimed ready unowned => exact .inr ⟨ready, (Option.some.inj owner).symm, rfl⟩
  | dropOwner supervisor owned closed => cases owner
  | _ => exact .inl owner

theorem moves_stores {state following : State} {action : Action}
    (moves : Moves state action following) {generation : Generation}
    (stored : following.stored generation = true) :
    state.stored generation = true ∨
      Stores state following ∧ generation = state.healthGeneration := by
  cases moves with
  | store ready =>
      by_cases same : generation = state.healthGeneration
      · exact .inr ⟨⟨ready, rfl, rfl, rfl, by simp, rfl, rfl⟩, same⟩
      · exact .inl (by simpa [Function.update_apply, same] using stored)
  | _ => exact .inl stored

theorem moves_stored_owner {state following : State} {action : Action}
    (attached : Attached state) (released : Released state)
    (moves : Moves state action following) (generation : Generation)
    (stored : following.stored generation = true) (owner : following.owner = some generation) :
    following.embeddingSupervisor = some generation := by
  rcases moves_owner moves owner with old | ⟨ready, rfl, same⟩
  · rcases moves_stores moves stored with before | ⟨stores, rfl⟩
    · have current := attached.stored generation before old
      rcases moves_embedding attached released moves with same | stores | ⟨_, other, same, gone⟩
      · exact same.trans current
      · rw [attached.detached (by rw [stores.before]; rfl)] at current
        cases current
      · obtain rfl := Option.some.inj (current.symm.trans same)
        rw [(released.owner generation old).1] at gone
        cases gone
    · exact stores.supervisor
  · have ⟨_, fresh⟩ := attached.untouched state.healthGeneration (.inr ⟨rfl, by rw [ready]; rfl⟩)
    rw [same, fresh] at stored
    cases stored

/-- The release of a supervisor is final. -/
theorem moves_owner_released {state following : State} {action : Action}
    (moves : Moves state action following) {generation : Generation}
    (released : (state.supervisors generation).ownerReleased = true) :
    (following.supervisors generation).ownerReleased = true := by
  cases moves with
  | withdraw call writes next ready closes | close call writes next ready closes
  | cleanerClose cleaner _ call writes next ready closes =>
      exact (closes.released generation).2.1.trans released
  | runCallback supervisor markStopped rest writes running finishes =>
      dsimp only [State.write]
      rw [finishes.supervisors]
      dsimp only [State.setSupervisor]
      grind
  | raiseStarting reason errorClass ready | dropOwner supervisor owned closed
  | takeCallbacks supervisor releasing =>
      dsimp only [State.setSupervisor]
      grind
  | _ => exact released

theorem moves_concerns {state following : State} {action : Action}
    (moves : Moves state action following) {generation : Generation} {call : CloseCall}
    (concerns : call.Concerns state generation) : call.Concerns following generation := by
  cases call with
  | enter supervisor markStopped => exact concerns
  | callNow supervisor markStopped => exact concerns.imp_right (moves_owner_released moves)
  | close supervisor => exact concerns

/-- The close call that follows another one is past its registration. -/
theorem Closes.next {state : State} {call following : CloseCall} {writes : CloseWrites}
    {generation : Generation} (closes : Closes state call writes (some following))
    (concerns : call.Concerns state generation) :
    following.Concerns state generation ∧
      ∀ supervisor markStopped, following ≠ .enter supervisor markStopped := by
  cases closes with
  | callNow supervisor markStopped released =>
      obtain rfl : supervisor = generation := by simpa [CloseCall.Concerns] using concerns
      exact ⟨⟨rfl, released⟩, by simp⟩
  | register supervisor markStopped held =>
      obtain rfl : supervisor = generation := by simpa [CloseCall.Concerns] using concerns
      exact ⟨rfl, by simp⟩
  | finishNow supervisor markStopped writes finishes => exact ⟨concerns.1, by simp⟩

/-- `initialize` holds a supervisor in a local variable. -/
def holding : Option InitializePoint → Bool
  | some (.withdrawing _) | some (.captured _ _) | some (.closing _) => true
  | _ => false

/-- What a step does to an `initialize` that holds a supervisor. -/
inductive InitializerMoves (state following : State) :
    Option InitializePoint → Option InitializePoint → Prop where
  | same (point : Option InitializePoint)
      (generation : following.healthGeneration = state.healthGeneration)
      (flag : state.shutdownStarted = true → following.shutdownStarted = false →
        Clears state following) :
      InitializerMoves state following point point
  | other (before after : Option InitializePoint) (plain : holding after = false) :
      InitializerMoves state following before after
  | withdraw (generation : following.healthGeneration = state.healthGeneration)
      (kept : following.embeddingSupervisor = state.embeddingSupervisor) :
      InitializerMoves state following (some (.identifying false))
        (some (.withdrawing (.enter state.embeddingSupervisor false)))
  | withdrawNext (call next : CloseCall) (writes : CloseWrites)
      (generation : following.healthGeneration = state.healthGeneration)
      (closes : Closes state call writes (some next)) :
      InitializerMoves state following (some (.withdrawing call)) (some (.withdrawing next))
  | capture (error : Raised) (generation : following.healthGeneration = state.healthGeneration)
      (kept : following.embeddingSupervisor = state.embeddingSupervisor) :
      InitializerMoves state following (some (.raised error))
        (some (.captured error state.embeddingSupervisor))
  | abandon (error : Raised) (supervisor : Option Generation)
      (generation : following.healthGeneration = state.healthGeneration)
      (kept : following.embeddingSupervisor = state.embeddingSupervisor)
      (flag : following.shutdownStarted = true) :
      InitializerMoves state following (some (.captured error supervisor))
        (some (.closing (.enter supervisor false)))
  | closeNext (call next : CloseCall) (writes : CloseWrites)
      (generation : following.healthGeneration = state.healthGeneration)
      (closes : Closes state call writes (some next)) :
      InitializerMoves state following (some (.closing call)) (some (.closing next))

theorem moves_initializer {state following : State} {action : Action} (shared : Shared state)
    (moves : Moves state action following) :
    InitializerMoves state following state.initializer following.initializer := by
  have clears := moves_clears shared moves
  cases moves with
  | identifyFails ready =>
      rw [ready]
      exact .withdraw rfl rfl
  | withdraw call writes next ready closes =>
      rw [ready]
      cases next with
      | none => exact .other _ _ rfl
      | some next => exact .withdrawNext call next writes rfl closes
  | capture error ready =>
      rw [ready]
      exact .capture error rfl rfl
  | abandon error supervisor ready =>
      rw [ready]
      exact .abandon error supervisor rfl rfl rfl
  | close call writes next ready closes =>
      rw [ready]
      cases next with
      | none => exact .other _ _ rfl
      | some next => exact .closeNext call next writes rfl closes
  | scrubTest point ready next => rcases next with rfl | rfl <;> exact .other _ _ rfl
  | _ => first | exact .other _ _ rfl | exact .same _ rfl clears

/-- An empty `_embedding_supervisor` stays empty, except through `initialize`. -/
theorem moves_detached_field {state following : State} {action : Action}
    (attached : Attached state) (released : Released state)
    (moves : Moves state action following) (empty : state.embeddingSupervisor = none)
    (past : state.initializer ≠ some .starting) : following.embeddingSupervisor = none := by
  rcases moves_embedding attached released moves with kept | stores | ⟨reset, _⟩
  · exact kept.trans empty
  · exact absurd stores.before past
  · exact reset

/-- The stored supervisor is that of the current generation. -/
theorem Attached.concerns {state : State} (attached : Attached state) (markStopped : Bool) :
    (CloseCall.enter state.embeddingSupervisor markStopped).Concerns state
      state.healthGeneration := by
  rcases current : state.embeddingSupervisor with _ | generation
  · exact .inl rfl
  · exact .inr (congrArg some (attached.attached generation current).1)

theorem moves_withdrawing {state following : State} {action : Action} (shared : Shared state)
    (attached : Attached state) (released : Released state)
    (moves : Moves state action following) (call : CloseCall)
    (ready : following.initializer = some (.withdrawing call)) :
    call.Concerns following following.healthGeneration ∧
      ∀ markStopped, call = .enter none markStopped →
        following.embeddingSupervisor = none := by
  have withdrawing := attached.withdrawing
  have empty := moves_detached_field attached released moves
  have moved := moves_initializer shared moves
  generalize state.initializer = before at moved withdrawing empty
  rw [ready] at moved
  cases moved with
  | same _ generation flag =>
      have ⟨concerns, bare⟩ := withdrawing call rfl
      rw [generation]
      exact ⟨moves_concerns moves concerns, fun mark same => empty (bare mark same) (by simp)⟩
  | other _ _ plain => cases plain
  | withdraw generation kept =>
      rw [generation]
      refine ⟨moves_concerns moves (attached.concerns false), fun mark same => ?_⟩
      exact kept.trans (CloseCall.enter.inj same).1
  | withdrawNext previous _ writes generation closes =>
      have ⟨next, past⟩ := closes.next (withdrawing previous rfl).1
      rw [generation]
      exact ⟨moves_concerns moves next, fun mark same => absurd same (past _ mark)⟩

theorem moves_captured {state following : State} {action : Action} (shared : Shared state)
    (attached : Attached state) (released : Released state)
    (moves : Moves state action following) (error : Raised) (supervisor : Option Generation)
    (ready : following.initializer = some (.captured error supervisor)) :
    supervisor = none ∧ following.embeddingSupervisor = none ∨
      supervisor = some following.healthGeneration := by
  have captured := attached.captured error supervisor
  have empty := moves_detached_field attached released moves
  have moved := moves_initializer shared moves
  generalize state.initializer = before at moved captured empty
  rw [ready] at moved
  cases moved with
  | same _ generation flag =>
      rw [generation]
      exact (captured rfl).imp_left fun none => ⟨none.1, empty none.2 (by simp)⟩
  | other _ _ plain => cases plain
  | capture _ generation kept =>
      rw [generation]
      exact (attached.concerns false).imp_left fun none => ⟨none, kept.trans none⟩

/-- A close that found no supervisor keeps the gate shut until it is done. -/
theorem moves_closing {state following : State} {action : Action} (shared : Shared state)
    (attached : Attached state) (released : Released state)
    (moves : Moves state action following) (call : CloseCall)
    (ready : following.initializer = some (.closing call)) :
    call.Concerns following following.healthGeneration ∧
      ∀ markStopped, call = .enter none markStopped →
        following.embeddingSupervisor = none ∧ following.shutdownStarted = true := by
  have closing := attached.closing
  have captured := attached.captured
  have empty := moves_detached_field attached released moves
  have settled := fun cleaner queue mark same =>
    (attached.cleanerNone cleaner queue mark same).2.2.2.1
  have moved := moves_initializer shared moves
  generalize point : state.initializer = before at moved closing captured empty
  rw [ready] at moved
  cases moved with
  | same _ generation flag =>
      have ⟨concerns, bare⟩ := closing call rfl
      rw [generation]
      refine ⟨moves_concerns moves concerns, fun mark same => ?_⟩
      have ⟨nothing, set⟩ := bare mark same
      refine ⟨empty nothing (by simp), ?_⟩
      by_contra clear
      cases flag set (by simpa using clear) with
      | resume at_clear =>
          rw [point] at at_clear
          cases at_clear
      | stored other current queue reset =>
          rw [nothing] at current
          cases current
      | handler other at_close done =>
          rw [ready] at done
          cases done
      | cleaner cleaner queue other at_close done =>
          have late := settled cleaner queue other at_close
          rw [point] at late
          cases late
  | other _ _ plain => cases plain
  | abandon error supervisor generation kept flag =>
      rw [generation]
      have held := captured error supervisor rfl
      refine ⟨moves_concerns moves (held.imp_left And.left), fun mark same => ⟨?_, flag⟩⟩
      obtain rfl := (CloseCall.enter.inj same).1
      rcases held with ⟨_, none⟩ | some
      · exact kept.trans none
      · cases some
  | closeNext previous _ writes generation closes =>
      have ⟨next, past⟩ := closes.next (closing previous rfl).1
      rw [generation]
      exact ⟨moves_concerns moves next, fun mark same => absurd same (past _ mark)⟩

theorem moves_cleaner_call {state following : State} {action : Action}
    (ownership : Ownership state) (attached : Attached state)
    (moves : Moves state action following) (cleaner : Nat) (queue : Generation)
    (call : CloseCall) (ready : following.cleaners cleaner = .closing queue call) :
    call.Concerns following queue ∧ queue ≤ following.healthGeneration ∧
      following.started (.sync queue) = true := by
  have known : state.healthGeneration ≤ following.healthGeneration := by
    rcases moves_generation moves with same | begins
    · exact Nat.le_of_eq same.symm
    · rw [begins.generation]
      exact Nat.le_succ _
  have calls := attached.cleaner cleaner
  have joined := ownership.targets.joined cleaner
  have moved := moves_cleaner moves cleaner
  generalize state.cleaners cleaner = before at moved calls joined
  generalize next : following.cleaners cleaner = after at moved
  rw [ready] at next
  cases moved with
  | same =>
      have ⟨concerns, older, ran⟩ := calls queue call next.symm
      exact ⟨moves_concerns moves concerns, Nat.le_trans older known, moves_started moves ran⟩
  | clear worker _ current cleared kept flag initializer generation =>
      cases next
      have latest : queue = state.healthGeneration := by
        simpa [current] using ownership.shared.queue
      refine ⟨moves_concerns moves (latest ▸ attached.concerns true), latest ▸ known,
        moves_started moves (joined queue rfl current)⟩
  | close _ previous writes following closes =>
      cases following with
      | none => cases next
      | some following =>
          cases next
          have ⟨concerns, older, ran⟩ := calls queue previous rfl
          exact ⟨moves_concerns moves (closes.next concerns).1, Nat.le_trans older known,
            moves_started moves ran⟩
  | _ => cases next

theorem moves_settled {state following : State} {action : Action}
    (moves : Moves state action following) (late : settled state.initializer = true) :
    settled following.initializer = true ∨ state.shutdownStarted = false := by
  cases moves with
  | admitted quiet queue clear => exact .inr clear
  | leave ready | finalize ready => exact .inl rfl
  | raise reason errorClass ready =>
      rw [(in_body_classes ready).2.2] at late
      cases late
  | scrubTest point ready next | withdraw call writes next ready closes
  | close call writes next ready closes =>
      rw [ready] at late
      cases late
  | _ => first | exact .inl late | simp_all [settled]

/-- When a generation is cleared, its `initialize` has nothing left to do. -/
theorem Ownership.settled_of_target {state : State} (ownership : Ownership state)
    (cleaner : Nat) (queue : Generation)
    (target : (state.cleaners cleaner).target = some queue)
    (joined : (state.cleaners cleaner).joinedTarget = some queue)
    (current : state.syncQueue = some queue) :
    settled state.initializer = true ∧ state.shutdownStarted = true := by
  have flag := (ownership.targets.target cleaner queue target).flag current
  have ran := ownership.targets.joined cleaner queue joined current
  have latest : queue = state.healthGeneration := by
    simpa [current] using ownership.shared.queue
  have waiting := ownership.shared.unstarted
  have announcing := ownership.shared.announcing
  refine ⟨?_, flag⟩
  subst latest
  rcases shape : state.initializer with _ | stage
  · rfl
  · cases stage <;> simp_all [settled, unstarted]

theorem moves_clear_once {state following : State} {action : Action}
    (moves : Moves state action following) {first second : Nat}
    {firstWorker secondWorker : Option Generation} {firstQueue secondQueue : Generation}
    (firstBefore : state.cleaners first = .clearing firstWorker firstQueue)
    (secondBefore : state.cleaners second = .clearing secondWorker secondQueue)
    (firstAfter : following.cleaners first ≠ .clearing firstWorker firstQueue)
    (secondAfter : following.cleaners second ≠ .clearing secondWorker secondQueue) :
    first = second := by
  cases moves with
  | _ =>
    first
    | exact absurd firstBefore firstAfter
    | (dsimp only [State.setCleaner, State.setHealth] at firstAfter secondAfter; grind)

theorem moves_cleaner_none {state following : State} {action : Action}
    (ownership : Ownership state) (attached : Attached state) (released : Released state)
    (moves : Moves state action following) (cleaner : Nat) (queue : Generation)
    (markStopped : Bool)
    (ready : following.cleaners cleaner = .closing queue (.enter none markStopped)) :
    following.embeddingSupervisor = none ∧ following.syncQueue = none ∧
      following.shutdownStarted = true ∧ settled following.initializer = true ∧
      queue = following.healthGeneration := by
  have waiting := attached.cleanerNone cleaner queue markStopped
  have once := fun other otherQueue otherMark same =>
    attached.cleanerOnce cleaner other queue otherQueue markStopped otherMark same
  have calls := attached.cleaner cleaner
  have target := ownership.settled_of_target cleaner
  have moved := moves_cleaner moves cleaner
  generalize state.cleaners cleaner = before at moved waiting once calls target
  generalize next : following.cleaners cleaner = after at moved
  rw [ready] at next
  cases moved with
  | same =>
      have ⟨empty, gone, flag, late, latest⟩ := waiting next.symm
      have past : state.initializer ≠ some .starting := by
        intro starting
        rw [starting] at late
        cases late
      have kept : following.syncQueue = none := by
        by_contra some
        obtain ⟨current, same⟩ := Option.ne_none_iff_exists'.mp some
        rcases moves_queue moves same with old | ⟨queueing, _⟩
        · rw [gone] at old
          cases old
        · rw [queueing] at late
          cases late
      have stays : following.shutdownStarted = true := by
        by_contra clear
        cases moves_clears ownership.shared moves flag (by simpa using clear) with
        | resume at_clear =>
            rw [at_clear] at late
            cases late
        | stored other current _ reset =>
            rw [empty] at current
            cases current
        | handler other at_close done =>
            rw [at_close] at late
            cases late
        | cleaner other otherQueue otherMark at_close done =>
            obtain rfl := once other otherQueue otherMark next.symm at_close
            rw [ready] at done
            cases done
      refine ⟨moves_detached_field attached released moves empty past, kept, stays, ?_, ?_⟩
      · refine (moves_settled moves late).resolve_right fun clear => ?_
        rw [flag] at clear
        cases clear
      · rcases moves_generation moves with same | begins
        · exact latest.trans same.symm
        · have clear := begins.clear
          rw [flag] at clear
          cases clear
  | clear worker _ current cleared kept flag initializer generation =>
      have empty := (CloseCall.enter.inj (CleanerPoint.closing.inj next).2).1
      have ⟨late, set⟩ := target _ rfl rfl current
      have latest : queue = state.healthGeneration := by
        obtain rfl := (CleanerPoint.closing.inj next).1
        simpa [current] using ownership.shared.queue
      exact ⟨kept.trans empty.symm, cleared, flag.trans set, by rw [initializer]; exact late,
        latest.trans generation.symm⟩
  | close _ previous writes following closes =>
      cases following with
      | none => cases next
      | some following =>
          have same := (CleanerPoint.closing.inj next).2
          have ⟨concerns, _⟩ := calls _ previous rfl
          exact absurd same.symm ((closes.next concerns).2 none markStopped)
  | _ => cases next

theorem moves_none_origin {state following : State} {action : Action}
    (attached : Attached state) (moves : Moves state action following) {cleaner : Nat}
    {queue : Generation} {markStopped : Bool}
    (ready : following.cleaners cleaner = .closing queue (.enter none markStopped)) :
    state.cleaners cleaner = .closing queue (.enter none markStopped) ∨
      state.syncQueue ≠ none ∧ ∃ worker, state.cleaners cleaner = .clearing worker queue := by
  have calls := attached.cleaner cleaner
  have moved := moves_cleaner moves cleaner
  generalize state.cleaners cleaner = before at moved calls
  generalize next : following.cleaners cleaner = after at moved
  rw [ready] at next
  cases moved with
  | same => exact .inl next.symm
  | clear worker _ current cleared kept flag initializer generation =>
      obtain rfl := (CleanerPoint.closing.inj next).1
      exact .inr ⟨by simp [current], worker, rfl⟩
  | close _ previous writes following closes =>
      cases following with
      | none => cases next
      | some following =>
          have same := (CleanerPoint.closing.inj next).2
          have ⟨concerns, _⟩ := calls _ previous rfl
          exact absurd same.symm ((closes.next concerns).2 none markStopped)
  | _ => cases next

theorem moves_cleaner_once {state following : State} {action : Action}
    (attached : Attached state) (moves : Moves state action following)
    (first second : Nat) (firstQueue secondQueue : Generation) (firstMark secondMark : Bool)
    (firstReady : following.cleaners first = .closing firstQueue (.enter none firstMark))
    (secondReady : following.cleaners second = .closing secondQueue (.enter none secondMark)) :
    first = second := by
  rcases moves_none_origin attached moves firstReady with firstOld | ⟨current, _, firstNew⟩
  · rcases moves_none_origin attached moves secondReady with secondOld | ⟨current, _, _⟩
    · exact attached.cleanerOnce _ _ _ _ _ _ firstOld secondOld
    · exact absurd (attached.cleanerNone _ _ _ firstOld).2.1 current
  · rcases moves_none_origin attached moves secondReady with secondOld | ⟨_, _, secondNew⟩
    · exact absurd (attached.cleanerNone _ _ _ secondOld).2.1 current
    · exact moves_clear_once moves firstNew secondNew (by simp [firstReady])
        (by simp [secondReady])

theorem moves_attached {state following : State} {action : Action} (ownership : Ownership state)
    (attached : Attached state) (released : Released state)
    (moves : Moves state action following) : Attached following where
  untouched := moves_untouched ownership attached moves
  unowned := moves_unowned attached moves
  starting := moves_starting attached moves
  detached := moves_detached attached released moves
  attached := moves_attached_field attached released moves
  gate := moves_gate ownership attached released moves
  stored := moves_stored_owner attached released moves
  withdrawing := moves_withdrawing ownership.shared attached released moves
  captured := moves_captured ownership.shared attached released moves
  closing := moves_closing ownership.shared attached released moves
  cleaner := moves_cleaner_call ownership attached moves
  cleanerNone := moves_cleaner_none ownership attached released moves
  cleanerOnce := moves_cleaner_once attached moves

structure WellFormed (state : State) : Prop where
  ownership : Ownership state
  threads : Threads state
  released : Released state
  attached : Attached state

theorem fresh_well_formed : WellFormed fresh :=
  ⟨fresh_ownership, fresh_threads, fresh_released, fresh_attached⟩

theorem moves_well_formed {state following : State} {action : Action}
    (formed : WellFormed state) (moves : Moves state action following) :
    WellFormed following where
  ownership := moves_ownership formed.ownership moves
  threads := moves_threads formed.ownership formed.threads moves
  released := moves_released formed.released moves fun ready =>
    (formed.attached.untouched _ (.inr ⟨rfl, by rw [ready]; rfl⟩)).1
  attached := moves_attached formed.ownership formed.attached formed.released moves

theorem reachable_well_formed {allowed : State → Action → Prop} {state : State}
    (reached : Reaches step allowed fresh state) : WellFormed state :=
  reached.invariant WellFormed fresh_well_formed
    fun _ _ _ formed _ taken => moves_well_formed formed (step_moves taken)

end HermesCashew.Lifecycle
