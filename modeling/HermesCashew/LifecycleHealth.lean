import HermesCashew.LifecycleWedge

/-!
# The terminal health of a generation

The locked block of `_clear_runtime_state` publishes `stopping`, and the close that
it then enters owes the health `stopped` with the reason `shutdown_complete`. Both
`_finish_embedding_runtime_close` and the health are shared with two other paths.
An `initialize` that could not resolve the identity registers its own close with
`mark_stopped=False`; when that one runs after the teardown, the field is reset
without the health and the close of the teardown comes too late. A `shutdown` that
lost its queue to a failing `initialize` may still publish `worker_timeout`.
-/

namespace HermesCashew.Lifecycle

open HermesCashew.Transition

set_option autoImplicit false

/-- The health that a `shutdown` ends with. -/
def Complete (health : Health) : Prop :=
  health.state = .stopped ∧ health.reason = some .shutdownComplete

/-- The two steps that lose the terminal health: a callback with
`mark_stopped=False` for a supervisor whose generation was cleared, and the
timeout of an older `shutdown` after the current generation has stopped. -/
def losesHealth (state : State) : Action → Bool
  | .runCallback supervisor =>
      (state.supervisors supervisor).runningCallbacks.head? == some false &&
        state.embeddingSupervisor == some supervisor && state.clearings supervisor != 0
  | .clean cleaner =>
      match state.cleaners cleaner with
      | .retaining _ =>
          state.clearings state.healthGeneration != 0 && state.health.state == .stopped
      | _ => false
  | _ => false

/-- A close call of a teardown carries `mark_stopped=True`. -/
def CloseCall.Marks : CloseCall → Prop
  | .enter _ markStopped | .callNow _ markStopped => markStopped = true
  | .close _ => True

/-- Who will still publish the terminal health. -/
inductive Completes (state : State) : Prop where
  | entering (standing : AtClose state (.enter state.embeddingSupervisor true))
  | calling (generation : Generation) (same : state.embeddingSupervisor = some generation)
      (standing : AtClose state (.callNow generation true))
  | registered (generation : Generation) (same : state.embeddingSupervisor = some generation)
      (owes : (state.supervisors generation).Owes true)

structure Terminal (state : State) : Prop where
  marks : ∀ cleaner queue call, state.cleaners cleaner = .closing queue call → call.Marks
  cleared : state.clearings state.healthGeneration ≠ 0 →
    Complete state.health ∨ state.health.state = .stopping ∧ Completes state

theorem fresh_terminal : Terminal fresh := by
  constructor <;> simp [fresh]

/-! ## One step -/

theorem Closes.marks {state : State} {call next : CloseCall} {writes : CloseWrites}
    (closes : Closes state call writes (some next)) (marks : call.Marks) : next.Marks := by
  cases closes with
  | callNow supervisor markStopped released => exact marks
  | register supervisor markStopped held => trivial
  | finishNow supervisor markStopped writes finishes => trivial

theorem moves_marks {state following : State} {action : Action} (terminal : Terminal state)
    (moves : Moves state action following) (cleaner : Nat) (queue : Generation)
    (call : CloseCall) (ready : following.cleaners cleaner = .closing queue call) :
    call.Marks := by
  have marks := terminal.marks cleaner
  have moved := moves_cleaner moves cleaner
  generalize state.cleaners cleaner = before at moved marks
  generalize next : following.cleaners cleaner = after at moved
  rw [ready] at next
  cases moved with
  | same => exact marks queue call next.symm
  | clear worker _ current cleared kept flag initializer generation =>
      cases next
      rfl
  | close _ previous writes following closes =>
      cases following with
      | none => cases next
      | some following =>
          cases next
          exact closes.marks (marks queue previous rfl)
  | _ => cases next

/-- A close that marks publishes the terminal health, unless it is stale. -/
theorem Finishes.completes {state : State} {supervisor : Option Generation}
    {writes : CloseWrites} (finishes : Finishes state supervisor true writes)
    (gone : state.syncQueue = none) :
    writes.health = state.health ∧ writes.embeddingSupervisor = state.embeddingSupervisor ∨
      Complete writes.health := by
  cases finishes with
  | stale closing same other => exact .inl ⟨rfl, rfl⟩
  | kept same queue => exact absurd gone queue
  | released same queue => exact .inr ⟨rfl, rfl⟩

theorem Closes.completes {state : State} {call : CloseCall} {writes : CloseWrites}
    {next : Option CloseCall} (closes : Closes state call writes next) (marks : call.Marks)
    (gone : state.syncQueue = none) :
    writes.health = state.health ∧ writes.embeddingSupervisor = state.embeddingSupervisor ∨
      Complete writes.health := by
  cases closes with
  | finish markStopped writes finishes =>
      obtain rfl : markStopped = true := marks
      exact finishes.completes gone
  | finishNow supervisor markStopped writes finishes =>
      obtain rfl : markStopped = true := marks
      exact finishes.completes gone
  | callNow supervisor markStopped released => exact .inl ⟨rfl, rfl⟩
  | register supervisor markStopped held => exact .inl ⟨rfl, rfl⟩
  | close supervisor => exact .inl ⟨rfl, rfl⟩

/-- The callbacks of a cleared generation that run carry `mark_stopped=True`. -/
theorem callback_completes {state changed : State} {generation : Generation} {first : Bool}
    {rest : List Bool} {writes : CloseWrites}
    (finishes : Finishes changed (some generation) first writes) (attached : Attached state)
    (spared : losesHealth state (.runCallback generation) = false)
    (running : (state.supervisors generation).runningCallbacks = first :: rest)
    (cleared : state.clearings state.healthGeneration ≠ 0)
    (embedding : changed.embeddingSupervisor = state.embeddingSupervisor)
    (health : changed.health = state.health) (gone : changed.syncQueue = none) :
    writes.health = state.health ∧ writes.embeddingSupervisor = state.embeddingSupervisor ∨
      Complete writes.health := by
  by_cases current : state.embeddingSupervisor = some generation
  · have latest := (attached.attached generation current).1
    subst latest
    obtain rfl : first = true := by
      simpa [losesHealth, running, current, cleared] using spared
    rw [← embedding, ← health]
    exact finishes.completes gone
  · cases finishes with
    | stale closing same other => exact .inl ⟨health, embedding⟩
    | kept same queue => exact absurd gone queue
    | released same queue =>
        exact absurd (embedding.symm.trans (same.resolve_left (by simp))) current

/-- After its teardown the health of a generation is left alone or completed. -/
theorem moves_health {state following : State} {action : Action} (formed : WellFormed state)
    (terminal : Terminal state) (spared : losesHealth state action = false)
    (moves : Moves state action following)
    (cleared : state.clearings state.healthGeneration ≠ 0)
    (gone : state.syncQueue = none) (late : unstarted state.initializer = false)
    (closing : state.health.state.closing = true)
    (generation : following.healthGeneration = state.healthGeneration) :
    (following.health = state.health ∨
        state.health.state ≠ .stopped ∧ following.health.state = .stopping) ∧
        following.embeddingSupervisor = state.embeddingSupervisor ∨
      Complete following.health := by
  cases moves with
  | admitted quiet queue clear => exact absurd generation (Nat.succ_ne_self _)
  | cleanerClose cleaner queue call writes next ready closes =>
      have completes := closes.completes (terminal.marks cleaner queue call ready) gone
      exact completes.imp_left fun same => ⟨.inl same.1, same.2⟩
  | runCallback supervisor first rest writes running finishes =>
      have completes := callback_completes finishes formed.attached spared running cleared rfl rfl
        gone
      exact completes.imp_left fun same => ⟨.inl same.1, same.2⟩
  | announce cron vectorUnavailable modelMissing ready queue clear => exact absurd gone queue
  | signal cleaner queue idle unannounced published current clear =>
      rw [gone] at current
      cases current
  | clear cleaner worker queue ready current =>
      rw [gone] at current
      cases current
  | retain cleaner cleanup ready =>
      refine .inl ⟨.inr ⟨?_, rfl⟩, rfl⟩
      simpa [losesHealth, ready, cleared] using spared
  | report reason fallback error clear working =>
      rw [closing] at working
      cases working
  | withdraw call writes next ready closes | close call writes next ready closes
  | abandon error supervisor ready | store ready | bindUnavailable ready =>
      rw [ready] at late
      cases late
  | _ => exact .inl ⟨.inl rfl, rfl⟩

/-- A close of the stored supervisor, or of none, that marks completes. -/
theorem Finishes.completes_current {state : State} {supervisor : Option Generation}
    {writes : CloseWrites} (finishes : Finishes state supervisor true writes)
    (same : state.embeddingSupervisor = supervisor) (gone : state.syncQueue = none) :
    Complete writes.health := by
  cases finishes with
  | stale closing closed other => exact absurd (same.trans closed) other
  | kept _ queue => exact absurd gone queue
  | released _ _ => exact ⟨rfl, rfl⟩

theorem moves_completes {state following : State} {action : Action} (formed : WellFormed state)
    (spared : losesHealth state action = false) (moves : Moves state action following)
    (cleared : state.clearings state.healthGeneration ≠ 0) (gone : state.syncQueue = none)
    (kept : following.embeddingSupervisor = state.embeddingSupervisor)
    (completes : Completes state) : Completes following ∨ Complete following.health := by
  cases completes with
  | entering standing =>
      generalize current : state.embeddingSupervisor = supervisor at standing
      rw [current] at kept
      cases moves_close_call moves standing with
      | waits standing => exact .inl (.entering (by rwa [kept]))
      | runs writes next closes flag health supervisors standing =>
          cases closes with
          | finish _ _ finishes =>
              exact .inr (health ▸ finishes.completes_current current gone)
          | callNow generation _ released =>
              exact .inl (.calling generation kept (standing _ rfl))
          | register generation _ held =>
              exact .inl (.registered generation kept (.inl (by simp [supervisors])))
  | calling generation same standing =>
      cases moves_close_call moves standing with
      | waits standing => exact .inl (.calling generation (kept.trans same) standing)
      | runs writes next closes flag health supervisors standing =>
          cases closes with
          | finishNow _ _ _ finishes =>
              exact .inr (health ▸ finishes.completes_current same gone)
  | registered generation same owes =>
      rcases moves_callbacks formed.released moves owes with
        owes | ⟨first, rest, changed, writes, rfl, running, finishes, embedding, queue, _, health⟩
      · exact .inl (.registered generation (kept.trans same) owes)
      · have latest := (formed.attached.attached generation same).1
        subst latest
        obtain rfl : first = true := by
          simpa [losesHealth, running, same, cleared] using spared
        exact .inr (health ▸ finishes.completes_current (embedding.trans same)
          (queue.trans gone))

/-- The locked block publishes `stopping` and enters the close. -/
theorem moves_begins_teardown {state following : State} {action : Action}
    (known : Cleared state) (moves : Moves state action following)
    (before : state.clearings state.healthGeneration = 0)
    (after : following.clearings following.healthGeneration ≠ 0) :
    following.health.state = .stopping ∧ Completes following := by
  cases moves with
  | clear cleaner worker queue ready current =>
      exact ⟨rfl, .entering (.inr ⟨cleaner, queue, by simp [State.setCleaner, State.setHealth]⟩)⟩
  | admitted quiet queue clear =>
      exact absurd (known.known _ (Nat.lt_succ_self state.healthGeneration)) after
  | _ => exact absurd before after

theorem moves_terminal {state following : State} {action : Action} (exclusive : Exclusive state)
    (terminal : Terminal state) (spared : losesHealth state action = false)
    (moves : Moves state action following) : Terminal following := by
  have formed := exclusive.formed
  refine ⟨moves_marks terminal moves, fun after => ?_⟩
  by_cases cleared : state.clearings state.healthGeneration = 0
  · exact .inr (moves_begins_teardown exclusive.cleared moves cleared after)
  have gone : state.syncQueue = none := by
    refine formed.ownership.shared.queue.resolve_right fun current => ?_
    exact cleared (exclusive.cleared.current _ current)
  have late : unstarted state.initializer = false := by
    by_contra early
    exact cleared (exclusive.cleared.queueing (by simpa using early))
  have generation : following.healthGeneration = state.healthGeneration := by
    refine (moves_generation moves).resolve_right fun begins => ?_
    rw [begins.generation] at after
    rcases moves_clearings moves (state.healthGeneration + 1) with same | ⟨_, _, _, current, _⟩
    · rw [same] at after
      exact after (exclusive.cleared.known _ (Nat.lt_succ_self _))
    · rw [gone] at current
      cases current
  rcases terminal.cleared cleared with complete | ⟨stopping, completes⟩
  · rcases moves_health formed terminal spared moves cleared gone late
        (by rw [complete.1]; rfl) generation with ⟨same | ⟨other, _⟩, _⟩ | done
    · exact .inl (same ▸ complete)
    · exact absurd complete.1 other
    · exact .inl done
  · rcases moves_health formed terminal spared moves cleared gone late
        (by rw [stopping]; rfl) generation with ⟨health, kept⟩ | done
    · have waiting : following.health.state = .stopping := by
        rcases health with same | ⟨_, waiting⟩
        · rw [same, stopping]
        · exact waiting
      rcases moves_completes formed spared moves cleared gone kept completes with next | done
      · exact .inr ⟨waiting, next⟩
      · exact .inl done
    · exact .inl done

theorem reachable_terminal {state : State}
    (reached : Reaches step (fun state action => losesHealth state action = false) fresh state) :
    Terminal state := by
  refine reached.invariant_with Exclusive Terminal ?_ fresh_terminal ?_
  · exact fun _ prior => reachable_exclusive prior
  · intro state action following exclusive terminal spared taken
    exact moves_terminal exclusive terminal spared (step_moves taken)

/-! ## Every run -/

/-- `_clear_runtime_state` of `generation` has run and its supervisor, if it had
one, is released with its callbacks called. -/
structure TornDown (state : State) (generation : Generation) : Prop where
  cleared : state.clearings generation ≠ 0
  closed : ∀ cleaner call, state.cleaners cleaner ≠ .closing generation call
  owner : state.owner ≠ some generation
  released : (state.supervisors generation).releasing = false
  called : (state.supervisors generation).runningCallbacks = []

theorem TornDown.not_completes {state : State} (torn : TornDown state state.healthGeneration)
    (exclusive : Exclusive state) : ¬Completes state := by
  have attached := exclusive.formed.attached
  have idle : ∀ call, state.initializer ≠ some (.closing call) := by
    intro call ready
    exact torn.cleared (exclusive.cleared.queueing (by rw [ready]; rfl))
  intro completes
  cases completes with
  | entering standing =>
      rcases standing with ready | ⟨cleaner, queue, ready⟩
      · exact idle _ ready
      · have latest : queue = state.healthGeneration := by
          rcases current : state.embeddingSupervisor with _ | generation
          · rw [current] at ready
            exact (attached.cleanerNone cleaner queue true ready).2.2.2.2
          · have ⟨concerns, _⟩ := attached.cleaner cleaner queue _ ready
            rw [current] at concerns
            have same := Option.some.inj (concerns.resolve_left (by simp))
            exact same.symm.trans (attached.attached generation current).1
        exact torn.closed cleaner _ (latest ▸ ready)
  | calling generation same standing =>
      have latest := (attached.attached generation same).1
      rcases standing with ready | ⟨cleaner, queue, ready⟩
      · exact idle _ ready
      · have ⟨concerns, _⟩ := attached.cleaner cleaner queue _ ready
        obtain rfl : queue = state.healthGeneration := concerns.1.symm.trans latest
        exact torn.closed cleaner _ ready
  | registered generation same owes =>
      have ⟨latest, _, claimed⟩ := attached.attached generation same
      subst latest
      have released : (state.supervisors state.healthGeneration).ownerReleased = true := by
        simpa [torn.owner, torn.released] using claimed
      simp [Supervisor.Owes, torn.called,
        exclusive.formed.released.callbacks _ released] at owes

/-- In a run without the two steps that lose it, a generation that was shut down
and torn down reports its terminal health until the next `initialize`. -/
theorem torn_down_generation_complete {state : State}
    (reached : Reaches step (fun state action => losesHealth state action = false) fresh state)
    (torn : TornDown state state.healthGeneration) :
    state.health.state = .stopped ∧ state.health.reason = some .shutdownComplete := by
  rcases (reachable_terminal reached).cleared torn.cleared with complete | ⟨_, completes⟩
  · exact complete
  · exact absurd completes (torn.not_completes (reachable_exclusive reached))

theorem whole_generation_complete :
    ∃ state : State, state.started (.sync 1) = true ∧ state.clearings 1 = 1 ∧
      state.health.state = .stopped ∧ state.health.reason = some .shutdownComplete := by
  have reached := reaches_of_execute_where step
    (fun state action => losesHealth state action = false)
    (fun state action => !losesHealth state action) (by simp) fresh wholeGeneration rfl
  exact ⟨_, rfl, rfl, torn_down_generation_complete reached
    ⟨by decide, fun cleaner _ => match cleaner with | 0 => nofun | _ + 1 => nofun,
      by decide, rfl, rfl⟩⟩

/-- Identity resolution fails, so a close with `mark_stopped=False` waits for the
child, which dies only after the teardown of `shutdown` has begun. -/
def unresolvedSchedule : List Action :=
  toAcquired ++ .advance :: toIdentity ++ [.identify false, .advance, .advance] ++ toReturn ++
    shutdownCleared 1 ++ closeCallback 1 ++ List.replicate 6 (.clean 0)

/-- Everything has ended and the health still reads `stopping`. -/
theorem pending_close_loses_health :
    ¬∀ state, Reaches step anyStep fresh state → TornDown state state.healthGeneration →
      Complete state.health := by
  intro complete
  have reached := reaches_of_execute step fresh unresolvedSchedule rfl
  have stopped := complete _ reached
    ⟨by decide, fun cleaner _ => match cleaner with | 0 => nofun | _ + 1 => nofun,
      by decide, rfl, rfl⟩
  cases stopped.1

end HermesCashew.Lifecycle
