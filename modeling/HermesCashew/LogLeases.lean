import HermesCashew.LifecycleOwnership

/-!
# The reference of one provider to the log boundary

`_log_scrub_acquired` says whether a provider has a reference to give back. The two teardowns
read and clear it outside the locks, so it is right only as long as they stay apart: no
acquisition while a cleanup of the provider is still behind its locked block, and no two
threads between the test of the flag and its reset.

`scrubReferences` counts what this provider has taken and not given back.
-/

namespace HermesCashew.Lifecycle

open HermesCashew.Transition

set_option autoImplicit false

def CleanerPoint.past : CleanerPoint → Bool
  | .closing _ _ => true
  | .scrubbing _ _ => true
  | _ => false

/-- `some true` before the release and `some false` after it. -/
def ScrubPoint.busy : ScrubPoint → Option Bool
  | .test => none
  | .release => some true
  | .reset => some false

/-- The scrub block of the admitted `initialize` or of a cleaner. -/
def State.scrubPoint (state : State) : Option Nat → Option ScrubPoint
  | none =>
      match state.initializer with
      | some (.scrubbing point) => some point
      | _ => none
  | some cleaner =>
      match state.cleaners cleaner with
      | .scrubbing _ point => some point
      | _ => none

def State.busy (state : State) (thread : Option Nat) : Option Bool :=
  (state.scrubPoint thread).bind ScrubPoint.busy

def moved (thread : Option Nat) (action : Action) : Prop :=
  match thread with
  | none => action = .advance
  | some cleaner => action = .clean cleaner

/-- Teardowns of the provider keep apart: it does not acquire while a cleanup is past its
locked block, and no thread finds the flag set while another one is about to clear it. -/
structure Apart (state : State) (action : Action) : Prop where
  acquires : action = .advance → state.initializer = some .acquiring →
    ∀ cleaner, (state.cleaners cleaner).past = false
  tests : ∀ thread, moved thread action → state.scrubPoint thread = some .test →
    state.logScrubAcquired ≠ none → ∀ other, state.busy other = none

/-- `initialize` has acquired the boundary and has not failed. -/
def livePhase : Option InitializePoint → Bool
  | some .queueing | some .resuming | some .acquiring | some .acquired => false
  | some (.raised _) | some (.captured _ _) | some (.closing _) | some (.scrubbing _) => false
  | _ => true

def State.Live (state : State) : Prop :=
  state.syncQueue ≠ none ∧ livePhase state.initializer = true

/-- A handler of `initialize` is on its way to the scrub block. -/
def leavingPhase : Option InitializePoint → Bool
  | some (.raised _) | some (.captured _ _) | some (.closing _) | some (.scrubbing _) => true
  | _ => false

structure Leased (state : State) : Prop where
  duty : state.logScrubAcquired ≠ none → state.Live ∨
    (∃ cleaner, (state.cleaners cleaner).past = true) ∨ leavingPhase state.initializer = true
  live : state.Live → state.logScrubAcquired ≠ none ∧
    ∀ cleaner, (state.cleaners cleaner).past = false
  acquired : state.initializer = some .acquired → state.logScrubAcquired = none ∧
    state.scrubReferences = 1 ∧ ∀ cleaner, (state.cleaners cleaner).past = false
  free : state.logScrubAcquired = none → state.initializer ≠ some .acquired →
    state.scrubReferences = 0
  alone : ∀ thread other, state.busy thread ≠ none → state.busy other ≠ none → thread = other
  busy : ∀ thread before, state.busy thread = some before →
    state.logScrubAcquired ≠ none ∧ state.scrubReferences = before.toNat
  held : state.logScrubAcquired ≠ none → (∀ thread, state.busy thread ≠ some false) →
    state.scrubReferences = 1

theorem fresh_leased : Leased fresh := by
  constructor
  · exact fun held => absurd rfl held
  · exact fun live => absurd rfl live.1
  · exact nofun
  · exact fun _ _ => rfl
  · intro thread other held
    cases thread with
    | none => exact absurd rfl held
    | some cleaner => exact absurd rfl held
  · intro thread before held
    cases thread with
    | none => cases held
    | some cleaner => cases held
  · exact fun held => absurd rfl held

section

variable {state following : State}

/-- A step that touches neither the flag nor a scrub block. -/
theorem Leased.kept (leased : Leased state)
    (flag : following.logScrubAcquired = state.logScrubAcquired)
    (references : following.scrubReferences = state.scrubReferences)
    (past : ∀ cleaner, (following.cleaners cleaner).past = (state.cleaners cleaner).past)
    (busy : ∀ thread, following.busy thread = state.busy thread)
    (live : following.Live → state.Live)
    (duty : state.Live → following.Live ∨ leavingPhase following.initializer = true)
    (leaving : leavingPhase state.initializer = true →
      leavingPhase following.initializer = true)
    (acquired : following.initializer = some .acquired ↔ state.initializer = some .acquired) :
    Leased following := by
  constructor
  · rw [flag]
    intro held
    rcases leased.duty held with living | ⟨cleaner, standing⟩ | going
    · exact (duty living).imp id .inr
    · exact .inr (.inl ⟨cleaner, (past cleaner).trans standing⟩)
    · exact .inr (.inr (leaving going))
  · intro living
    rw [flag]
    refine (leased.live (live living)).imp id ?_
    exact fun quiet cleaner => (past cleaner).trans (quiet cleaner)
  · intro point
    rw [flag, references]
    obtain ⟨none, one, quiet⟩ := leased.acquired (acquired.mp point)
    exact ⟨none, one, fun cleaner => (past cleaner).trans (quiet cleaner)⟩
  · rw [flag, references]
    exact fun none other => leased.free none fun point => other (acquired.mpr point)
  · intro thread other
    rw [busy, busy]
    exact leased.alone thread other
  · intro thread before
    rw [busy, flag, references]
    exact leased.busy thread before
  · rw [flag, references]
    intro held quiet
    exact leased.held held fun thread => busy thread ▸ quiet thread

/-- A cleaner moves between two points outside the scrub block. -/
theorem set_cleaner_past {cleaner : Nat} {point : CleanerPoint}
    (same : point.past = (state.cleaners cleaner).past) (other : Nat) :
    ((state.setCleaner cleaner point).cleaners other).past = (state.cleaners other).past := by
  by_cases own : other = cleaner
  · subst own
    simpa [State.setCleaner] using same
  · simp [State.setCleaner, Function.update_of_ne own]

theorem set_cleaner_busy {cleaner : Nat} {point : CleanerPoint}
    (before : state.busy (some cleaner) = none)
    (after : (state.setCleaner cleaner point).busy (some cleaner) = none) (thread : Option Nat) :
    (state.setCleaner cleaner point).busy thread = state.busy thread := by
  cases thread with
  | none => rfl
  | some other =>
      by_cases own : other = cleaner
      · subst own
        rw [before, after]
      · simp [State.busy, State.scrubPoint, State.setCleaner, Function.update_of_ne own]

/-- `initialize` goes on outside its scrub block. -/
theorem Leased.proceed (leased : Leased state)
    (flag : following.logScrubAcquired = state.logScrubAcquired)
    (references : following.scrubReferences = state.scrubReferences)
    (cleaners : following.cleaners = state.cleaners)
    (queue : following.syncQueue = state.syncQueue)
    (live : livePhase following.initializer = true → livePhase state.initializer = true)
    (next : livePhase state.initializer = true →
      livePhase following.initializer = true ∨ leavingPhase following.initializer = true)
    (leaving : leavingPhase state.initializer = true →
      leavingPhase following.initializer = true)
    (acquired : following.initializer = some .acquired ↔ state.initializer = some .acquired)
    (own : following.busy none = state.busy none) : Leased following := by
  apply leased.kept flag references _ _ _ _ leaving acquired
  · intro cleaner
    rw [cleaners]
  · intro thread
    cases thread with
    | none => exact own
    | some cleaner => simp only [State.busy, State.scrubPoint, cleaners]
  · exact fun living => ⟨queue ▸ living.1, live living.2⟩
  · intro living
    rcases next living.2 with on | off
    · exact .inl ⟨queue ▸ living.1, on⟩
    · exact .inr off

/-- A step of a cleaner outside its scrub block, which does not clear the state. -/
theorem Leased.cleaned (leased : Leased state) {cleaner : Nat} {point : CleanerPoint}
    (same : point.past = (state.cleaners cleaner).past)
    (before : state.busy (some cleaner) = none)
    (after : (state.setCleaner cleaner point).busy (some cleaner) = none) :
    Leased (state.setCleaner cleaner point) := by
  have flag : (state.setCleaner cleaner point).logScrubAcquired = state.logScrubAcquired := rfl
  apply leased.kept flag rfl
  · exact set_cleaner_past same
  · exact set_cleaner_busy before after
  · exact id
  · exact .inl
  · exact id
  · exact .rfl

/-- Only fields that the lease does not look at change. -/
theorem Leased.aside (leased : Leased state)
    (flag : following.logScrubAcquired = state.logScrubAcquired)
    (references : following.scrubReferences = state.scrubReferences)
    (cleaners : following.cleaners = state.cleaners)
    (queue : following.syncQueue = state.syncQueue)
    (initializer : following.initializer = state.initializer) : Leased following := by
  apply leased.proceed flag references cleaners queue
  · exact fun living => initializer ▸ living
  · exact fun living => .inl (initializer ▸ living)
  · exact fun leaving => initializer ▸ leaving
  · rw [initializer]
  · simp only [State.busy, State.scrubPoint, initializer]

/-! ## The scrub block -/

structure Tearing (state : State) : Prop where
  dead : ¬state.Live
  unacquired : state.initializer ≠ some .acquired
  pending : (∃ cleaner, (state.cleaners cleaner).past = true) ∨
    leavingPhase state.initializer = true

/-- A thread finds the flag set. -/
theorem Leased.enter (leased : Leased state) (tearing : Tearing following) (thread : Option Nat)
    (held : state.logScrubAcquired ≠ none)
    (flag : following.logScrubAcquired = state.logScrubAcquired)
    (references : following.scrubReferences = state.scrubReferences)
    (alone : ∀ other, state.busy other = none) (inside : following.busy thread = some true)
    (others : ∀ other, other ≠ thread → following.busy other = none) : Leased following := by
  have one : state.scrubReferences = 1 :=
    leased.held held fun other => by rw [alone other]; nofun
  constructor
  · exact fun _ => .inr tearing.pending
  · exact fun living => absurd living tearing.dead
  · exact fun point => absurd point tearing.unacquired
  · rw [flag]
    exact fun none => absurd none held
  · intro first second left right
    by_contra different
    by_cases own : first = thread
    · subst own
      exact right (others second (Ne.symm different))
    · exact left (others first own)
  · intro other before point
    by_cases own : other = thread
    · subst own
      rw [inside] at point
      cases point
      exact ⟨flag ▸ held, references.trans one⟩
    · rw [others other own] at point
      cases point
  · exact fun _ _ => references.trans one

/-- The thread gives the reference back. -/
theorem Leased.give (leased : Leased state) (tearing : Tearing following) (thread : Option Nat)
    (before : state.busy thread = some true)
    (flag : following.logScrubAcquired = state.logScrubAcquired)
    (references : following.scrubReferences = state.scrubReferences - 1)
    (inside : following.busy thread = some false)
    (others : ∀ other, other ≠ thread → following.busy other = state.busy other) :
    Leased following := by
  obtain ⟨held, one⟩ := leased.busy thread true before
  have quiet (other : Option Nat) (different : other ≠ thread) : state.busy other = none := by
    by_contra point
    exact different (leased.alone other thread point (by rw [before]; nofun))
  have zero : following.scrubReferences = 0 := by
    rw [references, one]
    rfl
  constructor
  · exact fun _ => .inr tearing.pending
  · exact fun living => absurd living tearing.dead
  · exact fun point => absurd point tearing.unacquired
  · rw [flag]
    exact fun none => absurd none held
  · intro first second left right
    by_contra different
    by_cases own : first = thread
    · subst own
      have other := Ne.symm different
      rw [others second other, quiet second other] at right
      exact right rfl
    · rw [others first own, quiet first own] at left
      exact left rfl
  · intro other point at_
    by_cases own : other = thread
    · subst own
      rw [inside] at at_
      cases at_
      exact ⟨flag ▸ held, zero⟩
    · rw [others other own, quiet other own] at at_
      cases at_
  · exact fun _ none => absurd inside (none thread)

/-- The thread clears the flag. -/
theorem Leased.cleared (leased : Leased state) (dead : ¬following.Live)
    (unacquired : following.initializer ≠ some .acquired) (thread : Option Nat)
    (before : state.busy thread = some false) (flag : following.logScrubAcquired = none)
    (references : following.scrubReferences = state.scrubReferences)
    (outside : following.busy thread = none)
    (others : ∀ other, other ≠ thread → following.busy other = state.busy other) :
    Leased following := by
  have zero : following.scrubReferences = 0 := references.trans (leased.busy thread false before).2
  have quiet (other : Option Nat) : following.busy other = none := by
    by_cases own : other = thread
    · subst own
      exact outside
    · rw [others other own]
      by_contra point
      exact own (leased.alone other thread point (by rw [before]; nofun))
  constructor
  · exact fun held => absurd flag held
  · exact fun living => absurd living dead
  · exact fun point => absurd point unacquired
  · exact fun _ _ => zero
  · exact fun first _ left => absurd (quiet first) left
  · intro other point at_
    rw [quiet other] at at_
    cases at_
  · exact fun held => absurd flag held

/-- A thread finds the flag clear. -/
theorem Leased.skips (leased : Leased state) (none_ : state.logScrubAcquired = none)
    (unacquired : state.initializer ≠ some .acquired) (dead : ¬following.Live)
    (still : following.initializer ≠ some .acquired)
    (flag : following.logScrubAcquired = state.logScrubAcquired)
    (references : following.scrubReferences = state.scrubReferences)
    (quiet : ∀ other, following.busy other = none) : Leased following := by
  constructor
  · exact fun held => absurd (flag.trans none_) held
  · exact fun living => absurd living dead
  · exact fun point => absurd point still
  · exact fun _ _ => references.trans (leased.free none_ unacquired)
  · exact fun first _ left => absurd (quiet first) left
  · intro other point at_
    rw [quiet other] at at_
    cases at_
  · exact fun held => absurd (flag.trans none_) held

/-- With the flag clear no thread is in its scrub block. -/
theorem Leased.unbusy (leased : Leased state) (none_ : state.logScrubAcquired = none)
    (thread : Option Nat) : state.busy thread = none := by
  cases point : state.busy thread with
  | none => rfl
  | some before => exact absurd none_ (leased.busy thread before point).1

/-- The boundary is acquired with no cleanup of the provider behind its locked block. -/
theorem Leased.acquires (leased : Leased state)
    (quiet : ∀ cleaner, (state.cleaners cleaner).past = false)
    (ready : state.initializer = some .acquiring) :
    Leased { state with
      scrubReferences := state.scrubReferences + 1, initializer := some .acquired } := by
  have clear : state.logScrubAcquired = none := by
    by_contra held
    rcases leased.duty held with living | ⟨cleaner, past⟩ | going
    · rw [State.Live, ready] at living
      exact absurd living.2 nofun
    · rw [quiet cleaner] at past
      cases past
    · rw [ready] at going
      cases going
  have none_ : state.scrubReferences = 0 := leased.free clear (by simp [ready])
  have busy (thread : Option Nat) : ({ state with
      scrubReferences := state.scrubReferences + 1
      initializer := some .acquired } : State).busy thread = none := by
    cases thread with
    | none => rfl
    | some cleaner => exact leased.unbusy clear (some cleaner)
  constructor
  · exact fun held => absurd clear held
  · exact fun living => absurd living.2 nofun
  · exact fun _ => ⟨clear, by rw [none_], quiet⟩
  · exact fun _ other => absurd rfl other
  · exact fun first _ left => absurd (busy first) left
  · intro thread before point
    rw [busy thread] at point
    cases point
  · exact fun held => absurd clear held

/-- The flag is set. -/
theorem Leased.records (leased : Leased state) (ready : state.initializer = some .acquired)
    (queue : state.syncQueue ≠ none) :
    Leased { state with
      logScrubAcquired := some state.healthGeneration, initializer := some .loading } := by
  obtain ⟨clear, one, quiet⟩ := leased.acquired ready
  have busy (thread : Option Nat) : ({ state with
      logScrubAcquired := some state.healthGeneration
      initializer := some .loading } : State).busy thread = none := by
    cases thread with
    | none => rfl
    | some cleaner => exact leased.unbusy clear (some cleaner)
  constructor
  · exact fun _ => .inl ⟨queue, rfl⟩
  · exact fun _ => ⟨nofun, quiet⟩
  · exact nofun
  · exact nofun
  · exact fun first _ left => absurd (busy first) left
  · intro thread before point
    rw [busy thread] at point
    cases point
  · exact fun _ _ => one

/-- A cleanup clears the runtime state and turns to the embedding runtime. -/
theorem Leased.clears (leased : Leased state) {cleaner : Nat} {queue : Generation}
    {call : CloseCall} (flag : following.logScrubAcquired = state.logScrubAcquired)
    (references : following.scrubReferences = state.scrubReferences)
    (gone : following.syncQueue = none) (initializer : following.initializer = state.initializer)
    (cleaners : following.cleaners = (state.setCleaner cleaner (.closing queue call)).cleaners)
    (unacquired : state.initializer ≠ some .acquired)
    (outside : state.busy (some cleaner) = none) : Leased following := by
  have busy (thread : Option Nat) : following.busy thread = state.busy thread := by
    have moved : following.busy thread =
        (state.setCleaner cleaner (.closing queue call)).busy thread := by
      cases thread with
      | none => simp only [State.busy, State.scrubPoint, initializer, State.setCleaner]
      | some other => simp only [State.busy, State.scrubPoint, cleaners]
    rw [moved]
    apply set_cleaner_busy outside
    simp [State.busy, State.scrubPoint, State.setCleaner]
  constructor
  · refine fun _ => .inr (.inl ⟨cleaner, ?_⟩)
    rw [cleaners]
    simp [State.setCleaner, CleanerPoint.past]
  · exact fun living => absurd gone living.1
  · rw [initializer]
    exact fun acquired => absurd acquired unacquired
  · rw [flag, references]
    exact fun none _ => leased.free none unacquired
  · intro thread other
    rw [busy, busy]
    exact leased.alone thread other
  · intro thread before
    rw [busy, flag, references]
    exact leased.busy thread before
  · rw [flag, references]
    intro held quiet
    exact leased.held held fun thread => busy thread ▸ quiet thread

/-! ## Every step of a provider -/

/-- The test of the flag, by `initialize`. -/
theorem advance_test (ready : state.initializer = some (.scrubbing .test))
    (taken : advance state = some following) :
    (state.logScrubAcquired = none ∧ { state with initializer := some .finalizing } = following) ∨
      (state.logScrubAcquired ≠ none ∧
        { state with initializer := some (.scrubbing .release) } = following) := by
  simp only [advance, ready, ScrubPoint.advance, Option.some.injEq] at taken
  by_cases flag : state.logScrubAcquired = none
  · simp only [flag, Option.isSome_none] at taken
    exact .inl ⟨flag, by simpa [flag] using taken⟩
  · have set : state.logScrubAcquired.isSome = true := Option.isSome_iff_ne_none.mpr flag
    simp only [set, if_true] at taken
    exact .inr ⟨flag, taken⟩

theorem clean_test {cleaner : Nat} {queue : Generation}
    (ready : state.cleaners cleaner = .scrubbing queue .test)
    (taken : clean state cleaner = some following) :
    (state.logScrubAcquired = none ∧ state.setCleaner cleaner .idle = following) ∨
      (state.logScrubAcquired ≠ none ∧
        state.setCleaner cleaner (.scrubbing queue .release) = following) := by
  simp only [clean, ready, ScrubPoint.advance, Option.some.injEq] at taken
  by_cases flag : state.logScrubAcquired = none
  · simp only [flag, Option.isSome_none] at taken
    exact .inl ⟨flag, taken⟩
  · have set : state.logScrubAcquired.isSome = true := Option.isSome_iff_ne_none.mpr flag
    simp only [set, if_true] at taken
    exact .inr ⟨flag, taken⟩

theorem Leased.test (ownership : Ownership state) (leased : Leased state)
    (apart : Apart state .advance) (ready : state.initializer = some (.scrubbing .test))
    (taken : advance state = some following) : Leased following := by
  have point : state.scrubPoint none = some .test := by simp [State.scrubPoint, ready]
  have gone : state.syncQueue = none := ownership.shared.tornDown (by rw [ready]; rfl)
  have unacquired : state.initializer ≠ some .acquired := by simp [ready]
  rcases advance_test ready taken with ⟨flag, same⟩ | ⟨held, same⟩
  · subst same
    refine leased.skips flag unacquired (fun living => living.1 gone) nofun rfl rfl ?_
    intro other
    cases other with
    | none => rfl
    | some cleaner => exact leased.unbusy flag (some cleaner)
  · subst same
    have alone := apart.tests none rfl point held
    refine leased.enter ⟨fun living => living.1 gone, nofun, .inr rfl⟩ none held rfl rfl alone
      rfl ?_
    intro other different
    cases other with
    | none => exact absurd rfl different
    | some cleaner => exact alone (some cleaner)

/-- Another thread is where it was. -/
theorem set_cleaner_elsewhere {cleaner : Nat} (point : CleanerPoint) {other : Option Nat}
    (different : other ≠ some cleaner) :
    (state.setCleaner cleaner point).busy other = state.busy other := by
  cases other with
  | none => rfl
  | some slot =>
      have apart : slot ≠ cleaner := fun same => different (congrArg some same)
      simp [State.busy, State.scrubPoint, State.setCleaner, Function.update_of_ne apart]

theorem set_cleaner_own {cleaner : Nat} (queue : Generation) (point : ScrubPoint) :
    (state.setCleaner cleaner (.scrubbing queue point)).busy (some cleaner) = point.busy := by
  simp [State.busy, State.scrubPoint, State.setCleaner]

/-- A cleaner that is past its locked block stands in the way of a live generation. -/
theorem Leased.past (leased : Leased state) {cleaner : Nat}
    (past : (state.cleaners cleaner).past = true) :
    ¬state.Live ∧ state.initializer ≠ some .acquired := by
  constructor
  · intro living
    rw [(leased.live living).2 cleaner] at past
    cases past
  · intro acquired
    rw [(leased.acquired acquired).2.2 cleaner] at past
    cases past

theorem set_cleaner_tearing (cleaner : Nat) (queue : Generation) (point : ScrubPoint)
    (dead : ¬state.Live) (unacquired : state.initializer ≠ some .acquired) :
    Tearing (state.setCleaner cleaner (.scrubbing queue point)) := by
  refine ⟨dead, unacquired, .inl ⟨cleaner, ?_⟩⟩
  simp [State.setCleaner, CleanerPoint.past]

theorem Leased.cleaner_test (leased : Leased state) {cleaner : Nat} {queue : Generation}
    (apart : Apart state (.clean cleaner))
    (ready : state.cleaners cleaner = .scrubbing queue .test)
    (taken : clean state cleaner = some following) : Leased following := by
  have point : state.scrubPoint (some cleaner) = some .test := by simp [State.scrubPoint, ready]
  obtain ⟨dead, unacquired⟩ := leased.past (by rw [ready]; rfl : (state.cleaners cleaner).past = _)
  rcases clean_test ready taken with ⟨flag, same⟩ | ⟨held, same⟩
  · subst same
    refine leased.skips flag unacquired dead unacquired rfl rfl ?_
    intro other
    by_cases own : other = some cleaner
    · subst own
      simp [State.busy, State.scrubPoint, State.setCleaner]
    · rw [set_cleaner_elsewhere .idle own]
      exact leased.unbusy flag other
  · subst same
    have alone := apart.tests (some cleaner) rfl point held
    have tearing := set_cleaner_tearing cleaner queue .release dead unacquired
    apply leased.enter tearing (some cleaner) held rfl rfl alone (set_cleaner_own queue .release)
    intro other different
    rw [set_cleaner_elsewhere _ different]
    exact alone other

theorem Leased.admitted (leased : Leased state) (quiet : state.initializer = none)
    (queue : state.syncQueue = none) (generation : Generation) (health : Health) :
    Leased { state with
      initializer := some .queueing
      initializationCancelled := false
      healthGeneration := generation
      embeddingIdentityReady := false
      health := health } := by
  refine leased.kept rfl rfl (fun _ => rfl) ?_ nofun (fun living => absurd queue living.1) ?_ ?_
  · intro thread
    cases thread with
    | none => simp [State.busy, State.scrubPoint, quiet]
    | some cleaner => rfl
  · rw [quiet]
    exact nofun
  · simp [quiet]

theorem Leased.queued (leased : Leased state) (ready : state.initializer = some .queueing) :
    Leased { state with
      syncQueue := some state.healthGeneration, initializer := some .resuming } := by
  refine leased.kept rfl rfl (fun _ => rfl) ?_ (fun living => absurd living.2 nofun) ?_ ?_ ?_
  · intro thread
    cases thread with
    | none => simp [State.busy, State.scrubPoint, ready]
    | some cleaner => rfl
  · intro living
    rw [State.Live, ready] at living
    exact absurd living.2 nofun
  · rw [ready]
    exact nofun
  · simp [ready]

theorem Leased.raised (leased : Leased state) (inside : inBody state.initializer = true)
    (unassigned : state.initializer ≠ some .acquired) (error : Raised) :
    Leased { state with initializer := some (.raised error) } := by
  refine leased.proceed rfl rfl rfl rfl nofun (fun _ => .inr rfl) (fun _ => rfl) ?_ ?_
  · simp [unassigned]
  · have outside : state.busy none = none := by
      cases point : state.initializer with
      | none => simp [State.busy, State.scrubPoint, point]
      | some point_ => cases point_ <;> simp_all [State.busy, State.scrubPoint, inBody]
    rw [outside]
    rfl

theorem Leased.abandoned (leased : Leased state) {error : Raised}
    {supervisor : Option Generation} (ready : state.initializer = some (.captured error supervisor))
    (call : CloseCall) :
    Leased { Lifecycle.abandon state error with initializer := some (.closing call) } := by
  refine leased.kept rfl rfl (fun _ => rfl) ?_ (fun living => absurd rfl living.1) ?_
    (fun _ => rfl) ?_
  · intro thread
    cases thread with
    | none => simp [State.busy, State.scrubPoint, ready]
    | some cleaner => rfl
  · exact fun _ => .inr rfl
  · simp [ready]

/-- `initialize` gives the reference back. -/
theorem Leased.released (ownership : Ownership state) (leased : Leased state)
    (ready : state.initializer = some (.scrubbing .release)) :
    Leased { state with
      scrubReferences := state.scrubReferences - 1
      initializer := some (.scrubbing .reset) } := by
  have gone : state.syncQueue = none := ownership.shared.tornDown (by rw [ready]; rfl)
  refine leased.give ⟨fun living => living.1 gone, nofun, .inr rfl⟩ none ?_ rfl rfl rfl ?_
  · simp [State.busy, State.scrubPoint, ready, ScrubPoint.busy]
  · intro other different
    cases other with
    | none => exact absurd rfl different
    | some cleaner => rfl

theorem Leased.reset (ownership : Ownership state) (leased : Leased state)
    (ready : state.initializer = some (.scrubbing .reset)) :
    Leased { state with logScrubAcquired := none, initializer := some .finalizing } := by
  have gone : state.syncQueue = none := ownership.shared.tornDown (by rw [ready]; rfl)
  refine leased.cleared (fun living => living.1 gone) nofun none ?_ rfl rfl rfl ?_
  · simp [State.busy, State.scrubPoint, ready, ScrubPoint.busy]
  · intro other different
    cases other with
    | none => exact absurd rfl different
    | some cleaner => rfl

theorem Leased.spawned (leased : Leased state) {cleaner slot : Nat} {cleanup : Cleanup}
    (ready : state.cleaners cleaner = .spawning cleanup)
    (idle : state.cleaners slot = .idle) :
    Leased ((state.setCleaner slot (.watching cleanup)).setCleaner cleaner
      (.spawned cleanup.queue)) := by
  have different : cleaner ≠ slot := by
    rintro rfl
    rw [idle] at ready
    cases ready
  have watching : Leased (state.setCleaner slot (.watching cleanup)) := by
    refine leased.cleaned ?_ ?_ ?_ <;>
      simp [idle, CleanerPoint.past, State.busy, State.scrubPoint, State.setCleaner]
  refine watching.cleaned ?_ ?_ ?_ <;>
    simp [ready, CleanerPoint.past, State.busy, State.scrubPoint, State.setCleaner, different]

/-- The cleanup of the current generation finds no acquisition under way. -/
theorem unacquired_of_current (ownership : Ownership state) {cleaner : Nat}
    {worker : Option Generation} {queue : Generation}
    (ready : state.cleaners cleaner = .clearing worker queue)
    (current : state.syncQueue = some queue) : state.initializer ≠ some .acquired := by
  intro acquired
  have owned := ownership.targets.target cleaner queue (by rw [ready]; rfl)
  have inside : inBody state.initializer = true := by rw [acquired]; rfl
  have idle := ownership.shared.workerless (.inl inside)
  rw [owned.worker current] at idle
  cases idle

theorem Leased.cleaner_released (leased : Leased state) {cleaner : Nat} {queue : Generation}
    (ready : state.cleaners cleaner = .scrubbing queue .release) :
    Leased { state.setCleaner cleaner (.scrubbing queue .reset) with
      scrubReferences := state.scrubReferences - 1 } := by
  obtain ⟨dead, unacquired⟩ :=
    leased.past (by rw [ready]; rfl : (state.cleaners cleaner).past = true)
  have tearing := set_cleaner_tearing cleaner queue .reset dead unacquired
  refine leased.give ⟨tearing.dead, tearing.unacquired, tearing.pending⟩ (some cleaner) ?_ rfl
    rfl (set_cleaner_own queue .reset) ?_
  · simp [State.busy, State.scrubPoint, ready, ScrubPoint.busy]
  · intro other different
    have same : (state.setCleaner cleaner (.scrubbing queue .reset)).busy other =
        state.busy other := set_cleaner_elsewhere _ different
    exact same

theorem Leased.cleaner_reset (leased : Leased state) {cleaner : Nat} {queue : Generation}
    (ready : state.cleaners cleaner = .scrubbing queue .reset) :
    Leased { state.setCleaner cleaner .idle with logScrubAcquired := none } := by
  obtain ⟨dead, unacquired⟩ :=
    leased.past (by rw [ready]; rfl : (state.cleaners cleaner).past = true)
  refine leased.cleared dead unacquired (some cleaner) ?_ rfl rfl ?_ ?_
  · simp [State.busy, State.scrubPoint, ready, ScrubPoint.busy]
  · simp [State.busy, State.scrubPoint, State.setCleaner]
  · intro other different
    have same : (state.setCleaner cleaner .idle).busy other = state.busy other :=
      set_cleaner_elsewhere _ different
    exact same

theorem step_leased {action : Action} (ownership : Ownership state) (leased : Leased state)
    (apart : Apart state action)
    (assigned : state.initializer = some .acquired → ∀ reason errorClass,
      action ≠ .raise reason errorClass)
    (taken : step state action = some following) : Leased following := by
  have moves := step_moves taken
  cases moves with
  | deferred | shutdownIgnored | prefetchIgnored | reportIgnored => exact leased
  | admitted quiet queue clear => exact leased.admitted quiet queue _ _
  | queue ready => exact leased.queued ready
  | resume ready | load ready | resolve ready | store ready | checkCancelled ready
  | check ready | leave ready | capture error ready | bindReadOnly ready
  | bindUnavailable ready | bindClaimed ready | identify readOnly identityReady ready
  | identifyFails ready | publishCancelled starts ready cancelled | startFails ready kept
  | starts ready kept | announceCancelled cron vectorUnavailable modelMissing ready closed
  | announce cron vectorUnavailable modelMissing ready queue clear
  | raiseStarting reason errorClass ready | finalize ready =>
      refine leased.proceed rfl rfl rfl rfl ?_ ?_ ?_ ?_ ?_ <;>
        simp [ready, livePhase, leavingPhase, State.busy, State.scrubPoint]
  | withdraw call writes next ready closes | close call writes next ready closes =>
      refine leased.proceed rfl rfl rfl rfl ?_ ?_ ?_ ?_ ?_ <;> cases next <;>
        simp [ready, livePhase, leavingPhase, State.busy, State.scrubPoint, ScrubPoint.busy]
  | raise reason errorClass ready =>
      exact leased.raised ready (fun acquired => assigned acquired reason errorClass rfl) _
  | acquire ready => exact leased.acquires (apart.acquires rfl ready) ready
  | recordScrub ready =>
      have inside : inBody state.initializer = true := by rw [ready]; rfl
      have queue := ownership.shared.queued inside (by simp [ready])
      exact leased.records ready (by simp [queue])
  | abandon error supervisor ready => exact leased.abandoned ready _
  | scrubTest point ready next => exact leased.test ownership apart ready taken
  | scrubRelease ready => exact leased.released ownership ready
  | scrubReset ready => exact leased.reset ownership ready
  | cancel cleaner unannounced initializing unpublished
  | prefetchStarts config quiet clear | prefetchLeaves generation flag | exit thread
  | report reason fallback error clear working | dropOwner supervisor owner closed
  | takeCallbacks supervisor releasing
  | runCallback supervisor markStopped rest writes running finishes =>
      exact leased.aside rfl rfl rfl rfl rfl
  | retry cleaner cleanup ready flag pending
  | readWorker cleaner queue prefetchThreads ready | defer cleaner cleanup ready
  | handOverStale cleaner queue ready | clearStale cleaner worker queue ready
  | joinRaises cleaner seen worker queue prefetchThreads ready
  | joined cleaner worker queue prefetchThreads ready ran dead
  | timedOut cleaner seen worker queue prefetchThreads ready ran remaining member complete
  | spawnFails cleaner cleanup ready =>
      refine leased.cleaned ?_ ?_ ?_ <;>
        simp [ready, CleanerPoint.past, State.busy, State.scrubPoint, State.setCleaner]
  | exited cleaner cleanup ready dead =>
      rcases ready with ready | ready
      · refine leased.cleaned ?_ ?_ ?_ <;>
          simp [ready, CleanerPoint.past, State.busy, State.scrubPoint, State.setCleaner]
      · refine leased.cleaned ?_ ?_ ?_ <;>
          simp [ready, CleanerPoint.past, State.busy, State.scrubPoint, State.setCleaner]
  | signal cleaner queue ready unannounced published current clear
  | retain cleaner cleanup ready | handOver cleaner queue ready current =>
      refine (Leased.cleaned leased ?_ ?_ ?_).aside rfl rfl rfl rfl rfl <;>
        simp [ready, CleanerPoint.past, State.busy, State.scrubPoint, State.setCleaner]
  | spawn cleaner slot cleanup ready idle => exact leased.spawned ready idle
  | clear cleaner worker queue ready current =>
      have outside : state.busy (some cleaner) = none := by
        simp [State.busy, State.scrubPoint, ready]
      exact leased.clears rfl rfl rfl rfl rfl (unacquired_of_current ownership ready current)
        outside
  | cleanerClose cleaner queue call writes next ready closes =>
      have written : Leased (state.write writes) := leased.aside rfl rfl rfl rfl rfl
      have at_ : (state.write writes).cleaners cleaner = .closing queue call := ready
      refine written.cleaned ?_ ?_ ?_ <;> cases next <;>
        simp [at_, CleanerPoint.past, State.busy, State.scrubPoint, State.setCleaner,
          ScrubPoint.busy]
  | cleanerTest cleaner queue point ready next => exact leased.cleaner_test apart ready taken
  | cleanerRelease cleaner queue ready => exact leased.cleaner_released ready
  | cleanerReset cleaner queue ready => exact leased.cleaner_reset ready

/-! ## What a step does to the reference -/

/-- The step is the call of `acquire_provider_scrub_filters`. -/
def acquires (state : State) (action : Action) : Bool :=
  action == .advance && state.initializer == some .acquiring

/-- The step is a call of `release_provider_scrub_filters`. -/
def releases (state : State) : Action → Bool
  | .advance => state.initializer == some (.scrubbing .release)
  | .clean cleaner =>
      match state.cleaners cleaner with
      | .scrubbing _ .release => true
      | _ => false
  | _ => false

theorem step_references {action : Action} (taken : step state action = some following) :
    following.scrubReferences =
      if acquires state action then state.scrubReferences + 1
      else if releases state action then state.scrubReferences - 1
      else state.scrubReferences := by
  cases step_moves taken with
  | acquire ready => simp [acquires, ready]
  | scrubRelease ready => simp [acquires, releases, ready]
  | cleanerRelease cleaner queue ready => simp [acquires, releases, ready]
  | exited cleaner cleanup ready dead =>
      rcases ready with ready | ready
      · simp [acquires, releases, ready, State.setCleaner]
      · simp [acquires, releases, ready, State.setCleaner]
  | _ => simp_all [acquires, releases, State.setCleaner, State.setHealth, State.setSupervisor,
      State.write, Lifecycle.abandon]

/-- A provider gives back only what it holds. -/
theorem Leased.releases_one {action : Action} (leased : Leased state)
    (releasing : releases state action = true) : state.scrubReferences = 1 := by
  have holds (thread : Option Nat) (point : state.busy thread = some true) :
      state.scrubReferences = 1 := (leased.busy thread true point).2
  cases action with
  | advance =>
      have ready : state.initializer = some (.scrubbing .release) := by
        simpa [releases] using releasing
      exact holds none (by simp [State.busy, State.scrubPoint, ready, ScrubPoint.busy])
  | clean cleaner =>
      apply holds (some cleaner)
      simp only [releases] at releasing
      split at releasing
      · rename_i queue ready
        simp [State.busy, State.scrubPoint, ready, ScrubPoint.busy]
      · cases releasing
  | _ => cases releasing

end

end HermesCashew.Lifecycle
