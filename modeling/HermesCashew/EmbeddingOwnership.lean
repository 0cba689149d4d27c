import HermesCashew.EmbeddingProcess

/-!
# Who owns the embedding process

A supervisor that has given `_OWNER` back has no child and launches none. Two steps can
break this: the retry of a failed start does not look at `_closed`, and the reaper tests
`_closed` without holding the slot of the requests. In runs without them every thread
that could still clear `_process` waits for the process that is published, and a closed
supervisor without a start under way is sealed.
-/

namespace HermesCashew.EmbeddingProcess

open HermesCashew.Transition

set_option autoImplicit false

variable {owned : Bool} {shared : Shared} {point : Point} {outcome : Outcome}
variable {supervisor following : Supervisor} {action : Action}

/-! ## Kinds of points -/

/-- `_terminate` is called with the slot held, except by a closing thread that timed out. -/
def Return.locked : Return → Bool
  | .closeWaiting => false
  | _ => true

/-- The thread holds `_request_lock`. -/
def Point.holds : Point → Bool
  | .spawning | .encodeClosed | .encodeReaping | .testProcess _ | .startClosed _
  | .startReaping _ | .launching _ _ | .publishing _ _ _ | .testClosed _ _ | .hello _ _
  | .retryReaping _ | .retryProcess _ | .talking | .unlocking | .finishUnlock | .closeUnlock
  | .fallbackUnlock => true
  | .terminating _ back => back.locked
  | _ => false

/-- A start that has passed its test of `_closed` and has not published its process. -/
def Point.arming : Point → Bool
  | .startReaping _ | .launching _ _ | .publishing _ _ _ => true
  | _ => false

/-- A start that has found `_process` empty. -/
def Point.vacant : Point → Bool
  | .startClosed _ | .startReaping _ | .launching _ _ | .publishing _ _ _ => true
  | _ => false

def Termination.child : Termination → Option Child
  | .waiting child | .clearing child | .flagging child | .spawning child => some child
  | _ => none

def Point.sample : Point → Option Child
  | .terminating phase _ => phase.child
  | .reapWaiting child | .reapClearing child => some child
  | _ => none

/-- A wait for this process has succeeded. -/
def Point.dead : Point → Option Child
  | .terminating (.clearing child) _ | .reapClearing child => some child
  | _ => none

/-- A reaper that has not yet reset `_reaping`. -/
def Point.early : Point → Bool
  | .reapWaiting _ | .reapClearing _ | .reapFlag => true
  | _ => false

/-- A thread that may still write `_process` or `_reaping`. -/
def Point.claims : Point → Bool
  | .terminating .testReaping _ => false
  | .terminating .sample back => back.locked
  | .terminating _ _ => true
  | .reapWaiting _ | .reapClearing _ | .reapFlag => true
  | _ => false

/-- A thread on whose behalf `_reaping` is set. -/
def Point.flagged : Point → Bool
  | .terminating (.spawning _) _ | .terminating .unflagging _ => true
  | .reapWaiting _ | .reapClearing _ | .reapFlag => true
  | _ => false

/-- A start that has found `_reaping` unset and may launch next, or has launched. -/
def Point.ready : Point → Bool
  | .launching _ _ | .publishing _ _ _ | .retryProcess _ => true
  | _ => false

def Return.closing : Return → Bool
  | .closeLocked | .closeWaiting | .fallback | .finish => true
  | _ => false

/-- A thread that runs on behalf of a `close` call. -/
def Point.late : Point → Bool
  | .terminating _ back => back.closing
  | .finishAcquire | .finishUnlock | .finishClear | .settleReaping | .settleProcess | .releasing
  | .closeAcquire | .closeUnlock | .closeFlag | .closeSpawn | .fallbackAcquire | .fallbackUnlock
  | .fallbackClear => true
  | _ => false

/-- Behind the part of `close` or `_finish_close_after_request` that holds the slot. -/
def Point.settles : Point → Bool
  | .finishClear | .fallbackClear | .settleReaping | .settleProcess => true
  | _ => false

/-- What holds at the six points to which `_terminate` can return. -/
theorem return_forall (property : Point → Prop) (shared : Shared) (back : Return)
    (unlocking : property .unlocking) (retry : ∀ request, property (.retryReaping request))
    (locked : property .closeUnlock) (waiting : property .closeSpawn)
    (fallback : property .fallbackUnlock) (finish : property .finishUnlock) :
    property (back.point shared) := by
  cases back with
  | startFailed request again retryable =>
      change property (afterStartFailed shared request again retryable)
      unfold afterStartFailed
      split
      · exact unlocking
      · exact retry request
  | encodeFailed => exact unlocking
  | closeLocked => exact locked
  | closeWaiting => exact waiting
  | fallback => exact fallback
  | finish => exact finish

@[simp] theorem return_holds (shared : Shared) (back : Return) :
    (back.point shared).holds = back.locked := by
  cases back with
  | startFailed request again retryable =>
      change (afterStartFailed shared request again retryable).holds = true
      unfold afterStartFailed
      split <;> rfl
  | _ => rfl

section

variable (shared : Shared) (back : Return)

@[simp] theorem return_arming : (back.point shared).arming = false :=
  return_forall (fun point => point.arming = false) shared back rfl (fun _ => rfl) rfl rfl rfl rfl

@[simp] theorem return_vacant : (back.point shared).vacant = false :=
  return_forall (fun point => point.vacant = false) shared back rfl (fun _ => rfl) rfl rfl rfl rfl

@[simp] theorem return_sample : (back.point shared).sample = none :=
  return_forall (fun point => point.sample = none) shared back rfl (fun _ => rfl) rfl rfl rfl rfl

@[simp] theorem return_fresh : (back.point shared).fresh = none :=
  return_forall (fun point => point.fresh = none) shared back rfl (fun _ => rfl) rfl rfl rfl rfl

@[simp] theorem return_dead : (back.point shared).dead = none :=
  return_forall (fun point => point.dead = none) shared back rfl (fun _ => rfl) rfl rfl rfl rfl

@[simp] theorem return_early : (back.point shared).early = false :=
  return_forall (fun point => point.early = false) shared back rfl (fun _ => rfl) rfl rfl rfl rfl

@[simp] theorem return_claims : (back.point shared).claims = false :=
  return_forall (fun point => point.claims = false) shared back rfl (fun _ => rfl) rfl rfl rfl rfl

@[simp] theorem return_flagged : (back.point shared).flagged = false :=
  return_forall (fun point => point.flagged = false) shared back rfl (fun _ => rfl) rfl rfl rfl rfl

@[simp] theorem return_ready : (back.point shared).ready = false :=
  return_forall (fun point => point.ready = false) shared back rfl (fun _ => rfl) rfl rfl rfl rfl

@[simp] theorem return_settles : (back.point shared).settles = false :=
  return_forall (fun point => point.settles = false) shared back rfl (fun _ => rfl) rfl rfl rfl rfl

theorem return_not_releasing : back.point shared ≠ .releasing :=
  return_forall (fun point => point ≠ .releasing) shared back (by simp) (by simp) (by simp)
    (by simp) (by simp) (by simp)

theorem return_late (late : (back.point shared).late = true) : back.closing = true := by
  cases back with
  | startFailed request again retryable =>
      change (afterStartFailed shared request again retryable).late = true at late
      unfold afterStartFailed at late
      split at late <;> cases late
  | encodeFailed => cases late
  | _ => rfl

end

section

variable (request : Request)

@[simp] theorem served_holds : request.served.holds = true := by
  cases request <;> rfl

@[simp] theorem served_late : request.served.late = false := by
  cases request <;> rfl

@[simp] theorem served_arming : request.served.arming = false := by
  cases request <;> rfl

@[simp] theorem served_vacant : request.served.vacant = false := by
  cases request <;> rfl

@[simp] theorem served_sample : request.served.sample = none := by
  cases request <;> rfl

@[simp] theorem served_fresh : request.served.fresh = none := by
  cases request <;> rfl

@[simp] theorem served_dead : request.served.dead = none := by
  cases request <;> rfl

@[simp] theorem served_early : request.served.early = false := by
  cases request <;> rfl

@[simp] theorem served_claims : request.served.claims = false := by
  cases request <;> rfl

@[simp] theorem served_flagged : request.served.flagged = false := by
  cases request <;> rfl

@[simp] theorem served_ready : request.served.ready = false := by
  cases request <;> rfl

@[simp] theorem served_settles : request.served.settles = false := by
  cases request <;> rfl

end

section

variable (phase : Termination) (back : Return)

@[simp] theorem terminating_holds : (Point.terminating phase back).holds = back.locked := rfl

@[simp] theorem terminating_late : (Point.terminating phase back).late = back.closing := rfl

@[simp] theorem terminating_sample : (Point.terminating phase back).sample = phase.child := rfl

@[simp] theorem terminating_arming : (Point.terminating phase back).arming = false := rfl

@[simp] theorem terminating_vacant : (Point.terminating phase back).vacant = false := rfl

@[simp] theorem terminating_fresh : (Point.terminating phase back).fresh = none := rfl

@[simp] theorem terminating_early : (Point.terminating phase back).early = false := rfl

@[simp] theorem terminating_ready : (Point.terminating phase back).ready = false := rfl

@[simp] theorem terminating_settles : (Point.terminating phase back).settles = false := rfl

end

/-! ## What one step does to the kinds -/

theorem moves_spawned {first : Point} (moves : Moves owned shared point outcome)
    (spawned : outcome.spawned = some first) :
    (∃ child back, point = .terminating (.spawning child) back ∧ first = .reapWaiting child ∧
      outcome = { point := back.point shared, spawned := some first }) ∨
    point = .closeSpawn ∧ first = .finishAcquire ∧
      outcome = { point := .idle, spawned := some first } := by
  cases moves with
  | terminating phase back outcome moves =>
      cases moves with
      | handedOver child =>
          cases spawned
          exact .inl ⟨child, back, rfl, rfl, rfl⟩
      | _ => cases spawned
  | cleanupCreated =>
      cases spawned
      exact .inr ⟨rfl, rfl, rfl⟩
  | _ => cases spawned

theorem moves_holds (moves : Moves owned shared point outcome) :
    (outcome.write = .acquire ∧ shared.requestLock = none ∧ outcome.point.holds = true) ∨
    (outcome.write = .release ∧ point.holds = true ∧ outcome.point.holds = false) ∨
    (outcome.write ≠ .acquire ∧ outcome.write ≠ .release ∧
      outcome.point.holds = point.holds) := by
  cases moves with
  | acquireStart free | acquireEncode free | finishAcquired free | closeAcquired free
  | fallbackAcquired free => exact .inl ⟨rfl, free, rfl⟩
  | noThread | unlocked | finishUnlocked | closeUnlocked | fallbackUnlocked =>
      exact .inr (.inl ⟨rfl, rfl, rfl⟩)
  | terminating phase back outcome moves =>
      cases moves <;> simp
  | hasProcess | greeted | greetedOnCpu => exact .inr (.inr ⟨by simp, by simp, served_holds _⟩)
  | launchFailed request retry =>
      exact .inr (.inr ⟨by simp, by simp,
        return_holds shared (.startFailed request retry true)⟩)
  | _ => simp [Point.holds, Return.locked]

theorem moves_late (moves : Moves owned shared point outcome)
    (late : outcome.point.late = true) :
    point.late = true ∨ outcome.write = .close ∨ shared.closeWaiting = true ∨
      shared.closed = true := by
  cases moves with
  | terminating phase back outcome moves =>
      left
      cases moves with
      | reaping | nothing | cleared | handedOver | unflagged => exact return_late _ _ late
      | _ => exact late
  | launchFailed request retry =>
      cases return_late shared (.startFailed request retry true) late
  | hasProcess | greeted | greetedOnCpu => simp at late
  | reapReleases closed => exact .inr (.inr (.inr closed))
  | observedWaiting waiting => exact .inr (.inr (.inl waiting))
  | _ => simp_all [Point.late, Return.closing]

theorem moves_arming (moves : Moves owned shared point outcome)
    (arming : outcome.point.arming = true) :
    point.arming = true ∨ (∃ request, point = .startClosed request ∧ shared.closed = false) ∨
      ∃ request, point = .retryProcess request ∧ shared.process = none := by
  cases moves with
  | startOpen request opened => exact .inr (.inl ⟨request, rfl, opened⟩)
  | retries request vacant => exact .inr (.inr ⟨request, rfl, vacant⟩)
  | terminating phase back outcome moves => cases moves <;> simp at arming
  | hasProcess | greeted | greetedOnCpu | launchFailed => simp at arming
  | _ => simp_all [Point.arming]

theorem moves_vacant (moves : Moves owned shared point outcome)
    (vacant : outcome.point.vacant = true) :
    (point.vacant = true ∨ shared.process = none) ∧ ∀ child, outcome.write ≠ .publish child := by
  cases moves with
  | terminating phase back outcome moves => cases moves <;> simp at vacant
  | needsStart request empty => exact ⟨.inr empty, by simp⟩
  | retries request empty => exact ⟨.inr empty, by simp⟩
  | hasProcess | greeted | greetedOnCpu | launchFailed => simp at vacant
  | _ => simp_all [Point.vacant]

theorem moves_sample {child : Child} (moves : Moves owned shared point outcome)
    (sample : outcome.point.sample = some child) :
    (point.sample = some child ∨ shared.process = some child) ∧
      ∀ other, outcome.write ≠ .publish other := by
  cases moves with
  | terminating phase back outcome moves =>
      cases moves <;> simp_all [Termination.child]
  | hasProcess | greeted | greetedOnCpu | launchFailed => simp at sample
  | _ => simp_all [Point.sample, Termination.child]

theorem moves_dead {child : Child} (moves : Moves owned shared point outcome)
    (dead : outcome.point.dead = some child) : outcome.write = .reap child := by
  cases moves with
  | terminating phase back outcome moves =>
      cases moves with
      | reaping | nothing | cleared | handedOver | unflagged => simp at dead
      | _ => simp_all [Point.dead]
  | hasProcess | greeted | greetedOnCpu | launchFailed => simp at dead
  | _ => simp_all [Point.dead]

theorem moves_fresh {child : Child} (moves : Moves owned shared point outcome)
    (fresh : outcome.point.fresh = some child) :
    outcome.write = .launch ∧ child = shared.launched := by
  cases moves with
  | terminating phase back outcome moves =>
      cases moves <;> simp at fresh
  | hasProcess | greeted | greetedOnCpu | launchFailed => simp at fresh
  | _ => simp_all [Point.fresh]

/-- The writes to `_process` and to the table of the children, with their authors. -/
theorem moves_write (moves : Moves owned shared point outcome) :
    (∀ child, outcome.write = .publish child → point.fresh = some child) ∧
    (outcome.write = .clear → ∃ child, point.dead = some child ∧ point.sample = some child) ∧
    (outcome.write = .launch → point.arming = true ∧
      outcome.point.fresh = some shared.launched) ∧
    (∀ child, outcome.write = .reap child →
      point.sample = some child ∧ shared.status child ≠ .running) ∧
    (outcome.write = .reaping false → point.claims = true) ∧
    (outcome.write = .closeWaiting true → point.late = true) := by
  cases moves with
  | terminating phase back outcome moves =>
      cases moves <;> simp_all [Point.sample, Point.dead, Termination.child, Point.claims]
  | _ => simp_all [Point.fresh, Point.dead, Point.sample, Point.arming, Point.claims, Point.late]

/-- A thread claims when it samples the process, or finds `_reaping` unset while it holds
the slot. -/
theorem moves_claims (moves : Moves owned shared point outcome)
    (claims : outcome.point.claims = true) :
    (point.claims = true ∧ outcome.spawned = none ∧ outcome.point.holds = point.holds ∧
      (point.early = true → outcome.point.early = true)) ∨
    (shared.reaping = false ∧ outcome.point.holds = true ∧ point.holds = true ∧
      outcome.write = .nothing) ∨
    (point = .terminating .sample .closeWaiting ∧ shared.process ≠ none) := by
  cases moves with
  | terminating phase back outcome moves =>
      cases moves with
      | reaping | nothing | cleared | handedOver | unflagged => simp at claims
      | free unset =>
          have locked : back.locked = true := claims
          exact .inr (.inl ⟨unset, locked, locked, rfl⟩)
      | sampled child process =>
          cases back with
          | closeWaiting => exact .inr (.inr ⟨rfl, by simp [process]⟩)
          | _ => exact .inl ⟨rfl, rfl, rfl, by simp⟩
      | _ => exact .inl ⟨rfl, rfl, rfl, by simp⟩
  | hasProcess | greeted | greetedOnCpu | launchFailed => simp at claims
  | reapWaited | reapCleared => exact .inl ⟨rfl, rfl, rfl, fun _ => rfl⟩
  | _ => simp [Point.claims] at claims

theorem moves_flagged (moves : Moves owned shared point outcome)
    (flagged : outcome.point.flagged = true) :
    outcome.write = .reaping true ∨
      point.flagged = true ∧ ∀ value, outcome.write ≠ .reaping value := by
  cases moves with
  | terminating phase back outcome moves =>
      cases moves with
      | reaping | nothing | cleared | handedOver | unflagged => simp at flagged
      | flagged => exact .inl rfl
      | noReaper => exact .inr ⟨rfl, by simp⟩
      | _ => simp [Point.flagged] at flagged
  | hasProcess | greeted | greetedOnCpu | launchFailed => simp at flagged
  | reapWaited | reapCleared => exact .inr ⟨rfl, by simp⟩
  | _ => simp [Point.flagged] at flagged

theorem moves_ready (moves : Moves owned shared point outcome)
    (ready : outcome.point.ready = true) :
    (point.ready = true ∨ shared.reaping = false) ∧ point.holds = true ∧
      outcome.point.claims = false ∧ outcome.spawned = none := by
  cases moves with
  | terminating phase back outcome moves => cases moves <;> simp at ready
  | hasProcess | greeted | greetedOnCpu | launchFailed => simp at ready
  | _ => simp_all [Point.ready, Point.holds, Point.claims]

theorem moves_settles (moves : Moves owned shared point outcome)
    (settles : outcome.point.settles = true) :
    point.settles = true ∨ point.holds = true ∧ point.late = true := by
  cases moves with
  | terminating phase back outcome moves => cases moves <;> simp at settles
  | hasProcess | greeted | greetedOnCpu | launchFailed => simp at settles
  | _ => simp_all [Point.settles, Point.holds, Point.late]

theorem moves_releasing (moves : Moves owned shared point outcome)
    (releasing : outcome.point = .releasing) :
    (point = .settleProcess ∧ shared.process = none ∧ outcome.write = .nothing) ∨
      (point = .reapTest ∧ shared.closed = true ∧ outcome.write = .nothing) := by
  cases moves with
  | terminating phase back outcome moves =>
      cases moves with
      | reaping | nothing | cleared | handedOver | unflagged =>
          exact absurd releasing (return_not_releasing _ _)
      | _ => cases releasing
  | launchFailed request retry =>
      exact absurd releasing (return_not_releasing shared (.startFailed request retry true))
  | hasProcess request | greeted request | greetedOnCpu request => cases request <;> cases releasing
  | settled vacant => exact .inl ⟨rfl, vacant, rfl⟩
  | reapReleases closed => exact .inr ⟨rfl, closed, rfl⟩
  | _ => cases releasing

/-! ## What a write leaves alone -/

section

variable (thread : ThreadId) (write : Write)

theorem apply_closed (closed : shared.closed = true) :
    (shared.apply thread write).closed = true := by
  cases write <;> first | exact closed | rfl

theorem closed_of_apply (closed : (shared.apply thread write).closed = true) :
    shared.closed = true ∨ write = .close := by
  cases write <;> first | exact .inl closed | exact .inr rfl

theorem apply_process (unpublished : ∀ child, write ≠ .publish child) :
    (shared.apply thread write).process = shared.process ∨
      write = .clear ∧ (shared.apply thread write).process = none := by
  cases write with
  | publish child => exact absurd rfl (unpublished child)
  | clear => exact .inr ⟨rfl, rfl⟩
  | _ => exact .inl rfl

theorem apply_lock (unacquired : write ≠ .acquire) (unreleased : write ≠ .release) :
    (shared.apply thread write).requestLock = shared.requestLock := by
  cases write <;> first | rfl | contradiction

theorem apply_reaping (unchanged : ∀ value, write ≠ .reaping value) :
    (shared.apply thread write).reaping = shared.reaping := by
  cases write with
  | reaping value => exact absurd rfl (unchanged value)
  | _ => rfl

theorem apply_close_waiting (waiting : (shared.apply thread write).closeWaiting = true) :
    shared.closeWaiting = true ∨ write = .closeWaiting true := by
  cases write with
  | closeWaiting value =>
      cases value with
      | true => exact .inr rfl
      | false => cases waiting
  | _ => exact .inl waiting

/-- A process runs after a write only if it was running or has just been launched. -/
theorem apply_running {child : Child}
    (running : (shared.apply thread write).status child = .running) :
    shared.status child = .running ∧ write ≠ .reap child ∨
      write = .launch ∧ child = shared.launched := by
  cases write with
  | launch =>
      by_cases same : child = shared.launched
      · exact .inr ⟨rfl, same⟩
      · simp only [Shared.apply, Function.update_of_ne same] at running
        exact .inl ⟨running, by simp⟩
  | reap other =>
      by_cases same : child = other
      · subst same
        simp [Shared.apply] at running
      · simp only [Shared.apply, Function.update_of_ne same] at running
        refine .inl ⟨running, ?_⟩
        intro reaped
        cases reaped
        exact same rfl
  | _ => exact .inl ⟨running, by simp⟩

end

/-! ## Locks and flags -/

structure Gated (supervisor : Supervisor) : Prop where
  lock : ∀ thread, (supervisor.threads thread).holds = true ↔
    supervisor.shared.requestLock = some thread
  waiting : supervisor.shared.closeWaiting = true → supervisor.shared.closed = true
  late : ∀ thread, (supervisor.threads thread).late = true → supervisor.shared.closed = true

theorem Gated.only (gated : Gated supervisor) {first second : ThreadId}
    (one : (supervisor.threads first).holds = true)
    (two : (supervisor.threads second).holds = true) : first = second :=
  Option.some.inj (((gated.lock first).mp one).symm.trans ((gated.lock second).mp two))

theorem spawned_kinds {first : Point} (moves : Moves owned shared point outcome)
    (spawned : outcome.spawned = some first) :
    first.holds = false ∧ first.arming = false ∧ first.vacant = false ∧ first.fresh = none ∧
      first.dead = none ∧ first.ready = false ∧ first.settles = false ∧ first ≠ .releasing ∧
      (first.late = true → point.late = true) := by
  rcases moves_spawned moves spawned with ⟨child, back, rfl, rfl, -⟩ | ⟨rfl, rfl, -⟩
  · exact ⟨rfl, rfl, rfl, rfl, rfl, rfl, rfl, by simp, by simp [Point.late]⟩
  · exact ⟨rfl, rfl, rfl, rfl, rfl, rfl, rfl, by simp, fun _ => rfl⟩

theorem steps_gated (gated : Gated supervisor) (steps : Steps owned supervisor action following) :
    Gated following := by
  cases steps with
  | childExits child running => exact ⟨gated.lock, gated.waiting, gated.late⟩
  | collect child exited unreferenced => exact ⟨gated.lock, gated.waiting, gated.late⟩
  | run thread choice created outcome threads moves here elsewhere =>
      have closed : supervisor.shared.closed = true →
          (supervisor.shared.apply thread outcome.write).closed = true :=
        apply_closed thread outcome.write
      have held (other : ThreadId) (different : other ≠ thread) :
          (threads other).holds = (supervisor.threads other).holds := by
        rcases elsewhere other different with same | ⟨idle, spawned, -⟩
        · rw [same]
        · rw [idle, (spawned_kinds moves spawned).1]
          rfl
      refine ⟨?_, ?_, ?_⟩
      · intro other
        change (threads other).holds = true ↔
          (supervisor.shared.apply thread outcome.write).requestLock = some other
        rcases moves_holds moves with ⟨acquired, free, holds⟩ | ⟨released, holds, freed⟩ |
          ⟨unacquired, unreleased, same⟩
        · have shared : (supervisor.shared.apply thread outcome.write).requestLock = some thread := by
            rw [acquired]
            rfl
          rw [shared]
          by_cases this : other = thread
          · subst this
            simp [here, holds]
          · have idle : (supervisor.threads other).holds ≠ true := by
              rw [ne_eq, gated.lock other, free]
              simp
            simp [held other this, idle, Ne.symm this]
        · have shared : (supervisor.shared.apply thread outcome.write).requestLock = none := by
            rw [released]
            rfl
          rw [shared]
          by_cases this : other = thread
          · subst this
            simp [here, freed]
          · have idle : (supervisor.threads other).holds ≠ true := fun other_holds =>
              this (gated.only other_holds holds)
            simp [held other this, idle]
        · rw [apply_lock thread outcome.write unacquired unreleased, ← gated.lock other]
          by_cases this : other = thread
          · subst this
            rw [here, same]
          · rw [held other this]
      · intro waiting
        rcases apply_close_waiting thread outcome.write waiting with waiting | set
        · exact closed (gated.waiting waiting)
        · exact closed (gated.late thread ((moves_write moves).2.2.2.2.2 set))
      · intro other late
        by_cases this : other = thread
        · subst this
          change (threads other).late = true at late
          rw [here] at late
          rcases moves_late moves late with late | closes | waiting | already
          · exact closed (gated.late other late)
          · change (supervisor.shared.apply other outcome.write).closed = true
            rw [closes]
            rfl
          · exact closed (gated.waiting waiting)
          · exact closed already
        · rcases elsewhere other this with same | ⟨-, spawned, -⟩
          · change (threads other).late = true at late
            rw [same] at late
            exact closed (gated.late other late)
          · exact closed (gated.late thread
              ((spawned_kinds moves spawned).2.2.2.2.2.2.2.2 late))

/-! ## Steps that break the ownership -/

/-- A start has passed its tests of `_closed` and is about to publish a process. -/
def Supervisor.startUnderWay (supervisor : Supervisor) : Bool :=
  match supervisor.shared.requestLock with
  | some holder => (supervisor.threads holder).arming
  | none => false

/-- The retry on the CPU goes ahead although the supervisor has been closed. -/
def Supervisor.retriesClosed (supervisor : Supervisor) : Action → Bool
  | .run thread _ _ =>
      match supervisor.threads thread with
      | .retryProcess _ => supervisor.shared.closed && supervisor.shared.process.isNone
      | _ => false
  | _ => false

/-- The reaper finds the supervisor closed while a start is under way, or while another
process is published. -/
def Supervisor.releasesEarly (supervisor : Supervisor) : Action → Bool
  | .run thread _ _ =>
      decide (supervisor.threads thread = .reapTest) && supervisor.shared.closed &&
        (supervisor.startUnderWay || supervisor.shared.process.isSome)
  | _ => false

def Supervisor.careful (supervisor : Supervisor) (action : Action) : Bool :=
  !supervisor.retriesClosed action && !supervisor.releasesEarly action

def Sealed (supervisor : Supervisor) : Prop :=
  supervisor.shared.closed = true ∧ ∀ thread, (supervisor.threads thread).arming = false

theorem steps_sealed (isSealed : Sealed supervisor) (careful : supervisor.careful action = true)
    (steps : Steps owned supervisor action following) : Sealed following := by
  obtain ⟨closed, unarmed⟩ := isSealed
  cases steps with
  | childExits child running => exact ⟨closed, unarmed⟩
  | collect child exited unreferenced => exact ⟨closed, unarmed⟩
  | run thread choice created outcome threads moves here elsewhere =>
      refine ⟨apply_closed thread outcome.write closed, ?_⟩
      intro other
      change (threads other).arming = false
      by_cases this : other = thread
      · subst this
        rw [here]
        by_contra armed
        rcases moves_arming moves (by simpa using armed) with arming | ⟨request, -, opened⟩ |
          ⟨request, retrying, vacant⟩
        · rw [unarmed] at arming
          cases arming
        · rw [closed] at opened
          cases opened
        · simp [Supervisor.careful, Supervisor.retriesClosed, retrying, closed, vacant] at careful
      · rcases elsewhere other this with same | ⟨-, spawned, -⟩
        · rw [same]
          exact unarmed other
        · exact (spawned_kinds moves spawned).2.1

/-! ## Every running process is published -/

theorem vacant_holds (vacant : point.vacant = true) : point.holds = true := by
  cases point <;> first | rfl | cases vacant

theorem arming_vacant (arming : point.arming = true) : point.vacant = true := by
  cases point <;> first | rfl | cases arming

theorem ready_holds (ready : point.ready = true) : point.holds = true := by
  cases point <;> first | rfl | cases ready

theorem fresh_arming {child : Child} (fresh : point.fresh = some child) :
    point.arming = true ∧ point.ready = true := by
  cases point <;> first | exact ⟨rfl, rfl⟩ | cases fresh

theorem sample_claims {child : Child} (sample : point.sample = some child) :
    point.claims = true := by
  cases point with
  | terminating phase back => cases phase <;> first | rfl | cases sample
  | reapWaiting | reapClearing => rfl
  | _ => cases sample

theorem dead_sample {child : Child} (dead : point.dead = some child) :
    point.sample = some child := by
  cases point with
  | terminating phase back => cases phase <;> first | exact dead | cases dead
  | reapClearing => exact dead
  | _ => cases dead

theorem flagged_claims (flagged : point.flagged = true) : point.claims = true := by
  cases point with
  | terminating phase back => cases phase <;> first | rfl | cases flagged
  | reapWaiting | reapClearing | reapFlag => rfl
  | _ => cases flagged

theorem early_flagged (early : point.early = true) : point.flagged = true := by
  cases point <;> first | rfl | cases early

theorem moves_publish {child : Child} (moves : Moves owned shared point outcome)
    (fresh : point.fresh = some child) : outcome.write = .publish child := by
  cases moves with
  | published => cases fresh; rfl
  | _ => cases fresh

theorem apply_launched (shared : Shared) (thread : ThreadId) (write : Write) :
    shared.launched ≤ (shared.apply thread write).launched := by
  cases write <;> first | exact Nat.le_refl _ | exact Nat.le_succ _

/-- Without a sealed supervisor at most one thread can still write `_process` or reset
`_reaping`, and none can while a start is about to launch. -/
structure Lone (supervisor : Supervisor) : Prop where
  noElse : ∀ thread, (supervisor.threads thread).claims = true →
    (supervisor.threads thread).holds = true ∨ (supervisor.threads thread).early = true
  one : ∀ first second, (supervisor.threads first).claims = true →
    (supervisor.threads second).claims = true → first = second
  flagged : ∀ thread, (supervisor.threads thread).flagged = true →
    supervisor.shared.reaping = true
  ready : ∀ thread other, (supervisor.threads thread).ready = true →
    (supervisor.threads other).claims ≠ true

def Quiet (supervisor : Supervisor) : Prop :=
  Sealed supervisor ∨ Lone supervisor

structure Tracked (supervisor : Supervisor) : Prop where
  vacant : ∀ thread, (supervisor.threads thread).vacant = true →
    supervisor.shared.process = none
  sampled : ∀ thread child, (supervisor.threads thread).sample = some child →
    child < supervisor.shared.launched ∧
      (supervisor.shared.process = none ∨ supervisor.shared.process = some child)
  published : ∀ child, supervisor.shared.process = some child →
    child < supervisor.shared.launched
  dead : ∀ thread child, (supervisor.threads thread).dead = some child →
    supervisor.shared.status child ≠ .running
  running : ∀ child, supervisor.shared.status child = .running →
    supervisor.shared.process = some child ∨
      ∃ thread, (supervisor.threads thread).fresh = some child
  fresh : ∀ thread child, (supervisor.threads thread).fresh = some child →
    child < supervisor.shared.launched

/-- Nobody waits for an older process while a new one is published. -/
theorem Quiet.unsampled (quiet : Quiet supervisor) {thread other : ThreadId} {child : Child}
    (fresh : (supervisor.threads thread).fresh = some child) :
    (supervisor.threads other).claims ≠ true := by
  obtain ⟨arming, ready⟩ := fresh_arming fresh
  rcases quiet with isSealed | lone
  · rw [isSealed.2 thread] at arming
    cases arming
  · exact lone.ready thread other ready

/-- Processes may stop by themselves. -/
theorem Tracked.stopped (tracked : Tracked supervisor) (child : Child) {now : ChildStatus}
    (stopped : now ≠ .running) :
    Tracked { supervisor with
      shared := { supervisor.shared with
        status := Function.update supervisor.shared.status child now } } := by
  have kept (process : Child)
      (running : Function.update supervisor.shared.status child now process = .running) :
      supervisor.shared.status process = .running := by
    by_cases same : process = child
    · subst same
      rw [Function.update_self] at running
      exact absurd running stopped
    · rwa [Function.update_of_ne same] at running
  exact {
    vacant := tracked.vacant
    sampled := tracked.sampled
    published := tracked.published
    dead := fun thread child dead running => tracked.dead thread child dead (kept child running)
    running := fun child running => tracked.running child (kept child running)
    fresh := tracked.fresh }

/-- A step of one thread: its own point moves on, and it may start another thread. -/
structure Ran (owned : Bool) (supervisor : Supervisor) (thread created : ThreadId)
    (outcome : Outcome) (threads : ThreadId → Point) : Prop where
  moves : Moves owned supervisor.shared (supervisor.threads thread) outcome
  here : threads thread = outcome.point
  elsewhere : ∀ other, other ≠ thread → threads other = supervisor.threads other ∨
    supervisor.threads other = .idle ∧ outcome.spawned = some (threads other) ∧ other = created
  started : ∀ first, outcome.spawned = some first → threads created = first

section

variable {thread created : ThreadId} {threads : ThreadId → Point}

theorem Ran.same_fresh (ran : Ran owned supervisor thread created outcome threads)
    {other : ThreadId} (different : other ≠ thread) :
    (threads other).fresh = (supervisor.threads other).fresh := by
  rcases ran.elsewhere other different with same | ⟨idle, spawned, -⟩
  · rw [same]
  · rw [idle, (spawned_kinds ran.moves spawned).2.2.2.1]
    rfl

/-- A process in hand has been launched. -/
theorem Ran.fresh_launched (ran : Ran owned supervisor thread created outcome threads)
    (before : ∀ other child, (supervisor.threads other).fresh = some child →
      child < supervisor.shared.launched)
    {other : ThreadId} {child : Child} (fresh : (threads other).fresh = some child) :
    child < (supervisor.shared.apply thread outcome.write).launched := by
  by_cases this : other = thread
  · subst this
    rw [ran.here] at fresh
    obtain ⟨launches, rfl⟩ := moves_fresh ran.moves fresh
    rw [launches]
    exact Nat.lt_succ_self _
  · rw [ran.same_fresh this] at fresh
    exact Nat.lt_of_lt_of_le (before other child fresh) (apply_launched _ _ _)

/-- A published process has been launched. -/
theorem Ran.published_launched (ran : Ran owned supervisor thread created outcome threads)
    (fresh : ∀ other child, (supervisor.threads other).fresh = some child →
      child < supervisor.shared.launched)
    (before : ∀ child, supervisor.shared.process = some child →
      child < supervisor.shared.launched)
    {child : Child}
    (process : (supervisor.shared.apply thread outcome.write).process = some child) :
    child < (supervisor.shared.apply thread outcome.write).launched := by
  have grown := apply_launched supervisor.shared thread outcome.write
  by_cases publishes : ∃ process, outcome.write = .publish process
  · obtain ⟨other, publishes⟩ := publishes
    have launched := fresh thread other ((moves_write ran.moves).1 other publishes)
    rw [publishes] at process
    cases process
    exact Nat.lt_of_lt_of_le launched grown
  · rcases apply_process thread outcome.write (not_exists.mp publishes) with same | ⟨-, cleared⟩
    · rw [same] at process
      exact Nat.lt_of_lt_of_le (before child process) grown
    · rw [cleared] at process
      cases process

theorem process_none (unpublished : ∀ child, outcome.write ≠ .publish child)
    (process : supervisor.shared.process = none) :
    (supervisor.shared.apply thread outcome.write).process = none := by
  rcases apply_process thread outcome.write unpublished with same | ⟨-, cleared⟩
  · rw [same, process]
  · exact cleared

theorem sample_kept {child : Child} (unpublished : ∀ child, outcome.write ≠ .publish child)
    (sampled : child < supervisor.shared.launched ∧
      (supervisor.shared.process = none ∨ supervisor.shared.process = some child)) :
    child < (supervisor.shared.apply thread outcome.write).launched ∧
      ((supervisor.shared.apply thread outcome.write).process = none ∨
        (supervisor.shared.apply thread outcome.write).process = some child) := by
  refine ⟨Nat.lt_of_lt_of_le sampled.1 (apply_launched _ _ _), ?_⟩
  rcases apply_process thread outcome.write unpublished with same | ⟨-, cleared⟩
  · rw [same]
    exact sampled.2
  · exact .inl cleared

theorem Ran.vacant (ran : Ran owned supervisor thread created outcome threads)
    (gated : Gated supervisor) (tracked : Tracked supervisor) {other : ThreadId}
    (vacant : (threads other).vacant = true) :
    (supervisor.shared.apply thread outcome.write).process = none := by
  by_cases this : other = thread
  · subst this
    rw [ran.here] at vacant
    obtain ⟨before, unpublished⟩ := moves_vacant ran.moves vacant
    exact process_none unpublished (before.elim (tracked.vacant other) id)
  · rcases ran.elsewhere other this with same | ⟨-, spawned, -⟩
    · rw [same] at vacant
      refine process_none ?_ (tracked.vacant other vacant)
      intro child publishes
      have fresh := (moves_write ran.moves).1 child publishes
      have holds := vacant_holds (arming_vacant (fresh_arming fresh).1)
      exact this (gated.only (vacant_holds vacant) holds)
    · rw [(spawned_kinds ran.moves spawned).2.2.1] at vacant
      cases vacant

theorem Ran.sampled (ran : Ran owned supervisor thread created outcome threads)
    (quiet : Quiet supervisor) (tracked : Tracked supervisor) {other : ThreadId} {child : Child}
    (sample : (threads other).sample = some child) :
    child < (supervisor.shared.apply thread outcome.write).launched ∧
      ((supervisor.shared.apply thread outcome.write).process = none ∨
        (supervisor.shared.apply thread outcome.write).process = some child) := by
  by_cases this : other = thread
  · subst this
    rw [ran.here] at sample
    obtain ⟨before, unpublished⟩ := moves_sample ran.moves sample
    refine sample_kept unpublished ?_
    rcases before with before | process
    · exact tracked.sampled other child before
    · exact ⟨tracked.published child process, .inr process⟩
  · rcases ran.elsewhere other this with same | ⟨-, spawned, -⟩
    · rw [same] at sample
      refine sample_kept ?_ (tracked.sampled other child sample)
      intro process publishes
      exact quiet.unsampled ((moves_write ran.moves).1 process publishes) (sample_claims sample)
    · rcases moves_spawned ran.moves spawned with ⟨process, back, at_, first, same⟩ | ⟨-, first, -⟩
      · rw [first] at sample
        cases sample
        refine sample_kept (by simp [same]) (tracked.sampled thread child ?_)
        rw [at_]
        rfl
      · rw [first] at sample
        cases sample

theorem Ran.dead (ran : Ran owned supervisor thread created outcome threads)
    (tracked : Tracked supervisor) {other : ThreadId} {child : Child}
    (dead : (threads other).dead = some child) :
    (supervisor.shared.apply thread outcome.write).status child ≠ .running := by
  by_cases this : other = thread
  · subst this
    rw [ran.here] at dead
    rw [moves_dead ran.moves dead]
    simp [Shared.apply]
  · rcases ran.elsewhere other this with same | ⟨-, spawned, -⟩
    · rw [same] at dead
      intro running
      rcases apply_running thread outcome.write running with ⟨running, -⟩ | ⟨-, rfl⟩
      · exact tracked.dead other child dead running
      · exact Nat.lt_irrefl _ (tracked.sampled other _ (dead_sample dead)).1
    · rw [(spawned_kinds ran.moves spawned).2.2.2.2.1] at dead
      cases dead

/-- A published process that goes on running stays published. -/
theorem Ran.stays_published (ran : Ran owned supervisor thread created outcome threads)
    (tracked : Tracked supervisor) {child : Child}
    (running : supervisor.shared.status child = .running)
    (process : supervisor.shared.process = some child) :
    (supervisor.shared.apply thread outcome.write).process = some child := by
  have author := moves_write ran.moves
  by_cases publishes : ∃ process, outcome.write = .publish process
  · obtain ⟨other, publishes⟩ := publishes
    have arming := (fresh_arming (author.1 other publishes)).1
    rw [tracked.vacant thread (arming_vacant arming)] at process
    cases process
  · rcases apply_process thread outcome.write (not_exists.mp publishes) with same | ⟨clears, -⟩
    · rw [same, process]
    · obtain ⟨other, dead, sample⟩ := author.2.1 clears
      rcases (tracked.sampled thread other sample).2 with none | same
      · rw [none] at process
        cases process
      · rw [same] at process
        cases process
        exact absurd running (tracked.dead thread child dead)

theorem Ran.running (ran : Ran owned supervisor thread created outcome threads)
    (tracked : Tracked supervisor) {child : Child}
    (running : (supervisor.shared.apply thread outcome.write).status child = .running) :
    (supervisor.shared.apply thread outcome.write).process = some child ∨
      ∃ other, (threads other).fresh = some child := by
  rcases apply_running thread outcome.write running with ⟨running, -⟩ | ⟨launches, rfl⟩
  · rcases tracked.running child running with process | ⟨other, fresh⟩
    · exact .inl (ran.stays_published tracked running process)
    · by_cases this : other = thread
      · subst this
        left
        rw [moves_publish ran.moves fresh]
        rfl
      · exact .inr ⟨other, by rw [ran.same_fresh this, fresh]⟩
  · exact .inr ⟨thread, by rw [ran.here, ((moves_write ran.moves).2.2.1 launches).2]⟩

end

theorem steps_tracked (gated : Gated supervisor) (quiet : Quiet supervisor)
    (tracked : Tracked supervisor) (steps : Steps owned supervisor action following) :
    Tracked following := by
  cases steps with
  | childExits child running => exact tracked.stopped child (by simp)
  | collect child exited unreferenced => exact tracked.stopped child (by simp)
  | run thread choice created outcome threads moves here elsewhere started =>
      have ran : Ran owned supervisor thread created outcome threads :=
        ⟨moves, here, elsewhere, started⟩
      exact {
        vacant := fun _ vacant => ran.vacant gated tracked vacant
        sampled := fun _ _ sample => ran.sampled quiet tracked sample
        published := fun _ process =>
          ran.published_launched tracked.fresh tracked.published process
        dead := fun _ _ dead => ran.dead tracked dead
        running := fun _ running => ran.running tracked running
        fresh := fun _ _ fresh => ran.fresh_launched tracked.fresh fresh }

/-! ## One thread at a time -/

/-- While no reaper is announced, only the holder of the slot claims the process. -/
theorem Lone.unclaimed (lone : Lone supervisor) (gated : Gated supervisor)
    (clear : supervisor.shared.reaping = false) {first second : ThreadId}
    (holds : (supervisor.threads first).holds = true)
    (claims : (supervisor.threads second).claims = true) : second = first := by
  rcases lone.noElse second claims with second_holds | early
  · exact gated.only second_holds holds
  · rw [lone.flagged second (early_flagged early)] at clear
    cases clear

section

variable {thread created : ThreadId} {threads : ThreadId → Point}

/-- Where the claims behind a step come from. -/
theorem Ran.claims_after (ran : Ran owned supervisor thread created outcome threads)
    {other : ThreadId}
    (calm : ¬(supervisor.threads thread = .terminating .sample .closeWaiting ∧
      supervisor.shared.process ≠ none))
    (claims : (threads other).claims = true) :
    (other ≠ thread ∧ threads other = supervisor.threads other) ∨
    (other = thread ∧ (supervisor.threads thread).claims = true ∧ outcome.spawned = none ∧
      (threads other).holds = (supervisor.threads other).holds ∧
      ((supervisor.threads other).early = true → (threads other).early = true)) ∨
    (other = thread ∧ supervisor.shared.reaping = false ∧ (threads other).holds = true ∧
      (supervisor.threads other).holds = true) ∨
    (other = created ∧ (supervisor.threads thread).claims = true ∧
      (supervisor.threads thread).flagged = true ∧ (threads other).early = true ∧
      (threads thread).claims = false ∧ outcome.write = .nothing ∧ outcome.spawned ≠ none) := by
  by_cases this : other = thread
  · subst this
    rw [ran.here] at claims ⊢
    rcases moves_claims ran.moves claims with ⟨before, alone, holds, early⟩ |
      ⟨clear, holds, held, -⟩ | elsewise
    · exact .inr (.inl ⟨rfl, before, alone, holds, early⟩)
    · exact .inr (.inr (.inl ⟨rfl, clear, holds, held⟩))
    · exact absurd elsewise calm
  · rcases ran.elsewhere other this with same | ⟨-, spawned, rfl⟩
    · exact .inl ⟨this, same⟩
    · refine .inr (.inr (.inr ?_))
      rcases moves_spawned ran.moves spawned with ⟨child, back, at_, first, same⟩ | ⟨-, first, -⟩
      · rw [at_, ran.here, first, same]
        exact ⟨rfl, rfl, rfl, rfl, return_claims _ _, rfl, by simp⟩
      · rw [first] at claims
        cases claims

/-- A thread that claims the process holds the slot or is a reaper just announced. -/
theorem Ran.held_or_early (ran : Ran owned supervisor thread created outcome threads)
    (lone : Lone supervisor)
    (calm : ¬(supervisor.threads thread = .terminating .sample .closeWaiting ∧
      supervisor.shared.process ≠ none))
    {other : ThreadId} (claims : (threads other).claims = true) :
    (threads other).holds = true ∨ (threads other).early = true := by
  rcases ran.claims_after calm claims with ⟨-, same⟩ | ⟨rfl, before, -, holds, early⟩ |
    ⟨-, -, holds, -⟩ | ⟨-, -, -, early, -⟩
  · rw [same] at claims ⊢
    exact lone.noElse other claims
  · rcases lone.noElse other before with held | was
    · exact .inl (holds.trans held)
    · exact .inr (early was)
  · exact .inl holds
  · exact .inr early

/-- At most one thread claims the process. -/
theorem Ran.one_claims (ran : Ran owned supervisor thread created outcome threads)
    (gated : Gated supervisor) (lone : Lone supervisor)
    (calm : ¬(supervisor.threads thread = .terminating .sample .closeWaiting ∧
      supervisor.shared.process ≠ none))
    {first second : ThreadId} (one : (threads first).claims = true)
    (two : (threads second).claims = true) : first = second := by
  rcases ran.claims_after calm one with ⟨away, same⟩ | ⟨rfl, before, alone, -⟩ |
    ⟨rfl, clear, -, held⟩ | ⟨rfl, before, -, -, gone, -, spawned⟩
  · rw [same] at one
    rcases ran.claims_after calm two with ⟨-, same⟩ | ⟨rfl, other, -⟩ | ⟨rfl, clear, -, held⟩ |
      ⟨-, other, -⟩
    · rw [same] at two
      exact lone.one first second one two
    · exact lone.one first second one other
    · exact lone.unclaimed gated clear held one
    · exact absurd (lone.one first thread one other) away
  · rcases ran.claims_after calm two with ⟨away, same⟩ | ⟨rfl, -⟩ | ⟨rfl, -⟩ |
      ⟨-, -, -, -, -, -, spawned⟩
    · rw [same] at two
      exact lone.one first second before two
    · rfl
    · rfl
    · exact absurd alone spawned
  · rcases ran.claims_after calm two with ⟨away, same⟩ | ⟨rfl, -⟩ | ⟨rfl, -⟩ |
      ⟨-, -, -, -, gone, -⟩
    · rw [same] at two
      exact (lone.unclaimed gated clear held two).symm
    · rfl
    · rfl
    · rw [gone] at one
      cases one
  · rcases ran.claims_after calm two with ⟨away, same⟩ | ⟨rfl, -, alone, -⟩ | ⟨rfl, -⟩ | ⟨rfl, -⟩
    · rw [same] at two
      exact absurd (lone.one second thread two before) away
    · exact absurd alone spawned
    · rw [gone] at two
      cases two
    · rfl

/-- `_reaping` stays set as long as a thread relies on it. -/
theorem Ran.still_flagged (ran : Ran owned supervisor thread created outcome threads)
    (lone : Lone supervisor) {other : ThreadId} (flagged : (threads other).flagged = true) :
    (supervisor.shared.apply thread outcome.write).reaping = true := by
  by_cases this : other = thread
  · subst this
    rw [ran.here] at flagged
    rcases moves_flagged ran.moves flagged with sets | ⟨before, unchanged⟩
    · rw [sets]
      rfl
    · rw [apply_reaping other outcome.write unchanged]
      exact lone.flagged other before
  · rcases ran.elsewhere other this with same | ⟨-, spawned, -⟩
    · rw [same] at flagged
      have set := lone.flagged other flagged
      by_cases changes : ∃ value, outcome.write = .reaping value
      · obtain ⟨value, changes⟩ := changes
        cases value with
        | true =>
            rw [changes]
            rfl
        | false =>
            have claims := (moves_write ran.moves).2.2.2.2.1 changes
            exact absurd (lone.one other thread (flagged_claims flagged) claims) this
      · rw [apply_reaping thread outcome.write (not_exists.mp changes)]
        exact set
    · rcases moves_spawned ran.moves spawned with ⟨child, back, at_, -, same⟩ | ⟨-, first, -⟩
      · rw [same]
        refine lone.flagged thread ?_
        rw [at_]
        rfl
      · rw [first] at flagged
        cases flagged

/-- While a start is ready no thread claims the process. -/
theorem Ran.ready (ran : Ran owned supervisor thread created outcome threads)
    (gated : Gated supervisor) (lone : Lone supervisor)
    (calm : ¬(supervisor.threads thread = .terminating .sample .closeWaiting ∧
      supervisor.shared.process ≠ none))
    {first second : ThreadId} (ready : (threads first).ready = true) :
    (threads second).claims ≠ true := by
  intro claims
  by_cases this : first = thread
  · subst this
    rw [ran.here] at ready
    obtain ⟨before, holds, unclaiming, alone⟩ := moves_ready ran.moves ready
    rcases ran.claims_after calm claims with ⟨away, same⟩ | ⟨rfl, -⟩ | ⟨rfl, -⟩ |
      ⟨-, -, -, -, -, -, spawned⟩
    · rw [same] at claims
      rcases before with before | clear
      · exact lone.ready first second before claims
      · exact away (lone.unclaimed gated clear holds claims)
    · rw [ran.here, unclaiming] at claims
      cases claims
    · rw [ran.here, unclaiming] at claims
      cases claims
    · exact spawned alone
  · rcases ran.elsewhere first this with same | ⟨-, spawned, -⟩
    · rw [same] at ready
      rcases ran.claims_after calm claims with ⟨-, same⟩ | ⟨rfl, before, -⟩ |
        ⟨rfl, -, -, held⟩ | ⟨-, before, -⟩
      · rw [same] at claims
        exact lone.ready first second ready claims
      · exact lone.ready first second ready before
      · exact this (gated.only (ready_holds ready) held)
      · exact lone.ready first thread ready before
    · rw [(spawned_kinds ran.moves spawned).2.2.2.2.2.1] at ready
      cases ready

end

/-- Behind a wait on behalf of a closing thread the supervisor is sealed. -/
theorem sealed_of_sampling {thread : ThreadId} (gated : Gated supervisor)
    (tracked : Tracked supervisor)
    (sampling : supervisor.threads thread = .terminating .sample .closeWaiting)
    (process : supervisor.shared.process ≠ none) : Sealed supervisor := by
  refine ⟨gated.late thread (by rw [sampling]; rfl), ?_⟩
  intro other
  by_contra armed
  exact process (tracked.vacant other (arming_vacant (by simpa using armed)))

theorem steps_quiet (gated : Gated supervisor) (tracked : Tracked supervisor)
    (quiet : Quiet supervisor) (careful : supervisor.careful action = true)
    (steps : Steps owned supervisor action following) : Quiet following := by
  rcases quiet with isSealed | lone
  · exact .inl (steps_sealed isSealed careful steps)
  have stepped := steps
  cases steps with
  | childExits child running => exact .inr ⟨lone.noElse, lone.one, lone.flagged, lone.ready⟩
  | collect child exited unreferenced =>
      exact .inr ⟨lone.noElse, lone.one, lone.flagged, lone.ready⟩
  | run thread choice created outcome threads moves here elsewhere started =>
      have ran : Ran owned supervisor thread created outcome threads :=
        ⟨moves, here, elsewhere, started⟩
      by_cases calm : supervisor.threads thread = .terminating .sample .closeWaiting ∧
        supervisor.shared.process ≠ none
      · exact .inl (steps_sealed (sealed_of_sampling gated tracked calm.1 calm.2) careful stepped)
      · exact .inr {
          noElse := fun _ claims => ran.held_or_early lone calm claims
          one := fun _ _ one two => ran.one_claims gated lone calm one two
          flagged := fun _ flagged => ran.still_flagged lone flagged
          ready := fun _ _ ready => ran.ready gated lone calm ready }

/-! ## Release -/

def Spent (supervisor : Supervisor) : Prop :=
  Sealed supervisor ∧ ∀ child, supervisor.shared.status child ≠ .running

theorem steps_spent (spent : Spent supervisor) (careful : supervisor.careful action = true)
    (steps : Steps owned supervisor action following) : Spent following := by
  refine ⟨steps_sealed spent.1 careful steps, ?_⟩
  obtain ⟨⟨-, unarmed⟩, stopped⟩ := spent
  cases steps with
  | childExits child running => exact absurd running (stopped child)
  | collect child exited unreferenced =>
      intro other running
      by_cases same : other = child
      · subst same
        simp at running
      · simp only [Function.update_of_ne same] at running
        exact stopped other running
  | run thread choice created outcome threads moves here elsewhere =>
      intro child running
      rcases apply_running thread outcome.write running with ⟨running, -⟩ | ⟨launches, -⟩
      · exact stopped child running
      · have arming := ((moves_write moves).2.2.1 launches).1
        rw [unarmed thread] at arming
        cases arming

theorem spent_of_sealed (tracked : Tracked supervisor) (isSealed : Sealed supervisor)
    (vacant : supervisor.shared.process = none) : Spent supervisor := by
  refine ⟨isSealed, ?_⟩
  intro child running
  rcases tracked.running child running with process | ⟨thread, fresh⟩
  · rw [vacant] at process
    cases process
  · have arming := (fresh_arming fresh).1
    rw [isSealed.2 thread] at arming
    cases arming

theorem late_unarmed (late : point.late = true) : point.arming = false := by
  cases point <;> first | rfl | cases late

/-- A closing thread that holds the slot has sealed the supervisor. -/
theorem sealed_of_holding {thread : ThreadId} (gated : Gated supervisor)
    (holds : (supervisor.threads thread).holds = true)
    (late : (supervisor.threads thread).late = true) : Sealed supervisor := by
  refine ⟨gated.late thread late, ?_⟩
  intro other
  by_contra armed
  have arming : (supervisor.threads other).arming = true := by simpa using armed
  have same := gated.only (vacant_holds (arming_vacant arming)) holds
  subst same
  rw [late_unarmed late] at arming
  cases arming

theorem sealed_of_idle_slot (gated : Gated supervisor)
    (closed : supervisor.shared.closed = true)
    (waiting : supervisor.startUnderWay = false) : Sealed supervisor := by
  refine ⟨closed, ?_⟩
  intro other
  by_contra armed
  have arming : (supervisor.threads other).arming = true := by simpa using armed
  have lock := (gated.lock other).mp (vacant_holds (arming_vacant arming))
  rw [Supervisor.startUnderWay, lock] at waiting
  exact absurd arming (by simpa using waiting)

structure Settling (supervisor : Supervisor) : Prop where
  settles : ∀ thread, (supervisor.threads thread).settles = true → Sealed supervisor
  releasing : ∀ thread, supervisor.threads thread = .releasing → Spent supervisor

theorem steps_settling (gated : Gated supervisor) (tracked : Tracked supervisor)
    (settling : Settling supervisor) (careful : supervisor.careful action = true)
    (steps : Steps owned supervisor action following) : Settling following := by
  have stepped := steps
  cases steps with
  | childExits child running =>
      exact ⟨fun thread settles => steps_sealed (settling.settles thread settles) careful stepped,
        fun thread releasing => steps_spent (settling.releasing thread releasing) careful stepped⟩
  | collect child exited unreferenced =>
      exact ⟨fun thread settles => steps_sealed (settling.settles thread settles) careful stepped,
        fun thread releasing => steps_spent (settling.releasing thread releasing) careful stepped⟩
  | run thread choice created outcome threads moves here elsewhere =>
      refine ⟨?_, ?_⟩
      · intro other settles
        change (threads other).settles = true at settles
        refine steps_sealed ?_ careful stepped
        by_cases this : other = thread
        · subst this
          rw [here] at settles
          rcases moves_settles moves settles with before | ⟨holds, late⟩
          · exact settling.settles other before
          · exact sealed_of_holding gated holds late
        · rcases elsewhere other this with same | ⟨-, spawned, -⟩
          · rw [same] at settles
            exact settling.settles other settles
          · rw [(spawned_kinds moves spawned).2.2.2.2.2.2.1] at settles
            cases settles
      · intro other releasing
        change threads other = .releasing at releasing
        refine steps_spent ?_ careful stepped
        by_cases this : other = thread
        · subst this
          rw [here] at releasing
          rcases moves_releasing moves releasing with ⟨at_, vacant, -⟩ | ⟨at_, closed, -⟩
          · exact spent_of_sealed tracked (settling.settles other (by rw [at_]; rfl)) vacant
          · have late : supervisor.releasesEarly (.run other choice created) = false := by
              simp only [Supervisor.careful, Bool.and_eq_true, Bool.not_eq_true'] at careful
              exact careful.2
            simp only [Supervisor.releasesEarly, at_, closed, decide_true, Bool.true_and,
              Bool.or_eq_false_iff, Option.isSome_eq_false_iff, Option.isNone_iff_eq_none] at late
            exact spent_of_sealed tracked (sealed_of_idle_slot gated closed late.1) late.2
        · rcases elsewhere other this with same | ⟨-, spawned, -⟩
          · rw [same] at releasing
            exact settling.releasing other releasing
          · exact absurd releasing (spawned_kinds moves spawned).2.2.2.2.2.2.2.1

/-! ## All supervisors -/

structure Guarded (supervisor : Supervisor) : Prop where
  gated : Gated supervisor
  quiet : Quiet supervisor
  tracked : Tracked supervisor
  settling : Settling supervisor

theorem fresh_guarded (onCpu : Bool) : Guarded { shared := Shared.fresh onCpu } where
  gated := by constructor <;> simp [Shared.fresh, Point.holds, Point.late]
  quiet := .inr (by constructor <;> simp [Point.claims, Point.flagged, Point.ready])
  tracked := by
    constructor <;> simp [Shared.fresh, Point.vacant, Point.sample, Point.dead, Point.fresh]
  settling := by constructor <;> simp [Point.settles]

theorem steps_guarded (guarded : Guarded supervisor) (careful : supervisor.careful action = true)
    (steps : Steps owned supervisor action following) : Guarded following where
  gated := steps_gated guarded.gated steps
  quiet := steps_quiet guarded.gated guarded.tracked guarded.quiet careful steps
  tracked := steps_tracked guarded.gated guarded.quiet guarded.tracked steps
  settling := steps_settling guarded.gated guarded.tracked guarded.settling careful steps

/-- The step neither retries the start of a closed supervisor nor lets a reaper release one
whose slot or process is in use. -/
def World.careful (world : World) : WorldAction → Bool
  | .create _ _ => true
  | .act identity action =>
      match world.supervisors identity with
      | some supervisor => supervisor.careful action
      | none => true

structure Owned (world : World) : Prop where
  guarded : ∀ identity supervisor, world.supervisors identity = some supervisor →
    Guarded supervisor
  spent : ∀ identity supervisor, world.supervisors identity = some supervisor →
    world.owner ≠ some identity → Spent supervisor

theorem step_owned {world next : World} {action : WorldAction} (owned : Owned world)
    (careful : world.careful action = true) (taken : world.step action = some next) :
    Owned next := by
  cases action with
  | create identity onCpu =>
      obtain ⟨⟨free, -⟩, same⟩ := Option.ite_none_right_eq_some.mp taken
      obtain rfl := Option.some.inj same
      constructor
      · intro other supervisor found
        by_cases this : other = identity
        · subst this
          simp only [Function.update_self, Option.some.injEq] at found
          subst found
          exact fresh_guarded onCpu
        · simp only [Function.update_of_ne this] at found
          exact owned.guarded other supervisor found
      · intro other supervisor found unowned
        by_cases this : other = identity
        · exact absurd (congrArg some this.symm) unowned
        · simp only [Function.update_of_ne this] at found
          exact owned.spent other supervisor found (by simp [free])
  | act identity action =>
      obtain ⟨supervisor, found, rest⟩ := Option.bind_eq_some_iff.mp taken
      obtain ⟨following, stepped, same⟩ := Option.bind_eq_some_iff.mp rest
      obtain rfl := Option.some.inj same
      have safe : supervisor.careful action = true := by
        simpa only [World.careful, found] using careful
      have steps := step_steps stepped
      constructor
      · intro other later found_later
        by_cases this : other = identity
        · subst this
          simp only [Function.update_self, Option.some.injEq] at found_later
          subst found_later
          exact steps_guarded (owned.guarded other supervisor found) safe steps
        · simp only [Function.update_of_ne this] at found_later
          exact owned.guarded other later found_later
      · intro other later found_later unowned
        by_cases this : other = identity
        · subst this
          simp only [Function.update_self, Option.some.injEq] at found_later
          subst found_later
          refine steps_spent ?_ safe steps
          by_cases owner : world.owner = some other
          · have releases : supervisor.releases action = true := by
              by_contra kept
              simp [owner, kept] at unowned
            cases action with
            | run thread choice created =>
                have releasing : supervisor.threads thread = .releasing := by
                  simpa [Supervisor.releases] using releases
                exact (owned.guarded other supervisor found).settling.releasing thread releasing
            | childExits child => cases releases
            | collect child => cases releases
          · exact owned.spent other supervisor found owner
        · simp only [Function.update_of_ne this] at found_later
          refine owned.spent other later found_later ?_
          intro owner
          simp [owner, this] at unowned

/-- At most one supervisor owns the process-wide slot, and one that has given it back has
no live child and launches none. -/
structure Exclusive (world : World) : Prop where
  oneOwner : ∀ first second, world.owner = some first → world.owner = some second →
    first = second
  noChild : ∀ identity supervisor, world.supervisors identity = some supervisor →
    world.owner ≠ some identity → ∀ child, supervisor.shared.status child ≠ .running
  noLaunch : ∀ identity supervisor, world.supervisors identity = some supervisor →
    world.owner ≠ some identity → ∀ action next later,
      world.step (.act identity action) = some next →
      next.supervisors identity = some later →
      later.shared.launched = supervisor.shared.launched
  alone : ∀ first second one two child other,
    world.supervisors first = some one → world.supervisors second = some two →
    one.shared.status child = .running → two.shared.status other = .running → first = second

theorem Owned.exclusive {world : World} (owned : Owned world) : Exclusive world where
  oneOwner := by
    intro first second one two
    rw [one] at two
    exact Option.some.inj two
  noChild := fun identity supervisor found unowned => (owned.spent identity supervisor found unowned).2
  noLaunch := by
    intro identity supervisor found unowned action next later taken found_later
    have unarmed := (owned.spent identity supervisor found unowned).1.2
    obtain ⟨before, same, rest⟩ := Option.bind_eq_some_iff.mp taken
    rw [found] at same
    cases same
    obtain ⟨following, stepped, same⟩ := Option.bind_eq_some_iff.mp rest
    obtain rfl := Option.some.inj same
    simp only [Function.update_self, Option.some.injEq] at found_later
    subst found_later
    have steps := step_steps stepped
    cases steps with
    | childExits | collect => rfl
    | run thread choice created outcome threads moves here elsewhere =>
        by_cases launches : outcome.write = .launch
        · have arming := ((moves_write moves).2.2.1 launches).1
          rw [unarmed thread] at arming
          cases arming
        · change (supervisor.shared.apply thread outcome.write).launched = _
          cases write : outcome.write <;> first | rfl | exact absurd write launches
  alone := by
    intro first second one two child other found_one found_two running_one running_two
    have first_owns : world.owner = some first := by
      by_contra unowned
      exact (owned.spent first one found_one unowned).2 child running_one
    have second_owns : world.owner = some second := by
      by_contra unowned
      exact (owned.spent second two found_two unowned).2 other running_two
    rw [first_owns] at second_owns
    exact Option.some.inj second_owns

theorem embedding_owner_exclusive (world : World)
    (reached : Reaches World.step (fun world action => world.careful action = true) {} world) :
    Exclusive world := by
  have owned : Owned world := by
    refine reached.invariant Owned ?_ ?_
    · exact ⟨by simp, by simp⟩
    · intro world action next owned careful taken
      exact step_owned owned careful taken
  exact owned.exclusive

/-- `thread` of the first supervisor goes on, `times` times. -/
def goesOn (thread : ThreadId) (times : Nat) : List WorldAction :=
  List.replicate times (.act 0 (.run thread .proceed 9))

def startsOnGpu : List WorldAction :=
  [.create 0 false, .act 0 (.run 0 (.request .start) 9)] ++ goesOn 0 7

theorem started_child_is_exclusive :
    ∃ world supervisor, world.supervisors 0 = some supervisor ∧
      supervisor.shared.status 0 = .running ∧ Exclusive world := by
  have reached := reaches_of_execute_where World.step
    (fun world action => world.careful action = true) World.careful (fun _ _ => id)
    {} startsOnGpu rfl
  exact ⟨_, _, rfl, rfl, embedding_owner_exclusive _ reached⟩

/-- The handshake fails and the child outlives its deadline, so a reaper waits for it.
`close` sets the flag, the reaper gives the ownership back, and the start, which has found
nothing to wait for, launches again on the CPU. -/
def relaunchesReleased : List WorldAction :=
  startsOnGpu ++
    [.act 0 (.run 0 (.fail true) 9)] ++ goesOn 0 2 ++
    [.act 0 (.run 0 (.fail true) 9)] ++ goesOn 0 1 ++
    [.act 0 (.run 0 .proceed 1), .act 0 (.run 2 .close 9)] ++ goesOn 2 1 ++
    [.act 0 (.childExits 0)] ++ goesOn 1 5 ++ goesOn 0 3

theorem released_supervisor_launches :
    ¬ ∀ world, Reaches World.step anyStep {} world → Exclusive world := by
  intro exclusive
  have reached := reaches_of_execute World.step {} relaunchesReleased rfl
  have exclusive := exclusive _ reached
  exact exclusive.noChild 0 _ rfl (by decide) 1 rfl

end HermesCashew.EmbeddingProcess
