import HermesCashew.Custody
import HermesCashew.EmbeddingOwnership

/-!
# Releasing the ownership

Once a supervisor is closed somebody has to give `_OWNER` back: a closing thread, its
cleanup thread, a reaper, or a request that will look at `_close_waiting`. A retained
process lets the duty rest until the next `close`. Two steps drop it: `encode` frees the
slot without a look at `_close_waiting` when it cannot create its thread, and the
fallback of `close` relies on a request although a cleanup has reset the flag.
-/

namespace HermesCashew.EmbeddingProcess

open HermesCashew.Transition HermesCashew.Custody

set_option autoImplicit false

variable {owned : Bool} {shared : Shared} {point : Point} {outcome : Outcome}
variable {supervisor following : Supervisor} {action : Action}

/-! ## Kinds of points -/

/-- A request that has found the supervisor open and may still touch a process. -/
def Point.past : Point → Bool
  | .encodeReaping | .testProcess .encode | .startReaping _ | .launching _ _
  | .publishing _ _ _ | .testClosed _ _ | .hello _ _ | .retryReaping _ | .retryProcess _
  | .talking => true
  | .terminating _ back => !back.closing
  | _ => false

def Point.owes (point : Point) : Bool :=
  point.late || point.early || point = .reapTest

/-- A request that is going to look at `_close_waiting`. -/
def Point.serves (point : Point) : Bool :=
  !point.late && (point.holds || point = .observing)

/-- Behind `_close_waiting = True` in a `close` whose wait for the slot has expired. -/
def Point.waits : Point → Bool
  | .terminating _ .closeWaiting | .closeSpawn | .fallbackAcquire => true
  | _ => false

theorem past_holds (past : point.past = true) : point.holds = true := by
  cases point with
  | terminating phase back => cases back <;> first | rfl | cases past
  | testProcess => rfl
  | _ => first | rfl | cases past

theorem past_not_late (past : point.past = true) : point.late = false := by
  cases point with
  | terminating phase back => cases back <;> first | rfl | cases past
  | testProcess => rfl
  | _ => first | rfl | cases past

theorem settles_late (settles : point.settles = true) : point.late = true := by
  cases point <;> first | rfl | cases settles

theorem owes_of_late (late : point.late = true) : point.owes = true := by
  simp [Point.owes, late]

theorem serves_of_past (past : point.past = true) : point.serves = true := by
  simp [Point.serves, past_holds past, past_not_late past]

/-- The holder of the slot releases by itself or looks at `_close_waiting`. -/
theorem holds_served (holds : point.holds = true) :
    point.owes = true ∨ point.serves = true := by
  cases late : point.late with
  | true => exact .inl (owes_of_late late)
  | false => exact .inr (by simp [Point.serves, holds, late])

theorem flagged_owes (flagged : point.flagged = true) :
    point.owes = true ∨ point.past = true := by
  cases point with
  | terminating phase back =>
      cases closing : back.closing with
      | true => exact .inl (owes_of_late closing)
      | false => exact .inr (by simp [Point.past, closing])
  | reapWaiting | reapClearing | reapFlag => exact .inl rfl
  | _ => cases flagged

theorem sample_owes {child : Child} (sample : point.sample = some child) :
    point.owes = true ∨ point.past = true := by
  cases point with
  | terminating phase back =>
      cases closing : back.closing with
      | true => exact .inl (owes_of_late closing)
      | false => exact .inr (by simp [Point.past, closing])
  | reapWaiting | reapClearing => exact .inl rfl
  | _ => cases sample

theorem arming_past (arming : point.arming = true) : point.past = true := by
  cases point <;> first | rfl | cases arming

section

variable (shared : Shared) (back : Return)

theorem return_late_iff : (back.point shared).late = back.closing := by
  cases back with
  | startFailed request again retryable =>
      change (afterStartFailed shared request again retryable).late = false
      unfold afterStartFailed
      split <;> rfl
  | _ => rfl

theorem return_past (past : (back.point shared).past = true) : back.closing = false := by
  have late := past_not_late past
  rwa [return_late_iff] at late

theorem return_waits (waits : (back.point shared).waits = true) : back = .closeWaiting := by
  cases back with
  | startFailed request again retryable =>
      change (afterStartFailed shared request again retryable).waits = true at waits
      unfold afterStartFailed at waits
      split at waits <;> cases waits
  | closeWaiting => rfl
  | _ => cases waits

theorem return_serves (open_ : back.closing = false) : (back.point shared).serves = true := by
  cases back with
  | startFailed request again retryable =>
      change (afterStartFailed shared request again retryable).serves = true
      unfold afterStartFailed
      split <;> rfl
  | encodeFailed => rfl
  | _ => cases open_

theorem served_serves (request : Request) : request.served.serves = true := by
  cases request <;> rfl

end

/-! ## What one step does to the kinds -/

theorem moves_past (moves : Moves owned shared point outcome)
    (past : outcome.point.past = true) : point.past = true ∨ shared.closed = false := by
  cases moves with
  | terminating phase back outcome moves =>
      left
      cases moves with
      | reaping | nothing | cleared | handedOver | unflagged =>
          simp [Point.past, return_past _ _ past]
      | _ => exact past
  | launchFailed => exact .inl rfl
  | hasProcess request =>
      cases request with
      | start => cases past
      | encode => exact .inl rfl
  | greeted | greetedOnCpu => exact .inl rfl
  | encodeOpen opened | startOpen _ opened => exact .inr opened
  | foundClosed | foundOpen | helloFailed | retryClear | retries | talkFailed | launched
  | published | encodeClear | startClear => exact .inl rfl
  | _ => cases past

/-- How a thread with the duty to release can give it up. -/
theorem moves_owes (moves : Moves owned shared point outcome) (owes : point.owes = true) :
    outcome.point.owes = true ∨
    (∃ first, outcome.spawned = some first ∧ first.owes = true) ∨
    (point = .settleReaping ∧ shared.reaping = true) ∨
    (point = .settleProcess ∧ shared.process ≠ none ∧ outcome.write = .nothing) ∨
    point = .releasing ∨
    (point = .fallbackAcquire ∧ shared.requestLock ≠ none ∧ outcome.write = .nothing) ∨
    (point = .reapTest ∧ shared.closed = false) := by
  cases moves with
  | terminating phase back outcome moves =>
      left
      have closing : back.closing = true := by simpa [Point.owes, Point.late, Point.early] using owes
      cases moves with
      | reaping | nothing | cleared | handedOver | unflagged =>
          exact owes_of_late (by rw [return_late_iff, closing])
      | _ => exact owes_of_late closing
  | leftToReaper reaping => exact .inr (.inr (.inl ⟨rfl, reaping⟩))
  | retained child process => exact .inr (.inr (.inr (.inl ⟨rfl, by simp [process], rfl⟩)))
  | released | notOwner => exact .inr (.inr (.inr (.inr (.inl rfl))))
  | cleanupCreated => exact .inr (.inl ⟨_, rfl, rfl⟩)
  | fallbackBusy holder held =>
      exact .inr (.inr (.inr (.inr (.inr (.inl ⟨rfl, by simp [held], rfl⟩)))))
  | reapEnds opened => exact .inr (.inr (.inr (.inr (.inr (.inr ⟨rfl, opened⟩)))))
  | finishAcquired | finishUnlocked | finishCleared | notReaping | settled | closeAcquired
  | closeExpired | closeUnlocked | closeFlagged | noCleanup | fallbackAcquired
  | fallbackUnlocked | fallbackCleared | reapWaited | reapCleared | reapUnflagged
  | reapReleases => exact .inl rfl
  | _ => simp [Point.owes, Point.late, Point.early] at owes

/-- How a request stops to serve. -/
theorem moves_serves (moves : Moves owned shared point outcome) (serves : point.serves = true) :
    outcome.point.serves = true ∨ outcome.point.owes = true ∨
    (point = .observing ∧ shared.closeWaiting = false) ∨
    (point = .spawning ∧ outcome.write = .release) := by
  cases moves with
  | terminating phase back outcome moves =>
      left
      have open_ : back.closing = false := by
        simp only [Point.serves, Point.holds, Point.late, Bool.and_eq_true,
          Bool.not_eq_true'] at serves
        exact serves.1
      cases moves with
      | reaping | nothing | cleared | handedOver | unflagged => exact return_serves _ _ open_
      | _ =>
          apply serves_of_past
          simp [Point.past, open_]
  | launchFailed => exact .inl (return_serves shared (.startFailed _ _ true) rfl)
  | hasProcess request | greeted request | greetedOnCpu request =>
      exact .inl (served_serves request)
  | observedWaiting => exact .inr (.inl rfl)
  | observedNothing clear => exact .inr (.inr (.inl ⟨rfl, clear⟩))
  | noThread => exact .inr (.inr (.inr ⟨rfl, rfl⟩))
  | threadCreated | encodeRefused | encodeOpen | encodeReaped | encodeClear | needsStart
  | startRefused | startOpen | startStopped | startClear | launched | published | foundClosed
  | foundOpen | helloFailed | helloRaised | retryStopped | retryClear | retries | retryRefused
  | talked | talkFailed | unlocked => exact .inl rfl
  | _ => simp [Point.serves, Point.holds, Point.late] at serves

theorem moves_waits (moves : Moves owned shared point outcome)
    (waits : outcome.point.waits = true) :
    point.waits = true ∧ outcome.write ≠ .closeWaiting false ∨
      outcome.write = .closeWaiting true := by
  cases moves with
  | terminating phase back outcome moves =>
      left
      cases moves with
      | reaping | nothing | cleared | handedOver | unflagged =>
          rw [return_waits _ _ waits]
          exact ⟨rfl, by simp⟩
      | _ =>
          refine ⟨?_, by simp⟩
          cases back <;> first | rfl | cases waits
  | launchFailed request retry => cases return_waits shared (.startFailed request retry true) waits
  | hasProcess request | greeted request | greetedOnCpu request => cases request <;> cases waits
  | closeFlagged => exact .inr rfl
  | noCleanup => exact .inl ⟨rfl, by simp⟩
  | _ => cases waits

/-- The writes to `_close_waiting`, `_reaping` and the statuses, with their authors. -/
theorem moves_author (moves : Moves owned shared point outcome) :
    (outcome.write = .closeWaiting false → point.settles = true) ∧
    (outcome.write = .reaping true → outcome.point.flagged = true) ∧
    (∀ child, outcome.write = .reap child → outcome.point.dead = some child) ∧
    (outcome.write = .close → outcome.point.owes = true) := by
  cases moves with
  | terminating phase back outcome moves =>
      cases moves <;> simp [Point.flagged, Point.dead]
  | _ => simp [Point.settles, Point.flagged, Point.dead, Point.owes, Point.late]

/-- A thread on whose behalf `_reaping` is set resets it or hands it to a reaper. -/
theorem moves_unflagged (moves : Moves owned shared point outcome)
    (flagged : point.flagged = true) :
    outcome.point.flagged = true ∨ outcome.write = .reaping false ∨
      ∃ first, outcome.spawned = some first ∧ first.flagged = true := by
  cases moves with
  | terminating phase back outcome moves =>
      cases moves with
      | noReaper => exact .inl rfl
      | unflagged => exact .inr (.inl rfl)
      | handedOver => exact .inr (.inr ⟨_, rfl, rfl⟩)
      | _ => cases flagged
  | reapWaited | reapCleared => exact .inl rfl
  | reapUnflagged => exact .inr (.inl rfl)
  | _ => cases flagged

/-- A thread whose process is dead clears `_process` next. -/
theorem moves_undead {child : Child} (moves : Moves owned shared point outcome)
    (dead : point.dead = some child) : outcome.write = .clear := by
  cases moves with
  | terminating phase back outcome moves =>
      cases moves with
      | cleared => rfl
      | _ => cases dead
  | reapCleared => rfl
  | _ => cases dead

theorem spawned_owes {first : Point} (moves : Moves owned shared point outcome)
    (spawned : outcome.spawned = some first) :
    first.owes = true ∧ first.past = false ∧ first.waits = false := by
  rcases moves_spawned moves spawned with ⟨child, back, -, rfl, -⟩ | ⟨-, rfl, -⟩
  · exact ⟨rfl, rfl, rfl⟩
  · exact ⟨rfl, rfl, rfl⟩

theorem moves_no_thread {choice : Choice} (taken : pointStep owned shared .spawning choice = some outcome)
    (released : outcome.write = .release) : ∃ retryable, choice = .fail retryable := by
  cases choice with
  | proceed => cases taken; cases released
  | fail retryable => exact ⟨retryable, rfl⟩
  | _ => cases taken

/-- The status of a process changes when it is launched or reaped. -/
theorem apply_status {child : Child} (thread : ThreadId) (write : Write)
    (unreaped : write ≠ .reap child) (unlaunched : write = .launch → child ≠ shared.launched) :
    (shared.apply thread write).status child = shared.status child := by
  cases write with
  | launch => exact Function.update_of_ne (unlaunched rfl) ..
  | reap other =>
      have different : child ≠ other := by
        rintro rfl
        exact unreaped rfl
      exact Function.update_of_ne different ..
  | _ => rfl

theorem apply_waiting (thread : ThreadId) (write : Write) (kept : write ≠ .closeWaiting false)
    (waiting : shared.closeWaiting = true) :
    (shared.apply thread write).closeWaiting = true := by
  cases write with
  | closeWaiting value =>
      cases value with
      | true => rfl
      | false => exact absurd rfl kept
  | _ => exact waiting

/-! ## Requests behind the closing -/

/-- Closed, and no request may touch a process any more. -/
def Swept (supervisor : Supervisor) : Prop :=
  supervisor.shared.closed = true ∧ ∀ thread, (supervisor.threads thread).past = false

theorem steps_swept (swept : Swept supervisor) (steps : Steps owned supervisor action following) :
    Swept following := by
  obtain ⟨closed, none_past⟩ := swept
  cases steps with
  | childExits child running => exact ⟨closed, none_past⟩
  | collect child exited unreferenced => exact ⟨closed, none_past⟩
  | run thread choice created outcome threads moves here elsewhere =>
      refine ⟨apply_closed thread outcome.write closed, ?_⟩
      intro other
      change (threads other).past = false
      by_cases this : other = thread
      · subst this
        rw [here]
        by_contra past
        rcases moves_past moves (by simpa using past) with before | opened
        · rw [none_past] at before
          cases before
        · rw [closed] at opened
          cases opened
      · rcases elsewhere other this with same | ⟨-, spawned, -⟩
        · rw [same]
          exact none_past other
        · exact (spawned_owes moves spawned).2.1

/-- The holder of the slot is the only thread that can be past the test of `_closed`. -/
theorem swept_of_holder {thread : ThreadId} (gated : Gated supervisor)
    (closed : supervisor.shared.closed = true)
    (holds : (supervisor.threads thread).holds = true)
    (behind : (supervisor.threads thread).past = false) : Swept supervisor := by
  refine ⟨closed, ?_⟩
  intro other
  by_contra past
  have past : (supervisor.threads other).past = true := by simpa using past
  have same := gated.only (past_holds past) holds
  subst same
  rw [past] at behind
  cases behind

/-! ## Hand-overs -/

structure Unseen (supervisor : Supervisor) : Prop where
  fresh : ∀ thread child, (supervisor.threads thread).fresh = some child →
    supervisor.shared.status child ≠ .reaped ∧ supervisor.shared.process ≠ some child ∧
      ∀ other, (supervisor.threads other).sample ≠ some child
  published : ∀ child, supervisor.shared.process = some child →
    child < supervisor.shared.launched
  launched : ∀ thread child, (supervisor.threads thread).fresh = some child →
    child < supervisor.shared.launched
  sampled : ∀ thread child, (supervisor.threads thread).sample = some child →
    child < supervisor.shared.launched

theorem Unseen.stopped (unseen : Unseen supervisor) (child : Child) {now : ChildStatus}
    (unhandled : ∀ thread, (supervisor.threads thread).fresh = some child → now ≠ .reaped) :
    Unseen { supervisor with
      shared := { supervisor.shared with
        status := Function.update supervisor.shared.status child now } } where
  fresh := by
    intro thread process fresh
    obtain ⟨unreaped, unpublished, unsampled⟩ := unseen.fresh thread process fresh
    refine ⟨?_, unpublished, unsampled⟩
    change Function.update supervisor.shared.status child now process ≠ .reaped
    by_cases same : process = child
    · subst same
      rw [Function.update_self]
      exact unhandled thread fresh
    · rwa [Function.update_of_ne same]
  published := unseen.published
  launched := unseen.launched
  sampled := unseen.sampled

section

variable {thread created : ThreadId} {threads : ThreadId → Point}

/-- Who waits for a process behind a step has read it before, or reads it now. -/
theorem Ran.old_sample (ran : Ran owned supervisor thread created outcome threads)
    {other : ThreadId} {child : Child} (sample : (threads other).sample = some child) :
    supervisor.shared.process = some child ∨
      ∃ owner, (supervisor.threads owner).sample = some child := by
  by_cases this : other = thread
  · subst this
    rw [ran.here] at sample
    rcases (moves_sample ran.moves sample).1 with before | process
    · exact .inr ⟨other, before⟩
    · exact .inl process
  · rcases ran.elsewhere other this with same | ⟨-, spawned, -⟩
    · rw [same] at sample
      exact .inr ⟨other, sample⟩
    · rcases moves_spawned ran.moves spawned with ⟨process, back, at_, first, -⟩ | ⟨-, first, -⟩
      · rw [first] at sample
        exact .inr ⟨thread, by rw [at_, ← sample]; rfl⟩
      · rw [first] at sample
        cases sample

theorem Ran.sample_launched (ran : Ran owned supervisor thread created outcome threads)
    (unseen : Unseen supervisor) {other : ThreadId} {child : Child}
    (sample : (threads other).sample = some child) : child < supervisor.shared.launched := by
  rcases ran.old_sample sample with process | ⟨owner, before⟩
  · exact unseen.published child process
  · exact unseen.sampled owner child before

/-- The process that a step launches is seen by nobody. -/
theorem Ran.launches_unseen (ran : Ran owned supervisor thread created outcome threads)
    (unseen : Unseen supervisor) {child : Child} (fresh : outcome.point.fresh = some child) :
    (supervisor.shared.apply thread outcome.write).status child ≠ .reaped ∧
      (supervisor.shared.apply thread outcome.write).process ≠ some child ∧
      ∀ waiter, (threads waiter).sample ≠ some child := by
  obtain ⟨launches, rfl⟩ := moves_fresh ran.moves fresh
  refine ⟨?_, ?_, ?_⟩
  · rw [launches]
    simp [Shared.apply]
  · rw [launches]
    intro process
    exact Nat.lt_irrefl _ (unseen.published _ process)
  · intro waiter sample
    exact Nat.lt_irrefl _ (ran.sample_launched unseen sample)

/-- The process in the hand of another thread stays unseen. -/
theorem Ran.stays_unseen (ran : Ran owned supervisor thread created outcome threads)
    (gated : Gated supervisor) (unseen : Unseen supervisor) {other : ThreadId}
    (different : other ≠ thread) {child : Child}
    (fresh : (supervisor.threads other).fresh = some child) :
    (supervisor.shared.apply thread outcome.write).status child ≠ .reaped ∧
      (supervisor.shared.apply thread outcome.write).process ≠ some child ∧
      ∀ waiter, (threads waiter).sample ≠ some child := by
  have author := moves_write ran.moves
  obtain ⟨unreaped, unpublished, unsampled⟩ := unseen.fresh other child fresh
  have idle : (supervisor.threads thread).holds ≠ true := fun holds =>
    different (gated.only (ready_holds (fresh_arming fresh).2) holds)
  refine ⟨?_, ?_, ?_⟩
  · rw [apply_status]
    · exact unreaped
    · intro reaps
      exact unsampled thread (author.2.2.2.1 child reaps).1
    · intro launches
      exact absurd (vacant_holds (arming_vacant (author.2.2.1 launches).1)) idle
  · have silent (process : Child) : outcome.write ≠ .publish process := fun publishes =>
      idle (ready_holds (fresh_arming (author.1 process publishes)).2)
    rcases apply_process thread outcome.write silent with same | ⟨-, cleared⟩
    · rwa [same]
    · rw [cleared]
      simp
  · intro waiter sample
    rcases ran.old_sample sample with process | ⟨owner, before⟩
    · exact unpublished process
    · exact unsampled owner before

end

theorem steps_unseen (gated : Gated supervisor) (unseen : Unseen supervisor)
    (steps : Steps owned supervisor action following) : Unseen following := by
  cases steps with
  | childExits child running => exact unseen.stopped child (fun _ _ => by simp)
  | collect child exited unreferenced published =>
      refine unseen.stopped child ?_
      intro thread fresh
      have lock := (gated.lock thread).mp (ready_holds (fresh_arming fresh).2)
      rw [Supervisor.inHand, lock] at published
      exact absurd fresh published
  | run thread choice created outcome threads moves here elsewhere started =>
      have ran : Ran owned supervisor thread created outcome threads :=
        ⟨moves, here, elsewhere, started⟩
      have grown := apply_launched supervisor.shared thread outcome.write
      constructor
      · intro other child fresh
        change (threads other).fresh = some child at fresh
        by_cases this : other = thread
        · subst this
          rw [here] at fresh
          exact ran.launches_unseen unseen fresh
        · rw [ran.same_fresh this] at fresh
          exact ran.stays_unseen gated unseen this fresh
      · exact fun _ process => ran.published_launched unseen.launched unseen.published process
      · exact fun _ _ fresh => ran.fresh_launched unseen.launched fresh
      · exact fun _ _ sample => Nat.lt_of_lt_of_le (ran.sample_launched unseen sample) grown

structure Handed (supervisor : Supervisor) : Prop where
  flagged : supervisor.shared.reaping = true →
    ∃ thread, (supervisor.threads thread).flagged = true
  dead : ∀ child, supervisor.shared.process = some child →
    supervisor.shared.status child = .reaped →
      ∃ thread, (supervisor.threads thread).dead = some child
  settles : ∀ thread, (supervisor.threads thread).settles = true → Swept supervisor
  waits : ∀ thread, (supervisor.threads thread).waits = true →
    supervisor.shared.closeWaiting = true ∨ Swept supervisor

/-- The status of a process changes, but not to reaped while it is published. -/
theorem Handed.changed (handed : Handed supervisor) {child : Child} {now : ChildStatus}
    (swept : Swept supervisor → Swept { supervisor with
      shared := { supervisor.shared with
        status := Function.update supervisor.shared.status child now } })
    (apart : now = .reaped → supervisor.shared.process ≠ some child) :
    Handed { supervisor with
      shared := { supervisor.shared with
        status := Function.update supervisor.shared.status child now } } := by
  refine ⟨handed.flagged, ?_, fun thread settles => swept (handed.settles thread settles),
    fun thread waits => (handed.waits thread waits).imp_right swept⟩
  intro process published reaped
  refine handed.dead process published ?_
  by_cases same : process = child
  · subst same
    have gone : now = .reaped := by simpa using reaped
    exact absurd published (apart gone)
  · simpa [Function.update_of_ne same] using reaped

section

variable {thread created : ThreadId} {threads : ThreadId → Point}

/-- A thread that is doing something stays where it is in a step of another. -/
theorem Ran.stays (ran : Ran owned supervisor thread created outcome threads) {other : ThreadId}
    (different : other ≠ thread) (active : supervisor.threads other ≠ .idle) :
    threads other = supervisor.threads other := by
  rcases ran.elsewhere other different with same | ⟨idle, -⟩
  · exact same
  · exact absurd idle active

theorem Ran.flagged (ran : Ran owned supervisor thread created outcome threads)
    (handed : Handed supervisor)
    (reaping : (supervisor.shared.apply thread outcome.write).reaping = true) :
    ∃ other, (threads other).flagged = true := by
  by_cases sets : outcome.write = .reaping true
  · exact ⟨thread, by rw [ran.here, (moves_author ran.moves).2.1 sets]⟩
  · have before : supervisor.shared.reaping = true ∧ outcome.write ≠ .reaping false := by
      cases write : outcome.write with
      | reaping value =>
          rw [write] at reaping sets
          cases value with
          | true => exact absurd rfl sets
          | false => cases reaping
      | _ =>
          rw [write] at reaping
          exact ⟨reaping, by simp⟩
    obtain ⟨other, flagged⟩ := handed.flagged before.1
    by_cases this : other = thread
    · subst this
      rcases moves_unflagged ran.moves flagged with still | resets | ⟨first, spawned, flagged⟩
      · exact ⟨other, by rw [ran.here, still]⟩
      · exact absurd resets before.2
      · exact ⟨created, by rw [ran.started first spawned, flagged]⟩
    · refine ⟨other, ?_⟩
      rw [ran.stays this]
      · exact flagged
      · intro idle
        rw [idle] at flagged
        cases flagged

theorem Ran.reaped_dead (ran : Ran owned supervisor thread created outcome threads)
    (unseen : Unseen supervisor) (handed : Handed supervisor) {child : Child}
    (process : (supervisor.shared.apply thread outcome.write).process = some child)
    (reaped : (supervisor.shared.apply thread outcome.write).status child = .reaped) :
    ∃ other, (threads other).dead = some child := by
  by_cases reaps : outcome.write = .reap child
  · exact ⟨thread, by rw [ran.here, (moves_author ran.moves).2.2.1 child reaps]⟩
  by_cases publishes : ∃ process, outcome.write = .publish process
  · obtain ⟨other, publishes⟩ := publishes
    rw [publishes] at process reaped
    cases process
    have fresh := (moves_write ran.moves).1 child publishes
    exact absurd reaped (unseen.fresh thread child fresh).1
  rcases apply_process thread outcome.write (not_exists.mp publishes) with same | ⟨-, cleared⟩
  · rw [same] at process
    rw [apply_status thread outcome.write reaps] at reaped
    · obtain ⟨other, dead⟩ := handed.dead child process reaped
      by_cases this : other = thread
      · subst this
        rw [moves_undead ran.moves dead] at same
        rw [← same] at process
        cases process
      · refine ⟨other, ?_⟩
        rw [ran.stays this]
        · exact dead
        · intro idle
          rw [idle] at dead
          cases dead
    · rintro - rfl
      exact Nat.lt_irrefl _ (unseen.published _ process)
  · rw [cleared] at process
    cases process

theorem Ran.settles (ran : Ran owned supervisor thread created outcome threads)
    (gated : Gated supervisor) (handed : Handed supervisor) {other : ThreadId}
    (settles : (threads other).settles = true) : Swept supervisor := by
  by_cases this : other = thread
  · subst this
    rw [ran.here] at settles
    rcases moves_settles ran.moves settles with before | ⟨holds, late⟩
    · exact handed.settles other before
    · refine swept_of_holder gated (gated.late other late) holds ?_
      by_contra past
      have behind := past_not_late (by simpa using past)
      rw [late] at behind
      cases behind
  · rcases ran.elsewhere other this with same | ⟨-, spawned, -⟩
    · rw [same] at settles
      exact handed.settles other settles
    · rw [(spawned_kinds ran.moves spawned).2.2.2.2.2.2.1] at settles
      cases settles

/-- What a waiting thread may count on: the flag is set in the step, it was set and stays, or
nothing is left to wait for. -/
theorem Ran.waits (ran : Ran owned supervisor thread created outcome threads)
    (handed : Handed supervisor) {other : ThreadId} (waits : (threads other).waits = true) :
    outcome.write = .closeWaiting true ∨
      supervisor.shared.closeWaiting = true ∧ outcome.write ≠ .closeWaiting false ∨
      Swept supervisor := by
  by_cases resets : outcome.write = .closeWaiting false
  · exact .inr (.inr (handed.settles thread ((moves_author ran.moves).1 resets)))
  · by_cases this : other = thread
    · subst this
      rw [ran.here] at waits
      rcases moves_waits ran.moves waits with ⟨waited, -⟩ | sets
      · rcases handed.waits other waited with waiting | swept
        · exact .inr (.inl ⟨waiting, resets⟩)
        · exact .inr (.inr swept)
      · exact .inl sets
    · rcases ran.elsewhere other this with same | ⟨-, spawned, -⟩
      · rw [same] at waits
        rcases handed.waits other waits with waiting | swept
        · exact .inr (.inl ⟨waiting, resets⟩)
        · exact .inr (.inr swept)
      · rw [(spawned_owes ran.moves spawned).2.2] at waits
        cases waits

end

theorem steps_handed (gated : Gated supervisor) (unseen : Unseen supervisor)
    (handed : Handed supervisor) (steps : Steps owned supervisor action following) :
    Handed following := by
  have swept (before : Swept supervisor) : Swept following := steps_swept before steps
  cases steps with
  | childExits child running => exact handed.changed swept nofun
  | collect child exited unreferenced => exact handed.changed swept fun _ => unreferenced
  | run thread choice created outcome threads moves here elsewhere started =>
      have ran : Ran owned supervisor thread created outcome threads :=
        ⟨moves, here, elsewhere, started⟩
      refine ⟨ran.flagged handed, fun _ => ran.reaped_dead unseen handed,
        fun _ settles => swept (ran.settles gated handed settles), ?_⟩
      intro other waits
      change (supervisor.shared.apply thread outcome.write).closeWaiting = true ∨ Swept _
      rcases ran.waits handed waits with sets | ⟨waiting, kept⟩ | swept_before
      · left
        rw [sets]
        rfl
      · exact .inl (apply_waiting thread outcome.write kept waiting)
      · exact .inr (swept swept_before)

/-! ## The duty to release -/

def Retained (supervisor : Supervisor) : Prop :=
  (∀ thread, (supervisor.threads thread).past = false) ∧
    ∃ child, supervisor.shared.process = some child ∧
      supervisor.shared.status child ≠ .reaped

def Owed (supervisor : Supervisor) : Prop :=
  (∃ thread, (supervisor.threads thread).owes = true) ∨ Retained supervisor ∨
    supervisor.shared.closeWaiting = true ∧ ∃ thread, (supervisor.threads thread).serves = true

/-- `encode` cannot create its thread and frees the slot while `_close_waiting` is set, or
the fallback of `close` finds the slot taken and `_close_waiting` reset. -/
def Supervisor.drops (supervisor : Supervisor) : Action → Bool
  | .run thread choice _ =>
      match supervisor.threads thread, choice with
      | .spawning, .fail _ => supervisor.shared.closeWaiting
      | .fallbackAcquire, _ =>
          supervisor.shared.requestLock.isSome && !supervisor.shared.closeWaiting
      | _, _ => false
  | _ => false

def Supervisor.forsaken (supervisor : Supervisor) : Action → Prop
  | .run thread _ _ =>
      supervisor.shared.process = none ∧ ∀ other, other ≠ thread →
        (supervisor.threads other).owes = false ∧
          (supervisor.shared.closeWaiting = true → (supervisor.threads other).serves = false)
  | _ => False

/-- A process behind the closing is retained, or a thread that has waited for it is about
to clear it. -/
theorem retained_or_owed {child : Child} (handed : Handed supervisor)
    (none_past : ∀ thread, (supervisor.threads thread).past = false)
    (process : supervisor.shared.process = some child) :
    Retained supervisor ∨ ∃ thread, (supervisor.threads thread).dead = some child ∧
      (supervisor.threads thread).owes = true := by
  by_cases reaped : supervisor.shared.status child = .reaped
  · obtain ⟨thread, dead⟩ := handed.dead child process reaped
    rcases sample_owes (dead_sample dead) with owes | past
    · exact .inr ⟨thread, dead, owes⟩
    · rw [none_past thread] at past
      cases past
  · exact .inl ⟨none_past, child, process, reaped⟩

/-- Without a thread that owes the release nothing happens to a retained process. -/
theorem steps_retained (closed : supervisor.shared.closed = true)
    (retained : Retained supervisor)
    (nobody : ∀ thread, (supervisor.threads thread).owes = false)
    (steps : Steps owned supervisor action following) : Retained following := by
  have swept := steps_swept ⟨closed, retained.1⟩ steps
  refine ⟨swept.2, ?_⟩
  obtain ⟨none_past, child, process, unreaped⟩ := retained
  cases steps with
  | childExits other running =>
      refine ⟨child, process, ?_⟩
      by_cases same : child = other
      · subst same
        simp
      · simpa [Function.update_of_ne same] using unreaped
  | collect other exited unreferenced =>
      refine ⟨child, process, ?_⟩
      have same : child ≠ other := by
        rintro rfl
        exact unreferenced process
      simpa [Function.update_of_ne same] using unreaped
  | run thread choice created outcome threads moves here elsewhere =>
      have author := moves_write moves
      have unsampled (other : Child) : (supervisor.threads thread).sample ≠ some other := by
        intro sample
        rcases sample_owes sample with owes | past
        · rw [nobody] at owes
          cases owes
        · rw [none_past] at past
          cases past
      have unarmed : (supervisor.threads thread).arming ≠ true := by
        intro arming
        have past := arming_past arming
        rw [none_past] at past
        cases past
      refine ⟨child, ?_, ?_⟩
      · change (supervisor.shared.apply thread outcome.write).process = some child
        have silent (other : Child) : outcome.write ≠ .publish other := fun publishes =>
          unarmed (fresh_arming (author.1 other publishes)).1
        rcases apply_process thread outcome.write silent with same | ⟨clears, -⟩
        · rw [same, process]
        · obtain ⟨other, -, sample⟩ := author.2.1 clears
          exact absurd sample (unsampled other)
      · change (supervisor.shared.apply thread outcome.write).status child ≠ .reaped
        rw [apply_status]
        · exact unreaped
        · exact fun reaps => unsampled child (author.2.2.2.1 child reaps).1
        · exact fun launches => absurd (author.2.2.1 launches).1 unarmed

section

variable {thread created : ThreadId} {choice : Choice} {threads : ThreadId → Point}

/-- A thread that was not idle and has not acted is where it was. -/
theorem stays_behind {other : ThreadId}
    (elsewhere : ∀ other, other ≠ thread → threads other = supervisor.threads other ∨
      supervisor.threads other = .idle ∧ outcome.spawned = some (threads other) ∧
        other = created)
    (different : other ≠ thread) (active : supervisor.threads other ≠ .idle) :
    threads other = supervisor.threads other := by
  rcases elsewhere other different with same | ⟨idle, -⟩
  · exact same
  · exact absurd idle active

theorem owes_active (owes : point.owes = true) : point ≠ .idle := by
  rintro rfl
  cases owes

theorem serves_active (serves : point.serves = true) : point ≠ .idle := by
  rintro rfl
  cases serves

/-- A thread that owes the release takes a step. -/
theorem owing_step (gated : Gated supervisor) (handed : Handed supervisor)
    (closed : supervisor.shared.closed = true)
    (kept : ¬(supervisor.drops (.run thread choice created) = true ∧
      supervisor.forsaken (.run thread choice created)))
    (unreleased : supervisor.threads thread ≠ .releasing)
    (steps : Steps owned supervisor (.run thread choice created) following)
    (owes : (supervisor.threads thread).owes = true) : Owed following := by
  have swept_after (swept : Swept supervisor) : Swept following := steps_swept swept steps
  cases steps with
  | run thread choice created outcome threads moves here elsewhere started =>
      have left {other : ThreadId} (different : other ≠ thread)
          (owes : (supervisor.threads other).owes = true) :
          Owed { shared := supervisor.shared.apply thread outcome.write, threads := threads } := by
        refine .inl ⟨other, ?_⟩
        change (threads other).owes = true
        rw [stays_behind elsewhere different (owes_active owes)]
        exact owes
      have settled {child : Child} (swept : Swept supervisor) (silent : outcome.write = .nothing)
          (undead : (supervisor.threads thread).dead = none)
          (process : supervisor.shared.process = some child) :
          Owed { shared := supervisor.shared.apply thread outcome.write, threads := threads } := by
        rcases retained_or_owed handed swept.2 process with ⟨-, kept_child, kept_process, unreaped⟩ |
          ⟨other, dead, owes⟩
        · have same : supervisor.shared.apply thread outcome.write = supervisor.shared := by
            rw [silent]
            rfl
          refine .inr (.inl ⟨(swept_after swept).2, kept_child, ?_, ?_⟩)
          · change (supervisor.shared.apply thread outcome.write).process = some kept_child
            rw [same, kept_process]
          · change (supervisor.shared.apply thread outcome.write).status kept_child ≠ .reaped
            rw [same]
            exact unreaped
        · refine left ?_ owes
          rintro rfl
          rw [undead] at dead
          cases dead
      rcases moves_owes moves owes with still | ⟨first, spawned, first_owes⟩ | ⟨at_, reaping⟩ |
        ⟨at_, process, silent⟩ | at_ | ⟨at_, held, silent⟩ | ⟨-, opened⟩
      · exact .inl ⟨thread, by rw [← here] at still; exact still⟩
      · exact .inl ⟨created, by rw [← started first spawned] at first_owes; exact first_owes⟩
      · have swept := handed.settles thread (by rw [at_]; rfl)
        obtain ⟨other, flagged⟩ := handed.flagged reaping
        have different : other ≠ thread := by
          rintro rfl
          rw [at_] at flagged
          cases flagged
        rcases flagged_owes flagged with owes | past
        · exact left different owes
        · rw [swept.2 other] at past
          cases past
      · have swept := handed.settles thread (by rw [at_]; rfl)
        obtain ⟨child, process⟩ := Option.ne_none_iff_exists'.mp process
        exact settled swept silent (by rw [at_]; rfl) process
      · exact absurd at_ unreleased
      · by_cases waiting : supervisor.shared.closeWaiting = true
        · obtain ⟨holder, held⟩ := Option.ne_none_iff_exists'.mp held
          have holds := (gated.lock holder).mpr held
          have different : holder ≠ thread := by
            rintro rfl
            rw [at_] at holds
            cases holds
          rcases holds_served holds with owes | serves
          · exact left different owes
          · refine .inr (.inr ⟨?_, holder, ?_⟩)
            · exact apply_waiting thread outcome.write (by simp [silent]) waiting
            · change (threads holder).serves = true
              rw [stays_behind elsewhere different (serves_active serves)]
              exact serves
        · have waits := handed.waits thread (by rw [at_]; rfl)
          have swept := waits.resolve_left waiting
          cases process : supervisor.shared.process with
          | some child => exact settled swept silent (by rw [at_]; rfl) process
          | none =>
              by_contra lost
              refine kept ⟨?_, process, ?_⟩
              · simp [Supervisor.drops, at_, waiting, Option.isSome_iff_ne_none.mpr held]
              · intro other different
                refine ⟨?_, fun set => absurd set waiting⟩
                by_contra owes
                exact lost (left different (by simpa using owes))
      · rw [closed] at opened
        cases opened

/-- Nobody owes the release, but a request is going to look at `_close_waiting`. -/
theorem serving_step (gated : Gated supervisor) (handed : Handed supervisor)
    (kept : ¬(supervisor.drops (.run thread choice created) = true ∧
      supervisor.forsaken (.run thread choice created)))
    (nobody : ∀ other, (supervisor.threads other).owes = false)
    (waiting : supervisor.shared.closeWaiting = true) {other : ThreadId}
    (serves : (supervisor.threads other).serves = true)
    (steps : Steps owned supervisor (.run thread choice created) following) :
    Owed following := by
  have stepped := steps
  cases steps with
  | run thread choice created outcome threads moves here elsewhere started taken =>
      have unset : outcome.write ≠ .closeWaiting false := by
        intro resets
        have owes := owes_of_late (settles_late ((moves_author moves).1 resets))
        rw [nobody] at owes
        cases owes
      have carried {other : ThreadId} (serves : (threads other).serves = true) :
          Owed { shared := supervisor.shared.apply thread outcome.write, threads := threads } :=
        .inr (.inr ⟨apply_waiting thread outcome.write unset waiting, other, serves⟩)
      by_cases this : other = thread
      · subst this
        rcases moves_serves moves serves with still | owes | ⟨-, clear⟩ | ⟨at_, releases⟩
        · exact carried (by rw [here]; exact still)
        · exact .inl ⟨other, by rw [← here] at owes; exact owes⟩
        · rw [waiting] at clear
          cases clear
        · rw [at_] at taken
          obtain ⟨retryable, rfl⟩ := moves_no_thread taken releases
          have swept : Swept supervisor :=
            swept_of_holder gated (gated.waiting waiting) (by rw [at_]; rfl) (by rw [at_]; rfl)
          cases process : supervisor.shared.process with
          | some child =>
              rcases retained_or_owed handed swept.2 process with retained | ⟨owner, -, owes⟩
              · exact .inr (.inl (steps_retained swept.1 retained nobody stepped))
              · rw [nobody] at owes
                cases owes
          | none =>
              by_contra lost
              refine kept ⟨by simp [Supervisor.drops, at_, waiting], process, ?_⟩
              intro servant different
              refine ⟨nobody servant, fun _ => ?_⟩
              by_contra serving
              have serving : (supervisor.threads servant).serves = true := by simpa using serving
              have still : (threads servant).serves = true := by
                rw [stays_behind elsewhere different (serves_active serving)]
                exact serving
              exact lost (carried still)
      · have still : (threads other).serves = true := by
          rw [stays_behind elsewhere this (serves_active serves)]
          exact serves
        exact carried still

end

theorem steps_owed (gated : Gated supervisor) (handed : Handed supervisor)
    (owed : supervisor.shared.closed = true → Owed supervisor)
    (kept : ¬(supervisor.drops action = true ∧ supervisor.forsaken action))
    (unreleased : supervisor.releases action = false)
    (steps : Steps owned supervisor action following)
    (closed : following.shared.closed = true) : Owed following := by
  by_cases before : supervisor.shared.closed = true
  · by_cases someone : ∃ thread, (supervisor.threads thread).owes = true
    · obtain ⟨debtor, owes⟩ := someone
      have stepped := steps
      cases steps with
      | childExits child running => exact .inl ⟨debtor, owes⟩
      | collect child exited unreferenced => exact .inl ⟨debtor, owes⟩
      | run thread choice created outcome threads moves here elsewhere =>
          by_cases this : debtor = thread
          · subst this
            have unreleased : supervisor.threads debtor ≠ .releasing := by
              simpa [Supervisor.releases] using unreleased
            exact owing_step gated handed before kept unreleased stepped owes
          · refine .inl ⟨debtor, ?_⟩
            change (threads debtor).owes = true
            rw [stays_behind elsewhere this (owes_active owes)]
            exact owes
    · have nobody (thread : ThreadId) : (supervisor.threads thread).owes = false := by
        simpa using not_exists.mp someone thread
      rcases owed before with ⟨thread, owes⟩ | retained | ⟨waiting, thread, serves⟩
      · rw [nobody] at owes
        cases owes
      · exact .inr (.inl (steps_retained before retained nobody steps))
      · have stepped := steps
        cases steps with
        | childExits child running => exact .inr (.inr ⟨waiting, thread, serves⟩)
        | collect child exited unreferenced => exact .inr (.inr ⟨waiting, thread, serves⟩)
        | run => exact serving_step gated handed kept nobody waiting serves stepped
  · cases steps with
    | childExits child running => exact absurd closed before
    | collect child exited unreferenced => exact absurd closed before
    | run thread choice created outcome threads moves here elsewhere =>
        rcases closed_of_apply thread outcome.write closed with closed | closes
        · exact absurd closed before
        · refine .inl ⟨thread, ?_⟩
          change (threads thread).owes = true
          rw [here]
          exact (moves_author moves).2.2.2 closes

/-! ## The callbacks -/

/-- Where a callback given to `_when_closed` is: in `_close_callbacks`, with a thread that
runs callbacks, or behind its run. -/
inductive Custodian where
  | pool
  | thread (thread : ThreadId)
  | done
  deriving DecidableEq, Repr

def Point.pending : Point → List CallbackId
  | .runningCallbacks pending => pending
  | _ => []

def Supervisor.stock (supervisor : Supervisor) : Custodian → List CallbackId
  | .pool => supervisor.shared.closeCallbacks
  | .thread thread => (supervisor.threads thread).pending
  | .done => supervisor.shared.ran

def Write.plain : Write → Bool
  | .register | .registerLate | .takeCallbacks | .runCallback _ => false
  | _ => true

theorem apply_plain (shared : Shared) (thread : ThreadId) {write : Write} (plain : write.plain = true) :
    (shared.apply thread write).closeCallbacks = shared.closeCallbacks ∧
      (shared.apply thread write).ran = shared.ran ∧
      (shared.apply thread write).registered = shared.registered ∧
      (shared.apply thread write).ownerReleased = shared.ownerReleased := by
  cases write <;> first | exact ⟨rfl, rfl, rfl, rfl⟩ | cases plain

theorem return_pending (shared : Shared) (back : Return) : (back.point shared).pending = [] :=
  return_forall (fun point => point.pending = []) shared back rfl (fun _ => rfl) rfl rfl rfl rfl

theorem served_pending (request : Request) : request.served.pending = [] := by
  cases request <;> rfl

theorem moves_callbacks (moves : Moves owned shared point outcome) :
    (outcome.write = .register ∧ outcome.point.pending = point.pending ∧
      shared.ownerReleased = false) ∨
    (outcome.write = .registerLate ∧ point.pending = [] ∧
      outcome.point.pending = [shared.registered]) ∨
    (outcome.write = .takeCallbacks ∧ point = .takingCallbacks ∧
      outcome.point.pending = shared.closeCallbacks) ∨
    (∃ callback, outcome.write = .runCallback callback ∧
      point.pending = callback :: outcome.point.pending) ∨
    outcome.write.plain = true ∧ outcome.point.pending = point.pending ∧
      point ≠ .takingCallbacks := by
  cases moves with
  | register unreleased => exact .inl ⟨rfl, rfl, unreleased⟩
  | registerLate => exact .inr (.inl ⟨rfl, rfl, rfl⟩)
  | tookCallbacks => exact .inr (.inr (.inl ⟨rfl, rfl, rfl⟩))
  | ranOne callback rest => exact .inr (.inr (.inr (.inl ⟨callback, rfl, rfl⟩)))
  | terminating phase back outcome moves =>
      right; right; right; right
      cases moves with
      | reaping | nothing | cleared | handedOver | unflagged =>
          exact ⟨rfl, return_pending _ _, by simp⟩
      | _ => exact ⟨rfl, rfl, by simp⟩
  | launchFailed request retry =>
      exact .inr (.inr (.inr (.inr
        ⟨rfl, return_pending shared (.startFailed request retry true), by simp⟩)))
  | hasProcess request | greeted request | greetedOnCpu request =>
      exact .inr (.inr (.inr (.inr ⟨rfl, served_pending request, by simp⟩)))
  | _ => exact .inr (.inr (.inr (.inr ⟨rfl, rfl, by simp⟩)))

theorem moves_release (moves : Moves true shared .releasing outcome) :
    outcome.point = .takingCallbacks := by
  cases moves with
  | released => rfl
  | notOwner other => cases other

theorem moves_take (moves : Moves owned shared .takingCallbacks outcome) :
    outcome.write = .takeCallbacks := by
  cases moves
  rfl

theorem apply_released (thread : ThreadId) (write : Write)
    (released : shared.ownerReleased = true) :
    (shared.apply thread write).ownerReleased = true := by
  cases write <;> first | exact released | rfl

structure Called (owned : Bool) (supervisor : Supervisor) : Prop where
  accounted : Accounted supervisor.stock supervisor.shared.registered
  emptied : supervisor.shared.ownerReleased = true → supervisor.shared.closeCallbacks = []
  released : owned = false → supervisor.shared.ownerReleased = true ∨
    ∃ thread, supervisor.threads thread = .takingCallbacks

theorem accounted_of_stock (thread : ThreadId) {threads : ThreadId → Point} {bound : Nat}
    {target : Custodian → List CallbackId} (accounted : Accounted target bound)
    (pool : target .pool = shared.closeCallbacks) (done : target .done = shared.ran)
    (own : target (.thread thread) = (threads thread).pending)
    (others : ∀ other, other ≠ thread → target (.thread other) = (threads other).pending) :
    Accounted (Supervisor.stock { shared := shared, threads := threads }) bound := by
  have same : Supervisor.stock { shared := shared, threads := threads } = target := by
    funext custodian
    cases custodian with
    | pool => exact pool.symm
    | done => exact done.symm
    | thread other =>
        by_cases same : other = thread
        · subst same
          exact own.symm
        · exact (others other same).symm
  rw [same]
  exact accounted

theorem run_accounted {thread : ThreadId} {threads : ThreadId → Point}
    (accounted : Accounted supervisor.stock supervisor.shared.registered)
    (moves : Moves owned supervisor.shared (supervisor.threads thread) outcome)
    (here : threads thread = outcome.point)
    (away : ∀ other, other ≠ thread →
      (threads other).pending = (supervisor.threads other).pending) :
    Accounted
      (Supervisor.stock
        { shared := supervisor.shared.apply thread outcome.write, threads := threads })
      (supervisor.shared.apply thread outcome.write).registered := by
  have elsewhere (other : ThreadId) (different : other ≠ thread) :
      supervisor.stock (.thread other) = (threads other).pending := (away other different).symm
  have own : supervisor.stock (.thread thread) = (supervisor.threads thread).pending := rfl
  rcases moves_callbacks moves with ⟨write, pending, -⟩ | ⟨write, empty, pending⟩ |
    ⟨write, at_, pending⟩ | ⟨callback, write, pending⟩ | ⟨plain, pending, -⟩
  · rw [write]
    refine accounted_of_stock thread (accounted.issue .pool) ?_ ?_ ?_ ?_
    · rw [Function.update_self]
      rfl
    · rw [Function.update_of_ne (by simp)]
      rfl
    · rw [Function.update_of_ne (by simp), own, here, pending]
    · intro other different
      rw [Function.update_of_ne (by simp), elsewhere other different]
  · rw [write]
    refine accounted_of_stock thread (accounted.issue (.thread thread)) ?_ ?_ ?_ ?_
    · rw [Function.update_of_ne (by simp)]
      rfl
    · rw [Function.update_of_ne (by simp)]
      rfl
    · rw [Function.update_self, own, empty, here, pending]
      rfl
    · intro other different
      rw [Function.update_of_ne (by simpa using different), elsewhere other different]
  · rw [write]
    have idle : (supervisor.threads thread).pending = [] := by
      rw [at_]
      rfl
    have moved := accounted.transfer .pool (.thread thread) (by simp) (List.append_nil _).symm
    refine accounted_of_stock thread moved ?_ ?_ ?_ ?_
    · rw [Function.update_of_ne (by simp), Function.update_self]
      rfl
    · rw [Function.update_of_ne (by simp), Function.update_of_ne (by simp)]
      rfl
    · rw [Function.update_self, own, idle, here, pending]
      rfl
    · intro other different
      rw [Function.update_of_ne (by simpa using different), Function.update_of_ne (by simp),
        elsewhere other different]
  · rw [write]
    have split : supervisor.stock (.thread thread) = [callback] ++ outcome.point.pending := pending
    have moved := accounted.transfer (.thread thread) .done (by simp) split
    refine accounted_of_stock thread moved ?_ ?_ ?_ ?_
    · rw [Function.update_of_ne (by simp), Function.update_of_ne (by simp)]
      rfl
    · rw [Function.update_self]
      rfl
    · rw [Function.update_of_ne (by simp), Function.update_self, here]
    · intro other different
      rw [Function.update_of_ne (by simp), Function.update_of_ne (by simpa using different),
        elsewhere other different]
  · obtain ⟨pool, ran, registered, -⟩ := apply_plain supervisor.shared thread plain
    rw [registered]
    refine accounted_of_stock thread accounted pool.symm ran.symm ?_ elsewhere
    rw [own, here, pending]

theorem steps_called {later : Bool} (called : Called owned supervisor)
    (ends : later = (owned && !supervisor.releases action))
    (steps : Steps owned supervisor action following) : Called later following := by
  cases steps with
  | childExits child running =>
      have same : later = owned := by simpa [Supervisor.releases] using ends
      subst same
      exact ⟨called.accounted, called.emptied, called.released⟩
  | collect child exited unreferenced =>
      have same : later = owned := by simpa [Supervisor.releases] using ends
      subst same
      exact ⟨called.accounted, called.emptied, called.released⟩
  | run thread choice created outcome threads moves here elsewhere started taken =>
      have away (other : ThreadId) (different : other ≠ thread) :
          (threads other).pending = (supervisor.threads other).pending := by
        rcases elsewhere other different with same | ⟨idle, spawned, -⟩
        · rw [same]
        · rcases moves_spawned moves spawned with ⟨child, back, -, first, -⟩ | ⟨-, first, -⟩
          · rw [idle, first]
            rfl
          · rw [idle, first]
            rfl
      refine ⟨run_accounted called.accounted moves here away, ?_, ?_⟩
      · intro released
        change (supervisor.shared.apply thread outcome.write).ownerReleased = true at released
        change (supervisor.shared.apply thread outcome.write).closeCallbacks = []
        rcases moves_callbacks moves with ⟨write, -, unreleased⟩ | ⟨write, -⟩ | ⟨write, -⟩ |
          ⟨callback, write, -⟩ | ⟨plain, -⟩
        · rw [write] at released
          exact absurd released (by simp [Shared.apply, unreleased])
        · rw [write] at released ⊢
          exact called.emptied released
        · rw [write]
          rfl
        · rw [write] at released ⊢
          exact called.emptied released
        · obtain ⟨pool, -, -, same⟩ := apply_plain supervisor.shared thread plain
          rw [same] at released
          rw [pool, called.emptied released]
      · intro unowned
        change (supervisor.shared.apply thread outcome.write).ownerReleased = true ∨
          ∃ other, threads other = .takingCallbacks
        cases owned with
        | true =>
            have at_ : supervisor.threads thread = .releasing := by
              simpa [Supervisor.releases, unowned] using ends
            refine .inr ⟨thread, ?_⟩
            rw [here]
            rw [at_] at moves
            exact moves_release moves
        | false =>
            rcases called.released rfl with released | ⟨other, at_⟩
            · exact .inl (apply_released thread outcome.write released)
            · by_cases this : other = thread
              · subst this
                rw [at_] at moves
                left
                rw [moves_take moves]
                rfl
              · exact .inr ⟨other, by
                  rw [stays_behind elsewhere this (by simp [at_]), at_]⟩

/-! ## Quiescent supervisors -/

/-- Closed, without a running thread, and every process it launched has been reaped. -/
structure Quiescent (supervisor : Supervisor) : Prop where
  closed : supervisor.shared.closed = true
  idle : ∀ thread, supervisor.threads thread = .idle
  reaped : ∀ child, child < supervisor.shared.launched →
    supervisor.shared.status child = .reaped

structure Relayed (owned : Bool) (supervisor : Supervisor) : Prop where
  gated : Gated supervisor
  unseen : Unseen supervisor
  handed : Handed supervisor
  owed : owned = true → supervisor.shared.closed = true → Owed supervisor
  called : Called owned supervisor

theorem fresh_relayed (onCpu : Bool) : Relayed true { shared := Shared.fresh onCpu } where
  gated := (fresh_guarded onCpu).gated
  unseen := by constructor <;> simp [Shared.fresh, Point.sample, Point.fresh]
  handed := by constructor <;> simp [Shared.fresh, Point.settles, Point.waits]
  owed := by simp [Shared.fresh]
  called := by
    have accounted : Accounted (fun _ : Custodian => ([] : List CallbackId)) 0 := .empty
    refine ⟨accounted_of_stock 0 accounted rfl rfl rfl (fun _ _ => rfl), fun _ => rfl, ?_⟩
    intro other
    cases other

theorem steps_relayed {later : Bool} (relayed : Relayed owned supervisor)
    (ends : later = (owned && !supervisor.releases action))
    (kept : owned = true → ¬(supervisor.drops action = true ∧ supervisor.forsaken action))
    (steps : Steps owned supervisor action following) : Relayed later following where
  gated := steps_gated relayed.gated steps
  unseen := steps_unseen relayed.gated relayed.unseen steps
  handed := steps_handed relayed.gated relayed.unseen relayed.handed steps
  owed := by
    intro still closed
    have both : owned = true ∧ supervisor.releases action = false := by
      simpa [still] using ends.symm
    exact steps_owed relayed.gated relayed.handed (relayed.owed both.1) (kept both.1) both.2 steps
      closed
  called := steps_called relayed.called ends steps

theorem Relayed.unowned (relayed : Relayed owned supervisor) (quiescent : Quiescent supervisor) :
    owned = false := by
  by_contra owns
  rcases relayed.owed (by simpa using owns) quiescent.closed with ⟨thread, owes⟩ |
    ⟨-, child, process, unreaped⟩ | ⟨-, thread, serves⟩
  · exact owes_active owes (quiescent.idle thread)
  · exact unreaped (quiescent.reaped child (relayed.unseen.published child process))
  · exact serves_active serves (quiescent.idle thread)

theorem Called.once (called : Called false supervisor)
    (idle : ∀ thread, supervisor.threads thread = .idle) {callback : CallbackId}
    (registered : callback < supervisor.shared.registered) :
    supervisor.shared.ran.count callback = 1 := by
  have released : supervisor.shared.ownerReleased = true := by
    rcases called.released rfl with released | ⟨thread, at_⟩
    · exact released
    · rw [idle thread] at at_
      cases at_
  have others (custodian : Custodian) (different : custodian ≠ .done) :
      supervisor.stock custodian = [] := by
    cases custodian with
    | pool => exact called.emptied released
    | thread thread =>
        change (supervisor.threads thread).pending = []
        rw [idle thread]
        rfl
    | done => exact absurd rfl different
  exact called.accounted.count_one others registered

/-- The owner takes a step that drops the duty to release although nobody else has it. -/
def World.strands (world : World) : WorldAction → Prop
  | .create _ _ => False
  | .act identity action => world.owner = some identity ∧
      ∃ supervisor, world.supervisors identity = some supervisor ∧
        supervisor.drops action = true ∧ supervisor.forsaken action

/-- Every quiescent supervisor has given the ownership back, and each of its callbacks has
been run exactly once. -/
def Released (world : World) : Prop :=
  ∀ identity supervisor, world.supervisors identity = some supervisor → Quiescent supervisor →
    world.owner ≠ some identity ∧
      ∀ callback, callback < supervisor.shared.registered →
        supervisor.shared.ran.count callback = 1

def AllRelayed (world : World) : Prop :=
  ∀ identity supervisor, world.supervisors identity = some supervisor →
    Relayed (decide (world.owner = some identity)) supervisor

theorem step_relayed {world next : World} {action : WorldAction} (relayed : AllRelayed world)
    (kept : ¬world.strands action) (taken : world.step action = some next) :
    AllRelayed next := by
  cases action with
  | create identity onCpu =>
      obtain ⟨⟨free, -⟩, same⟩ := Option.ite_none_right_eq_some.mp taken
      obtain rfl := Option.some.inj same
      intro other supervisor found
      by_cases this : other = identity
      · subst this
        simp only [Function.update_self, Option.some.injEq] at found
        subst found
        rw [decide_eq_true rfl]
        exact fresh_relayed onCpu
      · simp only [Function.update_of_ne this] at found
        have before := relayed other supervisor found
        have different : some identity ≠ some other := by simpa using Ne.symm this
        rw [decide_eq_false different]
        rwa [free, decide_eq_false (by simp)] at before
  | act identity action =>
      obtain ⟨supervisor, found, rest⟩ := Option.bind_eq_some_iff.mp taken
      obtain ⟨following, stepped, same⟩ := Option.bind_eq_some_iff.mp rest
      obtain rfl := Option.some.inj same
      intro other later found_later
      by_cases this : other = identity
      · subst this
        simp only [Function.update_self, Option.some.injEq] at found_later
        subst found_later
        refine steps_relayed (relayed other supervisor found) ?_ ?_ (step_steps stepped)
        · by_cases owner : world.owner = some other <;>
            cases supervisor.releases action <;> simp [owner]
        · intro owner lost
          exact kept ⟨by simpa using owner, supervisor, found, lost⟩
      · simp only [Function.update_of_ne this] at found_later
        have before := relayed other later found_later
        have same : (if decide (world.owner = some identity) && supervisor.releases action then
            none else world.owner) = some other ↔ world.owner = some other := by
          by_cases owner : world.owner = some identity
          · cases supervisor.releases action <;> simp [owner, Ne.symm this]
          · simp [owner]
        simpa only [same] using before

theorem release_never_lost (world : World)
    (reached : Reaches World.step (fun world action => ¬world.strands action) {} world) :
    Released world := by
  have relayed : AllRelayed world := by
    refine reached.invariant AllRelayed (by simp [AllRelayed]) ?_
    intro world action next relayed kept taken
    exact step_relayed relayed kept taken
  intro identity supervisor found quiescent
  have here := relayed identity supervisor found
  have unowned := here.unowned quiescent
  rw [unowned] at here
  exact ⟨by simpa using unowned, fun callback registered =>
    here.called.once quiescent.idle registered⟩

def World.holdsOn (world : World) : WorldAction → Bool
  | .create _ _ => true
  | .act identity action => (world.supervisors identity).all fun supervisor =>
      !supervisor.drops action

theorem holds_on_sound (world : World) (action : WorldAction)
    (holds : world.holdsOn action = true) : ¬world.strands action := by
  cases action with
  | create => exact id
  | act identity action =>
      rintro ⟨-, supervisor, found, drops, -⟩
      simp [World.holdsOn, found, drops] at holds

def closesInOrder : List WorldAction :=
  [.create 0 true, .act 0 (.run 5 .whenClosed 9), .act 0 (.run 0 (.request .start) 9)] ++
    goesOn 0 10 ++ [.act 0 (.run 2 .close 9)] ++ goesOn 2 4 ++ [.act 0 (.childExits 0)] ++
    goesOn 2 9

set_option maxRecDepth 2000 in
theorem closed_in_order_is_released :
    ∃ world supervisor, world.supervisors 0 = some supervisor ∧ Quiescent supervisor ∧
      supervisor.shared.registered = 1 ∧ Released world := by
  have reached := reaches_of_execute_where World.step (fun world action => ¬world.strands action)
    World.holdsOn holds_on_sound {} closesInOrder rfl
  refine ⟨_, _, rfl, ⟨rfl, ?_, ?_⟩, by decide, release_never_lost _ reached⟩
  · intro thread
    match thread with
    | 0 | 1 | 2 | 3 | 4 | 5 => rfl
    | thread + 6 => rfl
  · decide

/-- `close` gives up waiting for a caller of `encode` and cannot create its cleanup thread;
the caller cannot create its own thread either. -/
def closesInVain : List WorldAction :=
  [.create 0 true, .act 0 (.run 0 (.request .encode) 9)] ++ goesOn 0 1 ++
    [.act 0 (.run 2 .close 9)] ++ goesOn 2 1 ++
    [.act 0 (.run 2 (.fail false) 9)] ++ goesOn 2 3 ++
    [.act 0 (.run 2 (.fail false) 9)] ++ goesOn 2 1 ++
    [.act 0 (.run 0 (.fail false) 9)]

theorem waiting_close_is_forgotten :
    ¬ ∀ world, Reaches World.step anyStep {} world → Released world := by
  intro released
  have reached := reaches_of_execute World.step {} closesInVain rfl
  refine (released _ reached 0 _ rfl ⟨rfl, ?_, ?_⟩).1 rfl
  · intro thread
    match thread with
    | 0 | 1 | 2 => rfl
    | thread + 3 => rfl
  · intro child below
    cases below

end HermesCashew.EmbeddingProcess
