import HermesCashew.Transition
import Mathlib.Data.List.Basic
import Mathlib.Logic.Function.Basic

/-!
# The gate of the auxiliary calls

`_BoundedAuxiliaryModel.__call__` for any number of callers and instances. The lock of an
instance is held across the claim of a permit, so it is explicit; a block under the lock of
the global gate is one step. A call counts how often it claimed and released a permit.
-/

namespace HermesCashew.AuxiliaryGate

open HermesCashew.Transition

set_option autoImplicit false

def maxOutstandingAuxiliaryCalls : Int := 4

/-- Where `_finish` stands. -/
inductive Finish where
  | locking
  | releasing
  | signalling
  | ended
  deriving DecidableEq, Repr

inductive Caller where
  | entering
  /-- Holds the instance lock; neither closed nor active. -/
  | claiming
  /-- Holds the instance lock and a permit. -/
  | marking
  | starting
  | finishing (phase : Finish)
  | waiting
  | left
  deriving DecidableEq, Repr

inductive Worker where
  | absent
  | running
  | finishing (phase : Finish)
  deriving DecidableEq, Repr

/-- `finished` and `done` are the variables of one call. -/
structure Call where
  model : Nat
  caller : Caller := .entering
  worker : Worker := .absent
  finished : Bool := false
  done : Bool := false
  claims : Nat := 0
  releases : Nat := 0
  deriving DecidableEq, Repr

/-- `lock` names the call that holds it. -/
structure Model where
  active : Bool := false
  closed : Bool := false
  lock : Option Nat := none
  deriving DecidableEq, Repr

structure World where
  outstanding : Int := 0
  models : Nat → Model := fun _ => {}
  calls : List Call := []

structure View where
  call : Call
  model : Model
  outstanding : Int
  deriving DecidableEq, Repr

/-- One step of `_finish`, wherever it runs. -/
def finishStep (view : View) : Finish → Option (View × Finish)
  | .locking =>
      if view.model.lock = none then
        if view.call.finished then some (view, .ended)
        else some ({ view with
          call := { view.call with finished := true }
          model := { view.model with active := false } }, .releasing)
      else none
  | .releasing => some ({ view with
      outstanding := view.outstanding - 1
      call := { view.call with releases := view.call.releases + 1 } }, .signalling)
  | .signalling => some ({ view with call := { view.call with done := true } }, .ended)
  | .ended => none

def callerStep (index : Nat) (view : View) : Option View :=
  match view.call.caller with
  | .entering =>
      if view.model.lock = none then
        if view.model.closed || view.model.active then
          some { view with call := { view.call with caller := .left } }
        else some { view with
          call := { view.call with caller := .claiming }
          model := { view.model with lock := some index } }
      else none
  | .claiming =>
      if maxOutstandingAuxiliaryCalls ≤ view.outstanding then
        some { view with
          call := { view.call with caller := .left }
          model := { view.model with lock := none } }
      else some { view with
        call := { view.call with caller := .marking, claims := view.call.claims + 1 }
        outstanding := view.outstanding + 1 }
  | .marking => some { view with
      call := { view.call with caller := .starting }
      model := { view.model with active := true, lock := none } }
  | .starting => some { view with
      call := { view.call with caller := .waiting, worker := .running } }
  | .finishing .ended => some { view with call := { view.call with caller := .left } }
  | .finishing phase => (finishStep view phase).map fun (after, next) =>
      { after with call := { after.call with caller := .finishing next } }
  | .waiting =>
      if view.call.done then some { view with call := { view.call with caller := .left } }
      else none
  | .left => none

/-- `worker.start()` raises. -/
def startFails (view : View) : Option View :=
  match view.call.caller with
  | .starting => some { view with call := { view.call with caller := .finishing .locking } }
  | _ => none

def timeout (view : View) : Option View :=
  match view.call.caller with
  | .waiting => some { view with call := { view.call with caller := .left } }
  | _ => none

/-- The backend returns or raises in any case before `_finish`. -/
def workerStep (view : View) : Option View :=
  match view.call.worker with
  | .absent => none
  | .running => some { view with call := { view.call with worker := .finishing .locking } }
  | .finishing phase => (finishStep view phase).map fun (after, next) =>
      { after with call := { after.call with worker := .finishing next } }

inductive Action where
  | call (model : Nat)
  | close (model : Nat)
  | caller (index : Nat)
  | startFails (index : Nat)
  | timeout (index : Nat)
  | worker (index : Nat)
  deriving DecidableEq, Repr

/-- A thread of one call takes a step. -/
def within (world : World) (index : Nat) (advance : View → Option View) : Option World := do
  let call ← world.calls[index]?
  let after ← advance ⟨call, world.models call.model, world.outstanding⟩
  some
    { outstanding := after.outstanding
      models := Function.update world.models call.model after.model
      calls := world.calls.set index after.call }

def step (world : World) : Action → Option World
  | .call model => some { world with calls := world.calls ++ [{ model := model }] }
  | .close model =>
      let object := world.models model
      if object.lock = none then
        some { world with
          models := Function.update world.models model { object with closed := true } }
      else none
  | .caller index => within world index (callerStep index)
  | .startFails index => within world index AuxiliaryGate.startFails
  | .timeout index => within world index AuxiliaryGate.timeout
  | .worker index => within world index workerStep

/-! ## Permits -/

def Finish.marked : Finish → Bool
  | .locking => true
  | _ => false

def Finish.permit : Finish → Bool
  | .locking => true
  | .releasing => true
  | _ => false

def Caller.marked : Caller → Bool
  | .starting => true
  | .finishing phase => phase.marked
  | _ => false

def Caller.permit : Caller → Bool
  | .marking => true
  | .starting => true
  | .finishing phase => phase.permit
  | _ => false

def Worker.marked : Worker → Bool
  | .absent => false
  | .running => true
  | .finishing phase => phase.marked

def Worker.permit : Worker → Bool
  | .absent => false
  | .running => true
  | .finishing phase => phase.permit

/-- `_active` is set for this call. -/
def Call.marked (call : Call) : Bool :=
  call.caller.marked || call.worker.marked

def Call.permit (call : Call) : Bool :=
  call.caller.permit || call.worker.permit

def Caller.holds : Caller → Bool
  | .claiming => true
  | .marking => true
  | _ => false

/-- Before `_active` is set. -/
def Caller.early : Caller → Bool
  | .entering => true
  | .claiming => true
  | .marking => true
  | _ => false

structure Call.Sane (call : Call) : Prop where
  alone : call.caller ≠ .waiting → call.caller ≠ .left → call.worker = .absent
  claimed : call.claims = call.releases + call.permit.toNat
  once : call.claims ≤ 1
  early : call.caller = .entering ∨ call.caller = .claiming → call.claims = 0
  unfinished : call.caller.early = true ∨ call.marked = true → call.finished = false

structure View.Sane (index : Nat) (view : View) : Prop where
  call : view.call.Sane
  locks : view.call.caller.holds = true → view.model.lock = some index
  opened : view.call.caller.holds = true →
    view.model.active = false ∧ view.model.closed = false
  bounded : view.outstanding ≤ maxOutstandingAuxiliaryCalls
  active : view.call.marked = true → view.model.active = true

structure Local (index : Nat) (before after : View) : Prop where
  sane : after.call.Sane
  model : after.call.model = before.call.model
  closed : after.model.closed = before.model.closed
  outstanding : after.outstanding - before.outstanding =
    (after.call.permit.toNat : Int) - before.call.permit.toNat
  bounded : after.outstanding ≤ maxOutstandingAuxiliaryCalls
  active : (after.model.active.toNat : Int) - before.model.active.toNat =
    (after.call.marked.toNat : Int) - before.call.marked.toNat
  lock : after.model.lock = before.model.lock ∧
      after.call.caller.holds = before.call.caller.holds ∨
    before.model.lock = none ∧ after.model.lock = some index ∧
      after.call.caller.holds = true ∨
    before.model.lock = some index ∧ after.model.lock = none ∧
      after.call.caller.holds = false
  opened : after.call.caller.holds = true →
    after.model.active = false ∧ after.model.closed = false
  admitted : before.call.claims < after.call.claims → before.model.closed = false
  released : before.call.releases ≤ after.call.releases
  undisturbed : before.model.lock ≠ some index → after.model.active = true →
    before.model.active = true

/-! ## One step of a thread -/

/-- `_finish` from one phase to the next. -/
structure Finishes (before : View) (phase : Finish) (after : View) (next : Finish) : Prop where
  caller : after.call.caller = before.call.caller
  worker : after.call.worker = before.call.worker
  model : after.call.model = before.call.model
  claims : after.call.claims = before.call.claims
  releases : after.call.releases + next.permit.toNat = before.call.releases + phase.permit.toNat
  unmarked : next.marked = false
  fewer : next.permit = true → phase.permit = true
  closed : after.model.closed = before.model.closed
  lock : after.model.lock = before.model.lock
  outstanding : after.outstanding - before.outstanding =
    (next.permit.toNat : Int) - phase.permit.toNat
  active : (after.model.active.toNat : Int) - before.model.active.toNat =
    (next.marked.toNat : Int) - phase.marked.toNat

section

variable {index : Nat} {before after : View}

theorem finish_step_finishes {phase next : Finish}
    (unfinished : phase.marked = true → before.call.finished = false)
    (active : phase.marked = true → before.model.active = true)
    (taken : finishStep before phase = some (after, next)) :
    Finishes before phase after next := by
  cases phase with
  | locking =>
      simp only [finishStep, unfinished rfl] at taken
      by_cases free : before.model.lock = none
      · rw [if_pos free] at taken
        cases taken
        constructor <;> simp [Finish.permit, Finish.marked, active rfl]
      · rw [if_neg free] at taken
        cases taken
  | releasing =>
      cases taken
      have given : before.outstanding - 1 - before.outstanding = -1 := by omega
      constructor <;> simp [Finish.permit, Finish.marked, given]
  | signalling =>
      cases taken
      constructor <;> simp [Finish.permit, Finish.marked]
  | ended => cases taken

/-- A thread works only behind its caller. -/
theorem View.Sane.behind (sane : before.Sane index) (busy : before.call.worker ≠ .absent) :
    before.call.caller = .waiting ∨ before.call.caller = .left := by
  by_contra other
  simp only [not_or] at other
  exact busy (sane.call.alone other.1 other.2)

theorem to_nat_le {first second : Bool} (implied : first = true → second = true) :
    first.toNat ≤ second.toNat := by
  cases first with
  | false => exact Nat.zero_le _
  | true =>
      exact Nat.le_of_eq (congrArg Bool.toNat (implied rfl)).symm

theorem not_early {caller : Caller} (late : caller.early = false) :
    ¬(caller = .entering ∨ caller = .claiming) := by
  rintro (enters | claims)
  · simp [enters, Caller.early] at late
  · simp [claims, Caller.early] at late

/-- A step of `_finish` by the thread that carries the permit. -/
theorem Finishes.local {phase next : Finish} {later : View} {call : Call}
    (sane : before.Sane index) (finishes : Finishes before phase later next)
    (permit : before.call.permit = phase.permit) (marked : before.call.marked = phase.marked)
    (quiet : before.call.caller.holds = false)
    (kept : call = { later.call with caller := call.caller, worker := call.worker })
    (nextPermit : call.permit = next.permit) (nextMarked : call.marked = next.marked)
    (nextQuiet : call.caller.holds = false)
    (alone : call.caller ≠ .waiting → call.caller ≠ .left → call.worker = .absent)
    (late : call.caller.early = false) :
    Local index before { later with call := call } := by
  have model : call.model = later.call.model := by rw [kept]
  have claims : call.claims = later.call.claims := by rw [kept]
  have releases : call.releases = later.call.releases := by rw [kept]
  have claimed := sane.call.claimed
  have once := sane.call.once
  have accounted := finishes.releases
  have fewer := to_nat_le finishes.fewer
  rw [permit] at claimed
  refine
    { sane := ⟨alone, ?_, ?_, fun early => absurd early (not_early late), ?_⟩
      model := model.trans finishes.model
      closed := finishes.closed
      outstanding := ?_
      bounded := ?_
      active := ?_
      lock := .inl ⟨finishes.lock, nextQuiet.trans quiet.symm⟩
      opened := fun holds => absurd (nextQuiet.symm.trans holds) Bool.false_ne_true
      admitted := ?_
      released := ?_
      undisturbed := ?_ }
  · rw [claims, releases, nextPermit, finishes.claims]
    omega
  · rw [claims, finishes.claims]
    exact once
  · rw [nextMarked, finishes.unmarked, late]
    simp
  · rw [permit, nextPermit]
    exact finishes.outstanding
  · have bounded := sane.bounded
    have change := finishes.outstanding
    change later.outstanding ≤ _
    omega
  · rw [marked, nextMarked]
    exact finishes.active
  · rw [claims, finishes.claims]
    exact fun more => absurd more (Nat.lt_irrefl _)
  · rw [releases]
    omega
  · intro _ active
    have change := finishes.active
    change later.model.active = true at active
    rw [finishes.unmarked, active] at change
    cases was : before.model.active with
    | true => rfl
    | false =>
        rw [was] at change
        simp only [Bool.toNat_true, Bool.toNat_false] at change
        omega

/-- A step that moves the permit and the mark along with the thread. -/
theorem View.Sane.quiet {call : Call} (sane : before.Sane index)
    (kept : call = { before.call with caller := call.caller, worker := call.worker })
    (permit : call.permit = before.call.permit) (marked : call.marked = before.call.marked)
    (quiet : before.call.caller.holds = false) (nextQuiet : call.caller.holds = false)
    (alone : call.caller ≠ .waiting → call.caller ≠ .left → call.worker = .absent)
    (late : call.caller.early = false) :
    Local index before { before with call := call } := by
  have model : call.model = before.call.model := by rw [kept]
  have claims : call.claims = before.call.claims := by rw [kept]
  have releases : call.releases = before.call.releases := by rw [kept]
  have finished : call.finished = before.call.finished := by rw [kept]
  have claimed := sane.call.claimed
  refine
    { sane := ⟨alone, ?_, ?_, fun early => absurd early (not_early late), ?_⟩
      model := model
      closed := rfl
      outstanding := ?_
      bounded := sane.bounded
      active := ?_
      lock := .inl ⟨rfl, nextQuiet.trans quiet.symm⟩
      opened := fun holds => absurd (nextQuiet.symm.trans holds) Bool.false_ne_true
      admitted := ?_
      released := ?_
      undisturbed := fun _ => id }
  · rw [claims, releases, permit]
    exact claimed
  · rw [claims]
    exact sane.call.once
  · rw [marked, finished, late]
    simp only [Bool.false_eq_true, false_or]
    exact fun held => sane.call.unfinished (.inr held)
  · rw [permit, Int.sub_self, Int.sub_self]
  · rw [marked, Int.sub_self, Int.sub_self]
  · rw [claims]
    exact fun more => absurd more (Nat.lt_irrefl _)
  · exact Nat.le_of_eq releases.symm

theorem quiet_of_behind {call : Call} (place : call.caller = .waiting ∨ call.caller = .left) :
    call.caller.holds = false ∧ call.caller.permit = false ∧ call.caller.marked = false ∧
      call.caller.early = false := by
  rcases place with waits | left
  · simp [waits, Caller.holds, Caller.permit, Caller.marked, Caller.early]
  · simp [left, Caller.holds, Caller.permit, Caller.marked, Caller.early]

theorem worker_step_local (sane : before.Sane index) (taken : workerStep before = some after) :
    Local index before after := by
  cases working : before.call.worker with
  | absent => simp [workerStep, working] at taken
  | running =>
      have place := sane.behind (by simp [working])
      obtain ⟨quiet, callerPermit, callerMarked, late⟩ := quiet_of_behind place
      simp only [workerStep, working] at taken
      cases taken
      apply View.Sane.quiet sane
      · rfl
      · simp [Call.permit, working, Worker.permit, Finish.permit]
      · simp [Call.marked, working, Worker.marked, Finish.marked]
      · exact quiet
      · exact quiet
      · intro waits left
        exact absurd place (by simp [waits, left])
      · exact late
  | finishing phase =>
      have place := sane.behind (by simp [working])
      obtain ⟨quiet, callerPermit, callerMarked, late⟩ := quiet_of_behind place
      simp only [workerStep, working] at taken
      obtain ⟨⟨later, next⟩, finished, rfl⟩ := Option.map_eq_some_iff.mp taken
      have marked : before.call.marked = phase.marked := by
        simp [Call.marked, callerMarked, working, Worker.marked]
      have permit : before.call.permit = phase.permit := by
        simp [Call.permit, callerPermit, working, Worker.permit]
      have finishes := finish_step_finishes
        (fun held => sane.call.unfinished (.inr (marked.trans held)))
        (fun held => sane.active (marked.trans held)) finished
      apply Finishes.local sane finishes permit marked quiet
      · rfl
      · simp [Call.permit, finishes.caller, callerPermit, Worker.permit]
      · simp [Call.marked, finishes.caller, callerMarked, Worker.marked]
      · rw [finishes.caller]
        exact quiet
      · intro waits left
        rw [finishes.caller] at waits left
        exact absurd place (by simp [waits, left])
      · rw [finishes.caller]
        exact late

theorem start_fails_local (sane : before.Sane index) (taken : startFails before = some after) :
    Local index before after := by
  unfold startFails at taken
  cases starts : before.call.caller with
  | starting =>
      simp only [starts] at taken
      cases taken
      have absent := sane.call.alone (by simp [starts]) (by simp [starts])
      apply View.Sane.quiet sane
      · rfl
      · simp [Call.permit, starts, Caller.permit, Finish.permit]
      · simp [Call.marked, starts, Caller.marked, Finish.marked]
      · simp [starts, Caller.holds]
      · rfl
      · exact fun _ _ => absent
      · rfl
  | _ => simp [starts] at taken

theorem timeout_local (sane : before.Sane index) (taken : timeout before = some after) :
    Local index before after := by
  unfold timeout at taken
  cases waits : before.call.caller with
  | waiting =>
      simp only [waits] at taken
      cases taken
      apply View.Sane.quiet sane
      · rfl
      · simp [Call.permit, waits, Caller.permit]
      · simp [Call.marked, waits, Caller.marked]
      · simp [waits, Caller.holds]
      · rfl
      · simp
      · rfl
  | _ => simp [waits] at taken

/-- The worker of a call that has not started one is absent. -/
theorem View.Sane.absent (sane : before.Sane index) (waits : before.call.caller ≠ .waiting)
    (left : before.call.caller ≠ .left) :
    before.call.worker = .absent ∧ before.call.permit = before.call.caller.permit ∧
      before.call.marked = before.call.caller.marked := by
  have absent := sane.call.alone waits left
  simp [absent, Call.permit, Call.marked, Worker.permit, Worker.marked]

theorem enter_local (sane : before.Sane index) (enters : before.call.caller = .entering)
    (taken : callerStep index before = some after) : Local index before after := by
  obtain ⟨absent, permit, marked⟩ := sane.absent (by simp [enters]) (by simp [enters])
  simp only [callerStep, enters] at taken
  by_cases free : before.model.lock = none
  · rw [if_pos free] at taken
    by_cases refused : (before.model.closed || before.model.active) = true
    · rw [if_pos refused] at taken
      cases taken
      apply View.Sane.quiet sane
      · rfl
      · simp [Call.permit, enters, Caller.permit]
      · simp [Call.marked, enters, Caller.marked]
      · simp [enters, Caller.holds]
      · rfl
      · simp
      · rfl
    · rw [if_neg refused] at taken
      cases taken
      simp only [Bool.or_eq_true, not_or, Bool.not_eq_true] at refused
      have none_ := sane.call.early (.inl enters)
      have claimed := sane.call.claimed
      have once := sane.call.once
      rw [permit, enters] at claimed
      refine
        { sane := ⟨fun _ _ => absent, ?_, once, fun _ => none_, ?_⟩
          model := rfl
          closed := rfl
          outstanding := ?_
          bounded := sane.bounded
          active := ?_
          lock := .inr (.inl ⟨free, rfl, rfl⟩)
          opened := fun _ => ⟨refused.2, refused.1⟩
          admitted := fun more => absurd more (Nat.lt_irrefl _)
          released := Nat.le_refl _
          undisturbed := fun _ => id }
      · simpa [Call.permit, absent, Worker.permit, Caller.permit] using claimed
      · exact fun _ => sane.call.unfinished (.inl (by simp [enters, Caller.early]))
      · simp [Call.permit, absent, enters, Worker.permit, Caller.permit]
      · simp [Call.marked, absent, enters, Worker.marked, Caller.marked]
  · rw [if_neg free] at taken
    cases taken

theorem claim_local (sane : before.Sane index) (claims : before.call.caller = .claiming)
    (taken : callerStep index before = some after) : Local index before after := by
  obtain ⟨absent, permit, marked⟩ := sane.absent (by simp [claims]) (by simp [claims])
  have holds : before.call.caller.holds = true := by
    rw [claims]
    rfl
  have locked := sane.locks holds
  have opened := sane.opened holds
  have fresh := sane.call.early (.inr claims)
  have claimed := sane.call.claimed
  have none_ : before.call.permit = false := by
    rw [permit, claims]
    rfl
  rw [fresh, none_] at claimed
  simp only [callerStep, claims] at taken
  by_cases capped : maxOutstandingAuxiliaryCalls ≤ before.outstanding
  · rw [if_pos capped] at taken
    cases taken
    refine
      { sane := ⟨fun _ left => absurd rfl left, ?_, ?_, ?_, ?_⟩
        model := rfl
        closed := rfl
        outstanding := ?_
        bounded := sane.bounded
        active := ?_
        lock := .inr (.inr ⟨locked, rfl, rfl⟩)
        opened := fun held => absurd held Bool.false_ne_true
        admitted := fun more => absurd more (Nat.lt_irrefl _)
        released := Nat.le_refl _
        undisturbed := fun _ => id }
    · simpa [Call.permit, absent, Worker.permit, Caller.permit, fresh] using claimed
    · exact sane.call.once
    · simp
    · exact fun _ => sane.call.unfinished (.inl (by simp [claims, Caller.early]))
    · simp [Call.permit, absent, claims, Worker.permit, Caller.permit]
    · simp [Call.marked, absent, claims, Worker.marked, Caller.marked]
  · rw [if_neg capped] at taken
    cases taken
    refine
      { sane := ⟨fun _ _ => absent, ?_, ?_, ?_, ?_⟩
        model := rfl
        closed := rfl
        outstanding := ?_
        bounded := ?_
        active := ?_
        lock := .inl ⟨rfl, by simp [claims, Caller.holds]⟩
        opened := fun _ => opened
        admitted := fun _ => opened.2
        released := Nat.le_refl _
        undisturbed := fun _ => id }
    · simp only [Call.permit, Caller.permit, Bool.true_or, Bool.toNat_true, fresh]
      simp only [Bool.toNat_false] at claimed
      omega
    · simp only [fresh]
      exact Nat.le_refl _
    · simp
    · exact fun _ => sane.call.unfinished (.inl (by simp [claims, Caller.early]))
    · simp only [Call.permit, absent, claims, Worker.permit, Caller.permit, Bool.toNat_true,
        Bool.or_false, Bool.toNat_false]
      omega
    · simp only
      omega
    · simp [Call.marked, absent, claims, Worker.marked, Caller.marked]

theorem mark_local (sane : before.Sane index) (marks : before.call.caller = .marking)
    (taken : callerStep index before = some after) : Local index before after := by
  obtain ⟨absent, permit, marked⟩ := sane.absent (by simp [marks]) (by simp [marks])
  have holds : before.call.caller.holds = true := by
    rw [marks]
    rfl
  have locked := sane.locks holds
  have opened := sane.opened holds
  have claimed := sane.call.claimed
  rw [permit, marks] at claimed
  simp only [callerStep, marks] at taken
  cases taken
  refine
    { sane := ⟨fun _ _ => absent, ?_, sane.call.once, ?_, ?_⟩
      model := rfl
      closed := rfl
      outstanding := ?_
      bounded := sane.bounded
      active := ?_
      lock := .inr (.inr ⟨locked, rfl, rfl⟩)
      opened := fun held => absurd held Bool.false_ne_true
      admitted := fun more => absurd more (Nat.lt_irrefl _)
      released := Nat.le_refl _
      undisturbed := fun free => absurd locked free }
  · simpa [Call.permit, absent, Worker.permit, Caller.permit] using claimed
  · simp
  · exact fun _ => sane.call.unfinished (.inl (by simp [marks, Caller.early]))
  · simp [Call.permit, absent, marks, Worker.permit, Caller.permit]
  · simp [Call.marked, absent, marks, Worker.marked, Caller.marked, opened.1]

theorem finishing_local {phase : Finish} (sane : before.Sane index)
    (place : before.call.caller = .finishing phase) (unfinished : phase ≠ .ended)
    (taken : callerStep index before = some after) : Local index before after := by
  obtain ⟨absent, permit, marked⟩ := sane.absent (by simp [place]) (by simp [place])
  rw [place] at permit marked
  have stepped : (finishStep before phase).map (fun (later, next) =>
      { later with call := { later.call with caller := .finishing next } }) = some after := by
    cases phase with
    | ended => exact absurd rfl unfinished
    | _ => simpa only [callerStep, place] using taken
  obtain ⟨⟨later, next⟩, finished, rfl⟩ := Option.map_eq_some_iff.mp stepped
  have finishes := finish_step_finishes
    (fun held => sane.call.unfinished (.inr (marked.trans held)))
    (fun held => sane.active (marked.trans held)) finished
  apply Finishes.local sane finishes permit marked
  · simp [place, Caller.holds]
  · rfl
  · simp [Call.permit, finishes.worker, absent, Worker.permit, Caller.permit]
  · simp [Call.marked, finishes.worker, absent, Worker.marked, Caller.marked]
  · rfl
  · exact fun _ _ => finishes.worker.trans absent
  · rfl

theorem caller_step_local (sane : before.Sane index)
    (taken : callerStep index before = some after) : Local index before after := by
  cases place : before.call.caller with
  | entering => exact enter_local sane place taken
  | claiming => exact claim_local sane place taken
  | marking => exact mark_local sane place taken
  | starting =>
      obtain ⟨absent, permit, marked⟩ := sane.absent (by simp [place]) (by simp [place])
      simp only [callerStep, place] at taken
      cases taken
      apply View.Sane.quiet sane
      · rfl
      · simp [Call.permit, place, Caller.permit, Worker.permit]
      · simp [Call.marked, place, Caller.marked, Worker.marked]
      · simp [place, Caller.holds]
      · rfl
      · simp
      · rfl
  | finishing phase =>
      obtain ⟨absent, permit, marked⟩ := sane.absent (by simp [place]) (by simp [place])
      rw [place] at permit marked
      cases phase with
      | ended =>
          simp only [callerStep, place] at taken
          cases taken
          apply View.Sane.quiet sane
          · rfl
          · simp [Call.permit, absent, place, Caller.permit, Worker.permit, Finish.permit]
          · simp [Call.marked, absent, place, Caller.marked, Worker.marked, Finish.marked]
          · simp [place, Caller.holds]
          · rfl
          · simp
          · rfl
      | locking => exact finishing_local sane place (by simp) taken
      | releasing => exact finishing_local sane place (by simp) taken
      | signalling => exact finishing_local sane place (by simp) taken
  | waiting =>
      simp only [callerStep, place] at taken
      by_cases signalled : before.call.done = true
      · rw [if_pos signalled] at taken
        cases taken
        apply View.Sane.quiet sane
        · rfl
        · simp [Call.permit, place, Caller.permit]
        · simp [Call.marked, place, Caller.marked]
        · simp [place, Caller.holds]
        · rfl
        · simp
        · rfl
      · rw [if_neg signalled] at taken
        cases taken
  | left => simp [callerStep, place] at taken

end

end HermesCashew.AuxiliaryGate
