import HermesCashew.Health
import HermesCashew.SyncQueue
import Mathlib.Data.List.Infix

/-!
# Processing one turn

`_drain_once` and the handlers of `_worker_loop` around it, up to what each
called function does. Which ledger call a failure ends in depends on the order of
the `except` clauses: `OperationAdmissionError` is a `RuntimeError`, so the clause
for `RuntimeError` sees it first.
-/

namespace HermesCashew.DrainOnce

open HermesCashew.SyncQueue

set_option autoImplicit false

inductive ExceptionClass where
  | exception
  | runtimeError
  | operationAdmissionError
  | derived (name : String) (base : ExceptionClass)
  deriving DecidableEq, Repr

def ExceptionClass.name : ExceptionClass → String
  | .exception => "Exception"
  | .runtimeError => "RuntimeError"
  | .operationAdmissionError => "OperationAdmissionError"
  | .derived name _ => name

/-- `issubclass`. -/
def ExceptionClass.isA : ExceptionClass → ExceptionClass → Bool
  | .exception, other => other == .exception
  | .runtimeError, other => other == .runtimeError || other == .exception
  | .operationAdmissionError, other =>
      other == .operationAdmissionError || other == .runtimeError || other == .exception
  | .derived name base, other => other == .derived name base || base.isA other

/-- An exception raised by one of the functions that `_drain_once` calls. -/
structure Raised where
  errorClass : ExceptionClass
  message : String
  deriving DecidableEq, Repr

/-- An exception that leaves `_drain_once`. The two private classes are raised
nowhere else. -/
inductive Thrown where
  | raised (error : Raised)
  | preAdmissionRejected
  | opaqueUpstream (partly : Bool)
  deriving DecidableEq, Repr

def Thrown.isRuntimeError : Thrown → Bool
  | .raised error => error.errorClass.isA .runtimeError
  | .preAdmissionRejected | .opaqueUpstream _ => true

def Thrown.isOperationAdmissionError : Thrown → Bool
  | .raised error => error.errorClass.isA .operationAdmissionError
  | .preAdmissionRejected | .opaqueUpstream _ => false

def Thrown.message : Thrown → String
  | .raised error => error.message
  | .preAdmissionRejected => ""
  | .opaqueUpstream _ => "upstream persistence outcome is not replayable"

def Thrown.className : Thrown → String
  | .raised error => error.errorClass.name
  | .preAdmissionRejected => "_PreAdmissionRejectedError"
  | .opaqueUpstream _ => "_OpaqueUpstreamError"

/-- `"can't register atexit after shutdown" in text`. -/
def interpreterFinalizing (text : String) : Bool :=
  decide ("can't register atexit after shutdown".toList <:+: text.toList)

inductive EndSession where
  | returned (wellFormed : Bool)
  | raised (error : Raised)
  deriving DecidableEq, Repr

/-- What every call of `_drain_once` does for this turn, in program order. The
first four may raise before `end_session` is called: the checks of
`_operation_admission`, the lease of `admit_operation` with its deadline, and
the two calls of `_validate_runtime_identity`. -/
structure Calls where
  importSession : Option Raised := none
  admissionChecks : Option Raised := none
  lease : Option Raised := none
  validateOnAdmission : Option Raised := none
  validateAgain : Option Raised := none
  nodesBefore : Option Nat := none
  endSession : EndSession := .returned true
  nodesAfter : Option Nat := none
  releaseLease : Option Raised := none
  thinkCycle : Option Raised := none
  deriving DecidableEq, Repr

/-- How `_drain_once` ends, whether it called `end_session`, and the
interpreter-finalization flag it leaves. -/
structure Drained where
  calledEndSession : Bool
  shutdownFlag : Bool
  result : Except Thrown Bool

def Calls.visiblePrefix (calls : Calls) : Bool :=
  match calls.nodesBefore, calls.nodesAfter with
  | some before, some after => before < after
  | _, _ => false

/-- The `try` around `end_session`. A malformed result is raised and caught by
the same handler. -/
def endSessionBody (calls : Calls) : Except Thrown Unit :=
  match calls.endSession with
  | .returned true => .ok ()
  | .returned false => .error (.opaqueUpstream calls.visiblePrefix)
  | .raised error =>
      if error.errorClass.isA .runtimeError && interpreterFinalizing error.message then
        .error (.raised error)
      else .error (.opaqueUpstream calls.visiblePrefix)

/-- The body of `with self._operation_admission()`, and whether `end_session`
was called in it. -/
def admittedBody (calls : Calls) : Bool × Except Thrown Unit :=
  match calls.validateOnAdmission with
  | some error => (false, .error (.raised error))
  | none =>
      match calls.validateAgain with
      | some error => (false, .error (.raised error))
      | none => (true, endSessionBody calls)

/-- The whole `with` statement: an exception while releasing the lease replaces
the outcome of the body. -/
def operationAdmission (calls : Calls) : Bool × Except Thrown Unit :=
  match calls.admissionChecks with
  | some error => (false, .error (.raised error))
  | none =>
      match calls.lease with
      | some error => (false, .error (.raised error))
      | none =>
          match calls.releaseLease with
          | some error => ((admittedBody calls).1, .error (.raised error))
          | none => admittedBody calls

/-- The `except` clauses of `_drain_once`, in the order of the source. -/
def handle (thrown : Thrown) (shutdownFlag : Bool) : Bool × Except Thrown Bool :=
  if thrown.isRuntimeError then
    if interpreterFinalizing thrown.message then (true, .ok false)
    else (shutdownFlag, .error thrown)
  else if thrown.isOperationAdmissionError then
    (shutdownFlag, .error .preAdmissionRejected)
  else (shutdownFlag, .error thrown)

def drainOnce (calls : Calls) (shutdownFlag identityReady : Bool) : Drained :=
  match calls.importSession with
  | some error => ⟨false, shutdownFlag, .error (.raised error)⟩
  | none =>
      if shutdownFlag || !identityReady then ⟨false, shutdownFlag, .ok false⟩
      else
        match operationAdmission calls with
        | (called, .error thrown) =>
            let (flag, result) := handle thrown shutdownFlag
            ⟨called, flag, result⟩
        | (called, .ok ()) =>
            match calls.thinkCycle with
            | some error => ⟨called, shutdownFlag, .error (.raised error)⟩
            | none => ⟨called, shutdownFlag, .ok true⟩

/-- The `except` clauses of `_worker_loop`. -/
def outcomeOf : Except Thrown Bool → DrainOutcome
  | .ok completed => if completed then .completed else .dropped
  | .error .preAdmissionRejected => .rejected
  | .error (.opaqueUpstream partly) => .raised (some partly)
  | .error (.raised _) => .raised none

/-- The provider fields that the accounting of a turn reads and writes. -/
structure Provider where
  ledger : OutcomeLedger
  health : Health
  shutdownStarted : Bool
  shutdownFlag : Bool
  identityReady : Bool
  deriving DecidableEq, Repr

/-- `_fail_worker_turn` publishes the failure unless shutdown owns the health. -/
def Provider.healthAfter (provider : Provider) (result : Except Thrown Bool) : Health :=
  match result with
  | .ok _ | .error .preAdmissionRejected => provider.health
  | .error thrown =>
      if !provider.shutdownStarted && !provider.health.state.closing then
        provider.health.set .degraded (some .backendError) none none
          (some thrown.className)
      else provider.health

/-- One turn of `_worker_loop`, from `ledger.start()` to its outcome. -/
def processTurn (provider : Provider) (calls : Calls) : Provider :=
  let drained := drainOnce calls provider.shutdownFlag provider.identityReady
  { provider with
    ledger := (outcomeOf drained.result).ledgerCall.apply provider.ledger.start
    health := provider.healthAfter drained.result
    shutdownFlag := drained.shutdownFlag }

/-! ## Who is rejected -/

/-- The first exception before `end_session`, if the turn gets to admission. -/
def Calls.firstRaised (calls : Calls) : Option Raised :=
  calls.admissionChecks <|> calls.lease <|> calls.validateOnAdmission <|>
    calls.validateAgain

/-- An `OperationAdmissionError` is raised before `end_session` is called. -/
def RaisesAdmissionError (provider : Provider) (calls : Calls) : Prop :=
  calls.importSession = none ∧ provider.shutdownFlag = false ∧
    provider.identityReady = true ∧
    ∃ error, calls.firstRaised = some error ∧
      error.errorClass.isA .operationAdmissionError = true

/-- Rejection is what the accounting of a turn should call exactly the failures
before admission. -/
structure AccountsRejection (provider : Provider) (calls : Calls) : Prop where
  rejected : RaisesAdmissionError provider calls →
    (processTurn provider calls).ledger = provider.ledger.start.rejectInFlight ∧
      (processTurn provider calls).health = provider.health
  onlyThen : (drainOnce calls provider.shutdownFlag
      provider.identityReady).calledEndSession = true →
    (processTurn provider calls).ledger.rejected = provider.ledger.rejected

theorem admission_error_is_runtime_error (errorClass : ExceptionClass)
    (isAdmission : errorClass.isA .operationAdmissionError = true) :
    errorClass.isA .runtimeError = true := by
  induction errorClass with
  | exception | runtimeError | operationAdmissionError =>
      simp [ExceptionClass.isA] at isAdmission ⊢
  | derived name base ih =>
      simp only [ExceptionClass.isA, Bool.or_eq_true, beq_iff_eq, reduceCtorEq,
        false_or] at isAdmission ⊢
      exact ih isAdmission

/-- The second clause of `_drain_once` is dead: what it would match has already
been re-raised by the first. -/
theorem handle_never_rejects (thrown : Thrown) (shutdownFlag : Bool)
    (foreign : thrown ≠ .preAdmissionRejected) :
    (handle thrown shutdownFlag).2 ≠ .error .preAdmissionRejected := by
  cases thrown with
  | preAdmissionRejected => exact absurd rfl foreign
  | opaqueUpstream partly =>
      simp only [handle, Thrown.isRuntimeError, if_true]
      split_ifs <;> simp
  | raised error =>
      by_cases runtime : error.errorClass.isA .runtimeError = true
      · simp only [handle, Thrown.isRuntimeError, runtime, if_true]
        split_ifs <;> simp
      · have notAdmission : error.errorClass.isA .operationAdmissionError = false := by
          by_contra admission
          exact runtime (admission_error_is_runtime_error _ (by simpa using admission))
        simp [handle, Thrown.isRuntimeError, Thrown.isOperationAdmissionError, runtime,
          notAdmission]

theorem operation_admission_foreign (calls : Calls) (thrown : Thrown)
    (failed : (operationAdmission calls).2 = .error thrown) :
    thrown ≠ .preAdmissionRejected := by
  rintro rfl
  unfold operationAdmission admittedBody endSessionBody at failed
  grind

theorem drain_once_never_rejects (calls : Calls) (shutdownFlag identityReady : Bool) :
    (drainOnce calls shutdownFlag identityReady).result ≠
      .error .preAdmissionRejected := by
  unfold drainOnce
  split
  · simp
  · split
    · simp
    · split
      · rename_i called thrown failed
        have foreign := operation_admission_foreign calls thrown (by rw [failed])
        exact handle_never_rejects thrown shutdownFlag foreign
      · split <;> simp

/-- No outcome but `rejected` moves the `rejected` counter. -/
theorem outcome_call_rejected (outcome : DrainOutcome) (ledger : OutcomeLedger)
    (other : outcome ≠ .rejected) :
    (outcome.ledgerCall.apply ledger).rejected = ledger.rejected := by
  cases outcome with
  | rejected => exact absurd rfl other
  | completed | dropped => rfl
  | raised upstream =>
      simp only [DrainOutcome.ledgerCall, LedgerCall.apply, OutcomeLedger.fail]
      split_ifs <;> rfl

theorem process_turn_rejected (provider : Provider) (calls : Calls) :
    (processTurn provider calls).ledger.rejected = provider.ledger.rejected := by
  refine outcome_call_rejected _ provider.ledger.start ?_
  have never := drain_once_never_rejects calls provider.shutdownFlag provider.identityReady
  revert never
  generalize (drainOnce calls provider.shutdownFlag provider.identityReady).result = result
  intro never rejected
  cases result with
  | ok completed => cases completed <;> simp [outcomeOf] at rejected
  | error thrown =>
      cases thrown with
      | preAdmissionRejected => exact never rfl
      | opaqueUpstream partly => simp [outcomeOf] at rejected
      | raised error => simp [outcomeOf] at rejected

/-- The accounting meets the rule exactly on the turns that raise no
`OperationAdmissionError` before `end_session`: no such turn is ever accounted as
rejected. -/
theorem accounts_rejection_iff (provider : Provider) (calls : Calls) :
    AccountsRejection provider calls ↔ ¬RaisesAdmissionError provider calls := by
  constructor
  · intro accounts raises
    have ledger := (accounts.rejected raises).1
    have counted := process_turn_rejected provider calls
    rw [ledger] at counted
    simp [OutcomeLedger.rejectInFlight, OutcomeLedger.start] at counted
  · intro none
    exact ⟨fun raises => absurd raises none,
      fun _ => process_turn_rejected provider calls⟩

/-- The lease deadline of `admit_operation` passes before the turn is admitted. -/
def contendedCalls : Calls :=
  { lease := some
      { errorClass := .operationAdmissionError
        message := "operation admission deadline exceeded" } }

def healthyProvider : Provider where
  ledger := { accepted := 1, pending := 1 }
  health := { state := .ready, reason := none }
  shutdownStarted := false
  shutdownFlag := false
  identityReady := true

/-- The contended turn is booked as failed and health reports a backend error. -/
theorem contended_turn_booked_as_failure :
    RaisesAdmissionError healthyProvider contendedCalls ∧
      (processTurn healthyProvider contendedCalls).ledger.failed = 1 ∧
      (processTurn healthyProvider contendedCalls).ledger.rejected = 0 ∧
      (processTurn healthyProvider contendedCalls).health.reason =
        some .backendError ∧
      ¬AccountsRejection healthyProvider contendedCalls := by
  have raises : RaisesAdmissionError healthyProvider contendedCalls :=
    ⟨rfl, rfl, rfl, _, rfl, rfl⟩
  have failed : (processTurn healthyProvider contendedCalls).ledger.failed = 1 := by
    decide
  refine ⟨raises, failed, by decide, by decide, fun accounts => ?_⟩
  have ledger := (accounts.rejected raises).1
  rw [ledger] at failed
  simp [healthyProvider, OutcomeLedger.rejectInFlight, OutcomeLedger.start] at failed

end HermesCashew.DrainOnce
