import Mathlib.Data.List.Basic

/-!
# Operational health

The vocabulary of `_set_health_locked`: the state, the reason code, the fallback,
the cron state and the last error that a provider reports for its generation.
-/

namespace HermesCashew

set_option autoImplicit false

inductive HealthState where
  | unconfigured
  | initializing
  | ready
  | degraded
  | stopping
  | stopped
  | failed
  deriving DecidableEq, Repr

inductive HealthReason where
  | notInitialized
  | initializing
  | identityUnresolved
  | vectorUnavailable
  | cronUnavailable
  | cronRegistrationFailed
  | modelUnavailable
  | backendError
  | initializationCancelled
  | dependencyMissing
  | configInvalid
  | storageError
  | initializationFailed
  | shutdownRequested
  | workerTimeout
  | embeddingShutdown
  | shutdownComplete
  deriving DecidableEq, Repr

inductive Fallback where
  | absent
  | keyword
  deriving DecidableEq, Repr

inductive CronState where
  | disabled
  | registered
  | unavailable
  | failed
  deriving DecidableEq, Repr

/-- `_SAFE_ERROR_CLASSES`. -/
def safeErrorClasses : List String :=
  ["Exception", "ImportError", "KeyError", "OSError", "OperationalError",
    "RuntimeError", "TimeoutError", "TypeError", "ValueError"]

/-- `safe_error_class`, on the name of the class. -/
def safeErrorClass (name : String) : String :=
  if name ∈ safeErrorClasses then name else "Exception"

/-- The recorded error: its code (`provider_error` when there is no reason) and
its allowlisted class. -/
structure LastError where
  code : Option HealthReason
  errorClass : String
  deriving DecidableEq, Repr

structure Health where
  state : HealthState := .unconfigured
  reason : Option HealthReason := some .notInitialized
  fallback : Fallback := .absent
  cron : CronState := .disabled
  lastError : Option LastError := none
  deriving DecidableEq, Repr

/-- `_set_health_locked`. Without an error, four of the states clear the last
one. -/
def Health.set (health : Health) (state : HealthState) (reason : Option HealthReason)
    (fallback : Option Fallback) (cron : Option CronState) (error : Option String) :
    Health where
  state := state
  reason := reason
  fallback := fallback.getD health.fallback
  cron := cron.getD health.cron
  lastError :=
    match error with
    | some name => some { code := reason, errorClass := safeErrorClass name }
    | none =>
        if state ∈ [HealthState.ready, .degraded, .stopped, .unconfigured] then none
        else health.lastError

/-- The states that no operation may leave. -/
def HealthState.closing : HealthState → Bool
  | .stopping | .stopped => true
  | _ => false

end HermesCashew
