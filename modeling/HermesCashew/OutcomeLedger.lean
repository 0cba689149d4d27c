import Mathlib.Data.List.Induction

/-!
# The outcome ledger

`health.py` keeps one `OutcomeLedger` for each lifecycle generation. `pending`
counts queued work and `inFlight` counts work removed by the worker; together
they are the part of the accepted work that has no outcome yet. Every decrement
of the source is guarded (`if self.pending: self.pending -= 1`), so a caller that
is out of step would go unnoticed: `LedgerCall.GuardHolds` says when the guard
had nothing to save.
-/

namespace HermesCashew

set_option autoImplicit false

structure OutcomeLedger where
  accepted : Nat := 0
  completed : Nat := 0
  failed : Nat := 0
  partialWork : Nat := 0
  uncertain : Nat := 0
  dropped : Nat := 0
  rejected : Nat := 0
  pending : Nat := 0
  inFlight : Nat := 0
  queryCompleted : Nat := 0
  queryFailed : Nat := 0
  queryEmpty : Nat := 0
  extractCompleted : Nat := 0
  extractFailed : Nat := 0
  extractEmpty : Nat := 0
  deriving DecidableEq, Repr

inductive Tool where
  | cashewQuery
  | cashewExtract
  deriving DecidableEq, Repr

namespace OutcomeLedger

def admitWork (ledger : OutcomeLedger) : OutcomeLedger :=
  { ledger with
    accepted := ledger.accepted + 1
    pending := ledger.pending + 1 }

def reject (ledger : OutcomeLedger) : OutcomeLedger :=
  { ledger with rejected := ledger.rejected + 1 }

-- `if self.pending: self.pending -= 1` is truncated subtraction.
def start (ledger : OutcomeLedger) : OutcomeLedger :=
  { ledger with
    pending := ledger.pending - 1
    inFlight := ledger.inFlight + 1 }

def complete (ledger : OutcomeLedger) : OutcomeLedger :=
  { ledger with
    inFlight := ledger.inFlight - 1
    completed := ledger.completed + 1 }

def fail (ledger : OutcomeLedger) (partly unclear : Bool) : OutcomeLedger :=
  let settled := { ledger with inFlight := ledger.inFlight - 1 }
  if partly then { settled with partialWork := settled.partialWork + 1 }
  else if unclear then { settled with uncertain := settled.uncertain + 1 }
  else { settled with failed := settled.failed + 1 }

def dropPending (ledger : OutcomeLedger) : OutcomeLedger :=
  { ledger with
    pending := ledger.pending - 1
    dropped := ledger.dropped + 1 }

def dropInFlight (ledger : OutcomeLedger) : OutcomeLedger :=
  { ledger with
    inFlight := ledger.inFlight - 1
    dropped := ledger.dropped + 1 }

def rejectInFlight (ledger : OutcomeLedger) : OutcomeLedger :=
  { ledger with
    inFlight := ledger.inFlight - 1
    accepted := ledger.accepted - 1
    rejected := ledger.rejected + 1 }

def recordTool (ledger : OutcomeLedger) (tool : Tool) (success empty : Bool) :
    OutcomeLedger :=
  match tool with
  | .cashewQuery =>
      if success then
        { ledger with
          queryCompleted := ledger.queryCompleted + 1
          queryEmpty := ledger.queryEmpty + (if empty then 1 else 0) }
      else { ledger with queryFailed := ledger.queryFailed + 1 }
  | .cashewExtract =>
      if success then
        { ledger with
          extractCompleted := ledger.extractCompleted + 1
          extractEmpty := ledger.extractEmpty + (if empty then 1 else 0) }
      else { ledger with extractFailed := ledger.extractFailed + 1 }

/-- The `reconciled` entry of `work_snapshot`. -/
def reconciled (ledger : OutcomeLedger) : Bool :=
  ledger.accepted ==
    ledger.completed + ledger.failed + ledger.partialWork + ledger.uncertain +
      ledger.dropped + ledger.pending + ledger.inFlight

end OutcomeLedger

/-- `work_snapshot`: the terminal states `partial` and `uncertain` are shown
only once work exists. -/
structure WorkSnapshot where
  accepted : Nat
  completed : Nat
  failed : Nat
  dropped : Nat
  rejected : Nat
  pending : Nat
  inFlight : Nat
  reconciled : Bool
  terminal : Option (Nat × Nat)
  deriving DecidableEq, Repr

def OutcomeLedger.workSnapshot (ledger : OutcomeLedger) : WorkSnapshot where
  accepted := ledger.accepted
  completed := ledger.completed
  failed := ledger.failed
  dropped := ledger.dropped
  rejected := ledger.rejected
  pending := ledger.pending
  inFlight := ledger.inFlight
  reconciled := ledger.reconciled
  terminal :=
    if ledger.accepted ≠ 0 ∨ ledger.partialWork ≠ 0 ∨ ledger.uncertain ≠ 0 then
      some (ledger.partialWork, ledger.uncertain)
    else none

inductive LedgerCall where
  | admitWork
  | reject
  | start
  | complete
  | fail (partly unclear : Bool)
  | dropPending
  | dropInFlight
  | rejectInFlight
  deriving DecidableEq, Repr

namespace LedgerCall

def apply : LedgerCall → OutcomeLedger → OutcomeLedger
  | .admitWork, ledger => ledger.admitWork
  | .reject, ledger => ledger.reject
  | .start, ledger => ledger.start
  | .complete, ledger => ledger.complete
  | .fail partly unclear, ledger => ledger.fail partly unclear
  | .dropPending, ledger => ledger.dropPending
  | .dropInFlight, ledger => ledger.dropInFlight
  | .rejectInFlight, ledger => ledger.rejectInFlight

def GuardHolds : LedgerCall → OutcomeLedger → Prop
  | .admitWork, _ | .reject, _ => True
  | .start, ledger | .dropPending, ledger => 0 < ledger.pending
  | .complete, ledger | .fail _ _, ledger | .dropInFlight, ledger =>
      0 < ledger.inFlight
  | .rejectInFlight, ledger => 0 < ledger.inFlight ∧ 0 < ledger.accepted

end LedgerCall

def replay (journal : List LedgerCall) : OutcomeLedger :=
  journal.foldl (fun ledger call => call.apply ledger) {}

def NoGuardSaves (journal : List LedgerCall) : Prop :=
  ∀ before call after, journal = before ++ call :: after →
    call.GuardHolds (replay before)

theorem replay_concat (journal : List LedgerCall) (call : LedgerCall) :
    replay (journal ++ [call]) = call.apply (replay journal) := by
  simp [replay]

theorem no_guard_saves_nil : NoGuardSaves [] := by
  intro before call after split
  simp at split

theorem no_guard_saves_concat (journal : List LedgerCall) (call : LedgerCall)
    (earlier : NoGuardSaves journal) (guarded : call.GuardHolds (replay journal)) :
    NoGuardSaves (journal ++ [call]) := by
  intro before other after split
  rcases List.eq_nil_or_concat after with rfl | ⟨front, last, rfl⟩
  · obtain ⟨rfl, same⟩ := List.append_inj' split rfl
    obtain rfl : call = other := by simpa using same
    exact guarded
  · have regrouped : journal ++ [call] = (before ++ other :: front) ++ [last] := by
      simpa using split
    exact earlier before other front (List.append_inj' regrouped rfl).1

/-- A call whose guards hold keeps the books balanced. Only `rejectInFlight`
needs the guard on `accepted`, since it un-counts an acceptance. -/
theorem LedgerCall.reconciled_apply (call : LedgerCall) (ledger : OutcomeLedger)
    (balanced : ledger.reconciled = true) (guarded : call.GuardHolds ledger) :
    (call.apply ledger).reconciled = true := by
  simp only [OutcomeLedger.reconciled, beq_iff_eq] at balanced ⊢
  cases call with
  | admitWork =>
      simp only [apply, OutcomeLedger.admitWork]
      omega
  | reject => simpa only [apply, OutcomeLedger.reject] using balanced
  | start =>
      simp only [GuardHolds] at guarded
      simp only [apply, OutcomeLedger.start]
      omega
  | complete =>
      simp only [GuardHolds] at guarded
      simp only [apply, OutcomeLedger.complete]
      omega
  | fail partly unclear =>
      simp only [GuardHolds] at guarded
      simp only [apply, OutcomeLedger.fail]
      split_ifs <;> simp only <;> omega
  | dropPending =>
      simp only [GuardHolds] at guarded
      simp only [apply, OutcomeLedger.dropPending]
      omega
  | dropInFlight =>
      simp only [GuardHolds] at guarded
      simp only [apply, OutcomeLedger.dropInFlight]
      omega
  | rejectInFlight =>
      simp only [GuardHolds] at guarded
      simp only [apply, OutcomeLedger.rejectInFlight]
      omega

/-- A journal in which no guard saves a decrement always reconciles. -/
theorem reconciled_replay (journal : List LedgerCall)
    (guarded : NoGuardSaves journal) : (replay journal).reconciled = true := by
  induction journal using List.reverseRecOn with
  | nil => rfl
  | append_singleton front call ih =>
      have earlier : NoGuardSaves front := by
        intro before other after split
        exact guarded before other (after ++ [call]) (by simp [split])
      rw [replay_concat]
      exact call.reconciled_apply _ (ih earlier) (guarded front call [] rfl)

end HermesCashew
