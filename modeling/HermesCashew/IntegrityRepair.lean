import HermesCashew.Raising
import HermesCashew.PythonInt

/-!
# The operator's repair

`_apply_profile_repairs` with the transaction, the backup and the admission lease it works
under. The functions of upstream, the lock files and SQLite answer as the world says. Every
operation leaves a moment behind: whether the write transaction is open, and whether the
exclusive lease of the graph is held.
-/

namespace HermesCashew.IntegrityRepair

open HermesCashew.PythonInt
open HermesCashew.Raising
open HermesCashew.Raising.Block (Ends)

set_option autoImplicit false

/-! ## Reports -/

/-- A value under the key `status`; one that is no string may have no hash. -/
inductive Status where
  | text (value : String)
  | other (hashable : Bool)
  deriving DecidableEq, Repr

def Status.hashable : Status → Bool
  | .text _ => true
  | .other hashable => hashable

def Status.among (names : List String) : Status → Bool
  | .text value => value ∈ names
  | .other _ => false

/-- The upstream repair's result. A table is `none` where the value is no dictionary;
`mutated`, `skipped` and `failures` are read as truth values. -/
structure Repair (Value : Type) where
  status : Status
  mutated : Bool
  reason : Option String
  remaining : Option (String → Option Value)
  skipped : Bool
  failures : Bool

structure Inspection (Value : Type) where
  status : Status
  counts : Option (String → Option Value)

structure Failure where
  reason : String
  backupPath : Option String := none
  rolledBack : Bool := false
  committed : Option Bool := some false
  mutated : Bool := false
  mutationUncertain : Bool := false
  recoveryRequired : Bool := false

inductive Report (Value : Type) where
  /-- `_repair_failure`, with the result of a repair that was rolled back. -/
  | failure (record : Failure) (repair : Option (Repair Value))
  /-- `_repair_unavailable`. -/
  | unavailable
  | repaired (repair : Repair Value) (backupPath : String) (beforeCommit afterCommit :
      Inspection Value)

namespace Report

variable {Value : Type}

def status : Report Value → Status
  | failure _ _ => .text "unavailable"
  | unavailable => .text "unavailable"
  | repaired repair _ _ _ => repair.status

/-- The field `committed`, where there is one. -/
def committed : Report Value → Option (Option Bool)
  | failure record _ => some record.committed
  | unavailable => none
  | repaired _ _ _ _ => some (some true)

def mutationUncertain : Report Value → Bool
  | failure record _ => record.mutationUncertain
  | _ => false

def recoveryRequired : Report Value → Bool
  | failure record _ => record.recoveryRequired
  | _ => false

def backupPath : Report Value → Option String
  | failure record _ => record.backupPath
  | unavailable => none
  | repaired _ path _ _ => some path

end Report

/-! ## Verification -/

def actionKeys : String → List String
  | "repair_vec" => ["missing_vec", "stale_vec", "invalid_vec", "vec_mismatched"]
  | "repair_embeddings" => ["missing_embeddings", "invalid_embeddings"]
  | "remove_orphan_embeddings" => ["orphan_embeddings"]
  | "remove_orphan_edges" => ["orphan_edges"]
  | "remove_self_edges" => ["self_edges"]
  | "promote_core_memories" => ["core_memory_not_permanent"]
  | _ => []

def actionableCountKeys (actions : Option (List String)) (permanencePolicy : String) :
    List String :=
  let selected := actions.getD
    ["repair_vec", "repair_embeddings", "remove_orphan_embeddings", "remove_orphan_edges"]
  selected.flatMap actionKeys ++
    if permanencePolicy ≠ "report" then ["permanent_and_decayed"] else []

/-- How Python reads and compares the values of a table. -/
structure Values (Value : Type) where
  truthy : Value → Bool
  same : Value → Value → Bool

section

variable {Value : Type} (values : Values Value)

/-- `table[key]` where it is not zero. -/
def entry (table : String → Option Value) (key : String) : Option Value :=
  (table key).filter values.truthy

def sameEntry : Option Value → Option Value → Bool
  | none, none => true
  | some actual, some declared => values.same actual declared
  | _, _ => false

def repairVerificationMatches (repair : Repair Value) (inspection : Inspection Value)
    (actions : Option (List String)) (permanencePolicy : String) : Bool :=
  if !inspection.status.among ["ok", "findings"] then false
  else
    let keys := actionableCountKeys actions permanencePolicy
    match inspection.counts, repair.remaining with
    | some counts, some remaining =>
        if !keys.all (fun key =>
            sameEntry values (entry values counts key) (entry values remaining key)) then false
        else
          let actual := keys.any fun key => (entry values counts key).isSome
          if repair.status = .text "completed" then !actual
          else if repair.status = .text "partial" then
            actual || repair.skipped || repair.failures
          else false
    | _, _ => false

end

/-! ## The request -/

/-- A deadline that is no number or infinite is `none`. -/
structure Request where
  deadlineSeconds : Option Rat
  batchSize : Int
  maxItems : Int
  permanencePolicy : String
  expectedModel : Option String
  expectedDimension : Option Int
  actions : Option (List String)

def profileRepairRequestError (request : Request) : Option String :=
  if request.deadlineSeconds.all (· < 0) then some "invalid_deadline"
  else if request.batchSize ≤ 0 || request.maxItems ≤ 0 then some "invalid_repair_bounds"
  else if request.permanencePolicy ∉ ["report", "preserve_permanent", "preserve_decay"] then
    some "invalid_permanence_policy"
  else none

/-! ## What the code outside does -/

/-- `missing` where upstream has no such function. -/
inductive Reply (Value : Type) where
  | missing
  | raises
  | returns (value : Value)

inductive Admission where
  | refused
  /-- An exclusive admission of the caller is used, and stays. -/
  | nested
  | acquired
  deriving DecidableEq, Repr

inductive CommitOutcome where
  | succeeds
  | failsOpen
  | failsClosed (durable : Bool)
  deriving DecidableEq, Repr

/-- `prepares`: the directory and the temporary file; `opens`: the connections and the copy;
`places`: closing, `chmod` and `replace`. -/
structure BackupOutcome where
  prepares : Bool
  opens : Bool
  integrityCheck : Except Unit String
  places : Bool
  target : String

/-- A rollback that fails leaves the transaction open; `keeps` is set where the exclusive
lease outlives its release. `decimal` are the digits of Unicode that `int` reads. -/
structure World (Content Value : Type) where
  decimal : Decimals
  values : Values Value
  isFile : Bool
  api : Bool
  admission : Admission
  connects : Bool
  /-- `none` for `sqlite3.Error`; the values are given as `str` gives them. -/
  metadata : Content → Except Unit (Option (String → Option String))
  begins : Bool
  backup : BackupOutcome
  repair : Content → Content × Reply (Repair Value)
  inspect : Content → Content × Reply (Inspection Value)
  compares : Bool
  rollsBack : Bool
  commit : CommitOutcome
  inspectAfter : Content → Reply (Inspection Value)
  comparesAfter : Bool
  releases : Bool
  keeps : Bool
  rollsBackLate : Bool
  closes : Bool

structure Backup (Content : Type) where
  path : String
  content : Content
  integrityCheck : String

structure Moment where
  writing : Bool
  leased : Bool
  deriving DecidableEq, Repr

/-- `pending` is what the open write transaction made of the database. -/
structure State (Content Value : Type) where
  durable : Content
  leased : Bool
  pending : Option Content := none
  connected : Bool := false
  backups : List (Backup Content) := []
  backupPath : Option String := none
  repairResult : Option (Repair Value) := none
  commitAttempted : Bool := false
  commitSucceeded : Bool := false
  history : List Moment := []

abbrev Run (Content Value Result : Type) : Type :=
  Block (State Content Value) Unit Result

section

variable {Content Value Result : Type}

def State.moment (state : State Content Value) : Moment :=
  ⟨state.pending.isSome, state.leased⟩

def observe (operation : Run Content Value Result) : Run Content Value Result :=
  fun state =>
    let (result, after) := operation state
    (result, { after with history := after.history ++ [after.moment] })

def ensure (holds : Bool) : Run Content Value Unit :=
  if holds then pure () else Block.raise ()

def update (change : State Content Value → State Content Value) : Run Content Value Unit :=
  fun state => (.ok (), change state)

def read (view : State Content Value → Result) : Run Content Value Result :=
  fun state => (.ok (view state), state)

end

/-! ## The operations -/

section

variable {Content Value Result : Type} (world : World Content Value) (request : Request)

def connect : Run Content Value Unit :=
  observe do
    ensure world.connects
    update fun state => { state with connected := true }

def usableIdentity (decimal : Decimals) (values : String → Option String) :
    Option (String × Int) := do
  let model ← values "embedding_model"
  let dimensionText ← values "embedding_dim"
  let dimension ← pyInt decimal dimensionText
  let name := strip model.toList
  if name = [] || dimension ≤ 0 then none else some (String.ofList name, dimension)

def profileIdentity : Run Content Value (Option (String × Int)) :=
  observe fun state =>
    match world.metadata state.durable with
    | .error error => (.error error, state)
    | .ok values => (.ok (values.bind (usableIdentity world.decimal)), state)

def beginImmediate : Run Content Value Unit :=
  observe do
    ensure world.begins
    update fun state => { state with pending := some state.durable }

/-- The backup reads through a connection of its own. -/
def createVerifiedBackup : Run Content Value String :=
  observe do
    ensure world.backup.prepares
    ensure world.backup.opens
    let content ← read State.durable
    match world.backup.integrityCheck with
    | .error error => Block.raise error
    | .ok answer => do
        ensure (answer = "ok")
        ensure world.backup.places
        update fun state =>
          { state with backups := ⟨world.backup.target, content, answer⟩ :: state.backups }
        pure world.backup.target

def rejected (status reason : String) : Repair Value where
  status := .text status
  mutated := false
  reason := some reason
  remaining := none
  skipped := false
  failures := false

/-- `apply_integrity_repairs` on the connection of the caller. -/
def repairReply : Reply (Repair Value) → Repair Value
  | .missing => rejected "unavailable" "stable_targeted_repair_api_unavailable"
  | .raises => rejected "unavailable" "upstream_integrity_repair_failed"
  | .returns repair => repair

def applyIntegrityRepairs : Run Content Value (Repair Value) :=
  observe fun state =>
    match state.pending with
    | none => (.ok (rejected "rejected" "outer_transaction_required"), state)
    | some content =>
        let (repaired, reply) := world.repair content
        (.ok (repairReply reply), { state with pending := some repaired })

def inspectionReply : Reply (Inspection Value) → Inspection Value
  | .returns inspection => inspection
  | _ => ⟨.text "unavailable", none⟩

/-- `inspect_integrity`; outside of a transaction it writes nothing. -/
def inspectIntegrity : Run Content Value (Inspection Value) :=
  observe fun state =>
    match state.pending with
    | some content =>
        let (inspected, reply) := world.inspect content
        (.ok (inspectionReply reply), { state with pending := some inspected })
    | none => (.ok (inspectionReply (world.inspectAfter state.durable)), state)

/-- `status in {...}`. -/
def statusAmong (names : List String) (status : Status) : Run Content Value Bool := do
  ensure status.hashable
  pure (status.among names)

/-- `compares` is false where comparing the values raises. -/
def verify (compares : Bool) (repair : Repair Value) (inspection : Inspection Value) :
    Run Content Value Bool :=
  observe do
    ensure inspection.status.hashable
    ensure compares
    pure (repairVerificationMatches world.values repair inspection request.actions
      request.permanencePolicy)

def rollback (succeeds : Bool) : Run Content Value Unit :=
  observe do
    ensure succeeds
    update fun state => { state with pending := none }

def commit : Run Content Value Unit :=
  observe fun state =>
    let written := state.pending.getD state.durable
    match world.commit with
    | .succeeds => (.ok (), { state with durable := written, pending := none })
    | .failsOpen => (.error (), state)
    | .failsClosed kept =>
        (.error (), { state with
          durable := if kept then written else state.durable, pending := none })

def close : Run Content Value Unit :=
  observe fun state =>
    if state.connected then
      (if world.closes then .ok () else .error (),
        { state with pending := none, connected := false })
    else (.ok (), state)

def acquire : Run Content Value Unit :=
  observe (update fun state => { state with leased := true })

def release : Run Content Value Unit :=
  observe do
    update fun state => { state with leased := world.keeps }
    ensure world.releases

/-- `with admit_operation(graph_path=path, exclusive=True): body`. -/
def admitOperation (body : Run Content Value Result) : Run Content Value Result :=
  match world.admission with
  | .refused => Block.raise ()
  | .nested => body
  | .acquired => do
      acquire
      body.finish (release world)

/-! ## The workflow -/

def fail (record : Failure) : Report Value :=
  .failure record none

def commitRepair (backupPath : String) (repair : Repair Value)
    (beforeCommit : Inspection Value) : Run Content Value (Report Value) := do
  update fun state => { state with commitAttempted := true }
  commit world
  update fun state => { state with commitSucceeded := true }
  let afterCommit ← inspectIntegrity world
  let verified ← verify world request world.comparesAfter repair afterCommit
  if !verified then
    pure (fail { reason := "postcommit_verification_failed", backupPath := some backupPath,
                 committed := some true, mutated := repair.mutated,
                 mutationUncertain := true, recoveryRequired := true })
  else
    pure (.repaired repair backupPath beforeCommit afterCommit)

/-- From the inspection before the commit on. -/
def verifyRepair (backupPath : String) (repair : Repair Value) :
    Run Content Value (Report Value) := do
  let beforeCommit ← inspectIntegrity world
  let verified ← verify world request world.compares repair beforeCommit
  if !verified then do
    rollback world.rollsBack
    pure (fail { reason := "precommit_verification_failed", backupPath := some backupPath,
                 rolledBack := true })
  else
    commitRepair world request backupPath repair beforeCommit

def settleRepair (backupPath : String) (repair : Repair Value) :
    Run Content Value (Report Value) := do
  let settled ← statusAmong ["completed", "partial"] repair.status
  if !settled then do
    rollback world.rollsBack
    pure (.failure { reason := repair.reason.getD "repair_failed",
                     backupPath := some backupPath, rolledBack := true } (some repair))
  else
    verifyRepair world request backupPath repair

def repairInTransaction : Run Content Value (Report Value) := do
  beginImmediate world
  let backupPath ← createVerifiedBackup world
  update fun state => { state with backupPath := some backupPath }
  let repair ← applyIntegrityRepairs world
  update fun state => { state with repairResult := some repair }
  settleRepair world request backupPath repair

def repairBody : Run Content Value (Report Value) := do
  connect world
  let identity ← profileIdentity world
  match identity with
  | none => pure (fail { reason := "provider_identity_unavailable" })
  | some (storedModel, storedDimension) =>
      if request.expectedModel.any (· ≠ storedModel) then
        pure (fail { reason := "embedding_model_mismatch" })
      else if request.expectedDimension.any (· ≠ storedDimension) then
        pure (fail { reason := "embedding_dimension_mismatch" })
      else
        repairInTransaction world request

def unrolledFailure (state : State Content Value) : Failure :=
  let committed := if state.commitSucceeded then some true
    else if state.commitAttempted then none else some false
  { reason := "operator_repair_failed", backupPath := state.backupPath, committed := committed,
    mutated := decide (committed = some true) && state.repairResult.any Repair.mutated,
    mutationUncertain := state.commitAttempted && !state.commitSucceeded,
    recoveryRequired := decide (committed ≠ some false) }

/-- The `except` clause. -/
def repairFailed : Run Content Value (Report Value) := fun state =>
  if state.connected && state.pending.isSome then
    (do rollback world.rollsBackLate
        pure (fail { reason := "operator_repair_failed", backupPath := state.backupPath,
                     rolledBack := true }) : Run Content Value (Report Value)) state
  else
    (.ok (fail (unrolledFailure state)), state)

def applyProfileRepairs : Run Content Value (Report Value) :=
  match profileRepairRequestError request with
  | some reason => pure (fail { reason := reason })
  | none =>
      if !world.isFile then pure (fail { reason := "profile_not_found" })
      else if !world.api then pure .unavailable
      else
        ((admitOperation world (repairBody world request)).except
          fun _ => repairFailed world).finish (close world)

/-- Under the admission of a caller the lease is held from the start. -/
def start (database : Content) : State Content Value where
  durable := database
  leased := world.admission = .nested

end

/-! ## Rules for the operations -/

section

variable {Content Value Result : Type}

def Blind (held : State Content Value → Prop) : Prop :=
  ∀ state moments, held state → held { state with history := moments }

theorem Blind.and {first second : State Content Value → Prop} (one : Blind first)
    (other : Blind second) : Blind fun state => first state ∧ second state :=
  fun state moments held => ⟨one state moments held.1, other state moments held.2⟩

theorem blind_const (fact : Prop) : Blind fun _ : State Content Value => fact :=
  fun _ _ held => held

theorem blind_pending (pending : Option Content) :
    Blind fun state : State Content Value => state.pending = pending :=
  fun _ _ held => held

theorem observe_ends {held : State Content Value → Prop} {operation : Run Content Value Result}
    {done : Result → State Content Value → Prop} {failed : State Content Value → Prop}
    (ends : Ends held operation done fun _ => failed) (blindDone : ∀ result, Blind (done result))
    (blindFailed : Blind failed) : Ends held (observe operation) done fun _ => failed := by
  intro state given
  have ran := ends state given
  unfold observe
  cases outcome : operation state with
  | mk result after =>
      rw [outcome] at ran
      cases result with
      | ok result => exact blindDone result after _ ran
      | error error => exact blindFailed after _ ran

theorem ensure_ends {holds : Bool} {held failed : State Content Value → Prop}
    (implied : ∀ state, held state → holds = false → failed state) :
    Ends held (ensure holds) (fun _ state => held state ∧ holds = true) fun _ => failed := by
  intro state given
  cases holds with
  | true => exact ⟨given, rfl⟩
  | false => exact implied state given rfl

theorem update_ends {held later : State Content Value → Prop}
    {failed : Unit → State Content Value → Prop}
    {change : State Content Value → State Content Value}
    (implied : ∀ state, held state → later (change state)) :
    Ends held (update change) (fun _ => later) failed :=
  implied

end

end HermesCashew.IntegrityRepair
