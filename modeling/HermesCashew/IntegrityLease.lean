import HermesCashew.IntegrityRepair

/-!
# The lease of a repair

The rollback of an exception stands outside the admission, so it runs after the lease is
released. The write transaction stays covered exactly when no exception leaves the body
while the transaction is open.
-/

namespace HermesCashew.IntegrityRepair

open HermesCashew.Raising
open HermesCashew.Raising.Block

set_option autoImplicit false

variable {Content Value Result Next : Type}

/-! ## What every operation keeps -/

theorem keeps_ensure {held : State Content Value → Prop} (holds : Bool) :
    Keeps held (IntegrityRepair.ensure holds) := by
  cases holds with
  | true => exact Keeps.pure ()
  | false => exact Keeps.raise ()

def Fine (state : State Content Value) : Prop :=
  ∀ moment ∈ state.history, moment.writing = true → moment.leased = true

structure Leased (state : State Content Value) : Prop where
  fine : Fine state
  leased : state.leased = true

structure Idle (state : State Content Value) : Prop where
  fine : Fine state
  closed : state.pending = none

def Exposed (state : State Content Value) : Prop :=
  ∃ moment ∈ state.history, moment.writing = true ∧ moment.leased = false

theorem not_fine_of_exposed {state : State Content Value} (exposed : Exposed state) :
    ¬Fine state := by
  intro fine
  obtain ⟨moment, member, writing, bare⟩ := exposed
  rw [fine moment member writing] at bare
  cases bare

def Plain (operation : Run Content Value Result) : Prop :=
  ∀ state, (operation state).2.leased = state.leased ∧
    (operation state).2.history = state.history

theorem Plain.pure (result : Result) : Plain (Pure.pure result : Run Content Value Result) :=
  fun _ => ⟨rfl, rfl⟩

theorem Plain.bind {run : Run Content Value Result} {next : Result → Run Content Value Next}
    (first : Plain run) (second : ∀ result, Plain (next result)) : Plain (run >>= next) := by
  intro state
  have kept := first state
  rw [bind_apply]
  cases outcome : run state with
  | mk result after =>
      rw [outcome] at kept
      cases result with
      | ok result =>
          have later := second result after
          exact ⟨later.1.trans kept.1, later.2.trans kept.2⟩
      | error error => exact kept

theorem Plain.ensure (holds : Bool) :
    Plain (IntegrityRepair.ensure holds : Run Content Value Unit) := by
  cases holds with
  | true => exact Plain.pure ()
  | false => exact fun _ => ⟨rfl, rfl⟩

theorem Plain.leased {operation : Run Content Value Result} (plain : Plain operation) :
    Keeps Leased (observe operation) := by
  intro state given
  refine ⟨?_, ?_⟩
  · intro moment member writing
    simp only [observe, (plain state).2, List.mem_append, List.mem_singleton] at member
    rcases member with earlier | rfl
    · exact given.fine moment earlier writing
    · simp only [State.moment, (plain state).1]
      exact given.leased
  · simp only [observe, (plain state).1]
    exact given.leased

theorem keeps_idle {operation : Run Content Value Result}
    (history : ∀ state, (operation state).2.history = state.history)
    (closed : ∀ state, state.pending = none → (operation state).2.pending = none) :
    Keeps Idle (observe operation) := by
  intro state given
  refine ⟨?_, ?_⟩
  · intro moment member writing
    simp only [observe, history, List.mem_append, List.mem_singleton] at member
    rcases member with earlier | rfl
    · exact given.fine moment earlier writing
    · simp [State.moment, closed state given.closed] at writing
  · simp only [observe]
    exact closed state given.closed

theorem keeps_exposed {operation : Run Content Value Result}
    (history : ∀ state, (operation state).2.history = state.history) :
    Keeps Exposed (observe operation) := by
  rintro state ⟨moment, member, exposed⟩
  refine ⟨moment, ?_, exposed⟩
  simp only [observe, history]
  exact List.mem_append_left _ member

/-! ## The body works under the lease -/

section

variable {world : World Content Value} {request : Request}

theorem leased_connect : Keeps Leased (connect world) :=
  Plain.leased (Plain.bind (Plain.ensure _) fun _ _ => ⟨rfl, rfl⟩)

theorem leased_profile_identity : Keeps Leased (profileIdentity world) := by
  apply Plain.leased
  intro state
  cases answer : world.metadata state.durable with
  | ok values => simp [answer]
  | error error => simp [answer]

theorem leased_begin_immediate : Keeps Leased (beginImmediate world) :=
  Plain.leased (Plain.bind (Plain.ensure _) fun _ _ => ⟨rfl, rfl⟩)

theorem leased_create_verified_backup : Keeps Leased (createVerifiedBackup world) := by
  apply Plain.leased
  apply Plain.bind (Plain.ensure _)
  intro _
  apply Plain.bind (Plain.ensure _)
  intro _
  apply Plain.bind fun _ => ⟨rfl, rfl⟩
  intro content
  cases world.backup.integrityCheck with
  | error error => exact fun _ => ⟨rfl, rfl⟩
  | ok answer =>
      apply Plain.bind (Plain.ensure _)
      intro _
      apply Plain.bind (Plain.ensure _)
      exact fun _ _ => ⟨rfl, rfl⟩

theorem leased_apply_integrity_repairs : Keeps Leased (applyIntegrityRepairs world) := by
  apply Plain.leased
  intro state
  cases pending : state.pending with
  | none => simp [pending]
  | some content => simp [pending]

theorem leased_inspect_integrity : Keeps Leased (inspectIntegrity world) := by
  apply Plain.leased
  intro state
  cases pending : state.pending with
  | none => simp [pending]
  | some content => simp [pending]

theorem leased_verify {compares : Bool} {repair : Repair Value} {inspection : Inspection Value} :
    Keeps Leased (verify world request compares repair inspection) := by
  apply Plain.leased
  apply Plain.bind (Plain.ensure _)
  intro _
  exact Plain.bind (Plain.ensure _) fun _ => Plain.pure _

theorem leased_rollback (succeeds : Bool) :
    Keeps Leased (rollback succeeds : Run Content Value Unit) :=
  Plain.leased (Plain.bind (Plain.ensure _) fun _ _ => ⟨rfl, rfl⟩)

theorem leased_commit : Keeps Leased (commit world) := by
  apply Plain.leased
  intro state
  cases outcome : world.commit with
  | succeeds => simp
  | failsOpen => simp
  | failsClosed kept => simp

theorem leased_close : Keeps Leased (close world) := by
  apply Plain.leased
  intro state
  by_cases connected : state.connected = true
  · simp [connected]
  · simp [connected]

theorem leased_update {change : State Content Value → State Content Value}
    (plain : Plain (update change)) : Keeps Leased (update change) := by
  intro state given
  obtain ⟨leased, history⟩ := plain state
  refine ⟨?_, leased.trans given.leased⟩
  unfold Fine
  rw [history]
  exact given.fine

theorem leased_status_among {names : List String} {status : Status} :
    Keeps Leased (statusAmong names status : Run Content Value Bool) :=
  Keeps.bind (keeps_ensure _) fun _ => Keeps.pure _

theorem leased_commit_repair {path : String} {repair : Repair Value}
    {inspection : Inspection Value} :
    Keeps Leased (commitRepair world request path repair inspection) := by
  apply Keeps.bind
  · exact leased_update fun _ => ⟨rfl, rfl⟩
  intro _
  apply Keeps.bind leased_commit
  intro _
  apply Keeps.bind
  · exact leased_update fun _ => ⟨rfl, rfl⟩
  intro _
  apply Keeps.bind leased_inspect_integrity
  intro _
  apply Keeps.bind leased_verify
  intro verified
  cases verified with
  | false => exact Keeps.pure _
  | true => exact Keeps.pure _

theorem leased_verify_repair {path : String} {repair : Repair Value} :
    Keeps Leased (verifyRepair world request path repair) := by
  apply Keeps.bind leased_inspect_integrity
  intro _
  apply Keeps.bind leased_verify
  intro verified
  cases verified with
  | false => exact Keeps.bind (leased_rollback _) fun _ => Keeps.pure _
  | true => exact leased_commit_repair

theorem leased_settle_repair {path : String} {repair : Repair Value} :
    Keeps Leased (settleRepair world request path repair) := by
  apply Keeps.bind leased_status_among
  intro settled
  cases settled with
  | false => exact Keeps.bind (leased_rollback _) fun _ => Keeps.pure _
  | true => exact leased_verify_repair

theorem leased_repair_body : Keeps Leased (repairBody world request) := by
  apply Keeps.bind leased_connect
  intro _
  apply Keeps.bind leased_profile_identity
  intro identity
  cases identity with
  | none => exact Keeps.pure _
  | some stored =>
      dsimp only
      split_ifs
      · exact Keeps.pure _
      · exact Keeps.pure _
      · apply Keeps.bind leased_begin_immediate
        intro _
        apply Keeps.bind leased_create_verified_backup
        intro _
        apply Keeps.bind
        · exact leased_update fun _ => ⟨rfl, rfl⟩
        intro _
        apply Keeps.bind leased_apply_integrity_repairs
        intro _
        apply Keeps.bind
        · exact leased_update fun _ => ⟨rfl, rfl⟩
        exact fun _ => leased_settle_repair

end

/-! ## Where an exception leaves the transaction open -/

section

variable (world : World Content Value) (request : Request)

def BackupOutcome.Succeeds (backup : BackupOutcome) : Prop :=
  backup.prepares = true ∧ backup.opens = true ∧ backup.integrityCheck = .ok "ok" ∧
    backup.places = true

def CheckingRaises (inspection : Inspection Value) (repair : Repair Value) : Prop :=
  inspection.status.hashable = false ∨ world.compares = false ∨
    if repairVerificationMatches world.values repair inspection request.actions
        request.permanencePolicy = true then
      world.commit = .failsOpen
    else world.rollsBack = false

def SettlingRaises (content : Content) (repair : Repair Value) : Prop :=
  if repair.status.among ["completed", "partial"] = true then
    CheckingRaises world request (inspectionReply (world.inspect content).2) repair
  else repair.status.hashable = false ∨ world.rollsBack = false

def WritingRaises (before : Content) : Prop :=
  world.begins = true ∧ (¬world.backup.Succeeds ∨
    SettlingRaises world request (world.repair before).1
      (repairReply (world.repair before).2))

def Accepted (identity : String × Int) : Prop :=
  (∀ model, request.expectedModel = some model → model = identity.1) ∧
    ∀ dimension, request.expectedDimension = some dimension → dimension = identity.2

/-- An exception leaves the body while its write transaction is open. -/
def BodyRaises (before : Content) : Prop :=
  world.connects = true ∧ (∃ values identity, world.metadata before = .ok (some values) ∧
    usableIdentity world.decimal values = some identity ∧ Accepted request identity) ∧
      WritingRaises world request before

end

section

variable {world : World Content Value} {request : Request} {before content : Content}

def Open (content : Content) (state : State Content Value) : Prop :=
  state.pending = some content

def Closed (state : State Content Value) : Prop :=
  state.pending = none

def OpenIff (condition : Prop) (state : State Content Value) : Prop :=
  state.pending.isSome = true ↔ condition

theorem Open.open_iff {condition : Prop} {state : State Content Value}
    (open_ : Open content state) (holds : condition) : OpenIff condition state := by
  unfold OpenIff
  rw [open_]
  simp [holds]

theorem Closed.open_iff {condition : Prop} {state : State Content Value}
    (closed : Closed state) (fails : ¬condition) : OpenIff condition state := by
  unfold OpenIff
  rw [closed]
  simp [fails]

theorem blind_open : Blind (Open content : State Content Value → Prop) :=
  fun _ _ held => held

theorem blind_closed : Blind (Closed : State Content Value → Prop) :=
  fun _ _ held => held

theorem blind_open_iff (condition : Prop) :
    Blind (OpenIff condition : State Content Value → Prop) :=
  fun _ _ held => held

theorem open_inspect : Ends (Open content) (inspectIntegrity world)
    (fun inspection state => Open (world.inspect content).1 state ∧
      inspection = inspectionReply (world.inspect content).2) (fun _ _ => False) := by
  apply observe_ends
  · intro state pending
    simp only [show state.pending = some content from pending]
    exact ⟨rfl, trivial⟩
  · exact fun _ => blind_open.and (blind_const _)
  · exact blind_const _

theorem open_verify {compares : Bool} {repair : Repair Value} {inspection : Inspection Value} :
    Ends (Open content) (verify world request compares repair inspection)
      (fun verified state => (Open content state ∧
        verified = repairVerificationMatches world.values repair inspection request.actions
          request.permanencePolicy) ∧ inspection.status.hashable = true ∧ compares = true)
      (fun _ state => Open content state ∧
        (inspection.status.hashable = false ∨ compares = false)) := by
  apply observe_ends
  · apply Ends.bind (ensure_ends fun state pending raised => ⟨pending, .inl raised⟩)
    intro _
    apply Ends.bind (ensure_ends fun state held raised => ⟨held.1, .inr raised⟩)
    intro _
    apply Ends.value
    exact fun state held => ⟨⟨held.1.1, rfl⟩, held.1.2, held.2⟩
  · exact fun _ => (blind_open.and (blind_const _)).and (blind_const _)
  · exact blind_open.and (blind_const _)

theorem open_rollback {succeeds : Bool} :
    Ends (Open content) (rollback succeeds : Run Content Value Unit)
      (fun _ state => Closed state ∧ succeeds = true)
      (fun _ state => Open content state ∧ succeeds = false) := by
  apply observe_ends
  · apply Ends.bind (ensure_ends fun state pending raised => ⟨pending, raised⟩)
    intro _
    apply update_ends
    exact fun state held => ⟨rfl, held.2⟩
  · exact fun _ => blind_closed.and (blind_const _)
  · exact blind_open.and (blind_const _)

theorem open_commit : Ends (Open content) (commit world)
    (fun _ state => Closed state ∧ world.commit ≠ .failsOpen)
    (fun _ => OpenIff (world.commit = .failsOpen)) := by
  apply observe_ends
  · intro state pending
    cases outcome : world.commit with
    | succeeds => exact ⟨rfl, by simp⟩
    | failsOpen => exact pending.open_iff rfl
    | failsClosed kept => exact Closed.open_iff rfl (by simp)
  · exact fun _ => blind_closed.and (blind_const _)
  · exact blind_open_iff _

theorem closed_inspect : Ends Closed (inspectIntegrity world) (fun _ => Closed)
    (fun _ _ => False) := by
  apply observe_ends
  · intro state closed
    simp only [show state.pending = none from closed]
    exact closed
  · exact fun _ => blind_closed
  · exact blind_const _

theorem closed_verify {compares : Bool} {repair : Repair Value} {inspection : Inspection Value} :
    Ends Closed (verify world request compares repair inspection) (fun _ => Closed)
      (fun _ => Closed) := by
  apply observe_ends
  · apply Ends.bind (ensure_ends fun state closed _ => closed)
    intro _
    apply Ends.bind (ensure_ends fun state held _ => held.1)
    intro _
    apply Ends.value
    exact fun state held => held.1.1
  · exact fun _ => blind_closed
  · exact blind_closed

theorem update_open {held : State Content Value → Prop} {failed : Unit → State Content Value → Prop}
    {change : State Content Value → State Content Value}
    (plain : ∀ state, held state → held (change state)) :
    Ends held (update change) (fun _ => held) failed :=
  plain

theorem open_commit_repair {path : String} {repair : Repair Value}
    {inspection : Inspection Value} :
    Ends (Open content) (commitRepair world request path repair inspection)
      (fun _ state => Closed state ∧ world.commit ≠ .failsOpen)
      (fun _ => OpenIff (world.commit = .failsOpen)) := by
  unfold commitRepair
  apply Ends.bind
  · exact update_open fun _ pending => pending
  intro _
  apply Ends.bind open_commit
  intro _
  apply Ends.bind
  · exact update_open fun _ held => held
  intro _
  apply Ends.bind (Ends.excuse (Ends.frame _ closed_inspect) fun _ _ held => held.1.elim)
  intro _
  apply Ends.bind (Ends.excuse (Ends.frame _ closed_verify)
    fun _ _ held => Closed.open_iff held.1 held.2)
  intro verified
  cases verified with
  | false => exact Ends.value fun _ held => held
  | true => exact Ends.value fun _ held => held

theorem open_status_among {names : List String} {status : Status} :
    Ends (Open content) (statusAmong names status : Run Content Value Bool)
      (fun settled state => (Open content state ∧ status.hashable = true) ∧
        settled = status.among names)
      (fun _ state => Open content state ∧ status.hashable = false) := by
  apply Ends.bind (ensure_ends fun state pending raised => ⟨pending, raised⟩)
  intro _
  exact Ends.value fun state held => ⟨held, rfl⟩

theorem hashable_of_among {names : List String} {status : Status}
    (among : status.among names = true) : status.hashable = true := by
  cases status with
  | text value => rfl
  | other hashable => simp [Status.among] at among

/-- A rollback on one of the two early ways out. -/
theorem open_withdraw {condition : Prop} {report : Report Value}
    (exactly : condition ↔ world.rollsBack = false) :
    Ends (Open content) (do rollback world.rollsBack; pure report : Run Content Value (Report Value))
      (fun _ state => Closed state ∧ ¬condition) (fun _ => OpenIff condition) := by
  apply Ends.bind (Ends.excuse open_rollback fun _ _ held => held.1.open_iff (exactly.mpr held.2))
  intro _
  apply Ends.value
  intro state held
  refine ⟨held.1, fun holds => ?_⟩
  rw [exactly.mp holds] at held
  cases held.2

theorem open_verify_repair {path : String} {repair : Repair Value} :
    Ends (Open content) (verifyRepair world request path repair)
      (fun _ state => Closed state ∧ ¬CheckingRaises world request
        (inspectionReply (world.inspect content).2) repair)
      (fun _ => OpenIff (CheckingRaises world request
        (inspectionReply (world.inspect content).2) repair)) := by
  apply Ends.bind (Ends.excuse open_inspect fun _ _ held => held.elim)
  intro inspection state given
  obtain ⟨pending, rfl⟩ := given
  refine Ends.bind (Ends.excuse open_verify fun _ _ held => ?_) ?_ state pending
  · apply held.1.open_iff
    unfold CheckingRaises
    tauto
  rintro verified later ⟨⟨reopened, decided⟩, hashable, compares⟩
  have unfolded : CheckingRaises world request (inspectionReply (world.inspect content).2) repair ↔
      if verified = true then world.commit = .failsOpen else world.rollsBack = false := by
    unfold CheckingRaises
    rw [← decided]
    simp [hashable, compares]
  cases verified with
  | false =>
      rw [if_neg Bool.false_ne_true] at unfolded
      exact open_withdraw unfolded later reopened
  | true =>
      rw [if_pos rfl] at unfolded
      simp only [unfolded]
      exact open_commit_repair later reopened

theorem open_settle_repair {path : String} {repair : Repair Value} :
    Ends (Open content) (settleRepair world request path repair)
      (fun _ state => Closed state ∧ ¬SettlingRaises world request content repair)
      (fun _ => OpenIff (SettlingRaises world request content repair)) := by
  unfold settleRepair
  apply Ends.bind (Ends.excuse open_status_among fun _ _ held => by
    apply held.1.open_iff
    unfold SettlingRaises
    have strange : ¬repair.status.among ["completed", "partial"] = true := by
      intro among
      rw [hashable_of_among among] at held
      cases held.2
    rw [if_neg strange]
    exact .inl held.2)
  rintro settled state ⟨⟨pending, hashable⟩, decided⟩
  cases settled with
  | false =>
      have unfolded : SettlingRaises world request content repair ↔
          world.rollsBack = false := by
        unfold SettlingRaises
        rw [← decided]
        simp [hashable]
      exact open_withdraw unfolded state pending
  | true =>
      have unfolded : SettlingRaises world request content repair ↔
          CheckingRaises world request (inspectionReply (world.inspect content).2) repair := by
        unfold SettlingRaises
        rw [← decided, if_pos rfl]
      simp only [unfolded]
      exact open_verify_repair state pending

theorem open_backup : Ends (Open content) (createVerifiedBackup world)
    (fun _ state => Open content state ∧ world.backup.Succeeds)
    (fun _ state => Open content state ∧ ¬world.backup.Succeeds) := by
  apply observe_ends
  · apply Ends.bind (ensure_ends fun state pending raised =>
      ⟨pending, fun succeeds => by simp [succeeds.1] at raised⟩)
    intro _
    apply Ends.bind (ensure_ends fun state held raised =>
      ⟨held.1, fun succeeds => by simp [succeeds.2.1] at raised⟩)
    rintro _ state ⟨⟨pending, prepares⟩, opens⟩
    simp only [bind_apply, read]
    cases checked : world.backup.integrityCheck with
    | error error => exact ⟨pending, fun succeeds => by
        simp [BackupOutcome.Succeeds, checked] at succeeds⟩
    | ok answer =>
        by_cases fine : answer = "ok"
        · cases places : world.backup.places with
          | false =>
              have fails : ¬world.backup.Succeeds := fun succeeds => by
                simp [BackupOutcome.Succeeds, places] at succeeds
              simpa [IntegrityRepair.ensure, fine, bind_apply, Block.raise] using
                And.intro pending fails
          | true =>
              subst fine
              exact ⟨pending, prepares, opens, checked, places⟩
        · have fails : ¬world.backup.Succeeds := fun succeeds => by
            simp [BackupOutcome.Succeeds, checked, fine] at succeeds
          simpa [IntegrityRepair.ensure, fine, bind_apply, Block.raise] using
            And.intro pending fails
  · exact fun _ => blind_open.and (blind_const _)
  · exact blind_open.and (blind_const _)

def Before (before : Content) (state : State Content Value) : Prop :=
  state.durable = before ∧ state.pending = none

theorem blind_before : Blind (Before before : State Content Value → Prop) :=
  fun _ _ held => held

theorem open_begin : Ends (Before before) (beginImmediate world)
    (fun _ state => Open before state ∧ world.begins = true)
    (fun _ state => Closed state ∧ world.begins = false) := by
  apply observe_ends
  · apply Ends.bind (ensure_ends fun state held raised => ⟨held.2, raised⟩)
    intro _
    apply update_ends
    exact fun state held => ⟨congrArg some held.1.1, held.2⟩
  · exact fun _ => blind_open.and (blind_const _)
  · exact blind_closed.and (blind_const _)

theorem open_repair : Ends (Open content) (applyIntegrityRepairs world)
    (fun repair state => Open (world.repair content).1 state ∧
      repair = repairReply (world.repair content).2) (fun _ _ => False) := by
  apply observe_ends
  · intro state pending
    simp only [show state.pending = some content from pending]
    exact ⟨rfl, trivial⟩
  · exact fun _ => blind_open.and (blind_const _)
  · exact blind_const _

theorem open_repair_in_transaction : Ends (Before before) (repairInTransaction world request)
    (fun _ state => Closed state ∧ ¬WritingRaises world request before)
    (fun _ => OpenIff (WritingRaises world request before)) := by
  unfold repairInTransaction
  apply Ends.bind (Ends.excuse open_begin fun _ _ held => by
    apply held.1.open_iff
    rintro ⟨begins, -⟩
    rw [begins] at held
    cases held.2)
  intro _ state given
  obtain ⟨pending, begins⟩ := given
  refine Ends.bind (Ends.excuse open_backup fun _ _ held => ?_) ?_ state pending
  · exact held.1.open_iff ⟨begins, .inl held.2⟩
  rintro path _ ⟨opened, succeeds⟩
  have unfolded : WritingRaises world request before ↔ SettlingRaises world request
      (world.repair before).1 (repairReply (world.repair before).2) := by
    unfold WritingRaises
    simp [begins, succeeds]
  simp only [unfolded]
  have named : Ends (Open before)
      (update fun state : State Content Value => { state with backupPath := some path })
      (fun _ => Open before) (fun _ => OpenIff (SettlingRaises world request
        (world.repair before).1 (repairReply (world.repair before).2))) :=
    update_open fun _ held => held
  refine Ends.bind named ?_ _ opened
  intro _
  apply Ends.bind (Ends.excuse open_repair fun _ _ held => held.elim)
  intro repair later repaired
  obtain ⟨reopened, rfl⟩ := repaired
  have kept : Ends (Open (world.repair before).1) (update fun state : State Content Value =>
      { state with repairResult := some (repairReply (world.repair before).2) })
      (fun _ => Open (world.repair before).1) (fun _ => OpenIff (SettlingRaises world request
        (world.repair before).1 (repairReply (world.repair before).2))) :=
    update_open fun _ held => held
  exact Ends.bind kept (fun _ => open_settle_repair) later reopened

/-! ## The body -/

theorem before_connect : Ends (Before before) (connect world)
    (fun _ state => Before before state ∧ world.connects = true)
    (fun _ state => Closed state ∧ world.connects = false) := by
  apply observe_ends
  · apply Ends.bind (ensure_ends fun state held raised => ⟨held.2, raised⟩)
    intro _
    apply update_ends
    exact fun state held => held
  · exact fun _ => blind_before.and (blind_const _)
  · exact blind_closed.and (blind_const _)

theorem before_profile_identity : Ends (Before before) (profileIdentity world)
    (fun identity state => Before before state ∧
      ∃ values, world.metadata before = .ok values ∧
        identity = values.bind (usableIdentity world.decimal))
    (fun _ state => Closed state ∧ ∃ error, world.metadata before = .error error) := by
  apply observe_ends
  · rintro state ⟨durable, pending⟩
    simp only [durable]
    cases answer : world.metadata before with
    | ok values => exact ⟨⟨durable, pending⟩, values, rfl, rfl⟩
    | error error => exact ⟨pending, error, rfl⟩
  · exact fun _ => blind_before.and (blind_const _)
  · exact blind_closed.and (blind_const _)

/-- With a usable identity that is expected, everything depends on the transaction. -/
theorem body_raises_iff (request : Request) {values : String → Option String} {identity : String × Int}
    (connects : world.connects = true) (answer : world.metadata before = .ok (some values))
    (usable : usableIdentity world.decimal values = some identity) :
    BodyRaises world request before ↔
      Accepted request identity ∧ WritingRaises world request before := by
  constructor
  · rintro ⟨-, ⟨others, other, same, sameUsable, accepted⟩, writing⟩
    rw [answer] at same
    cases same
    rw [usable] at sameUsable
    cases sameUsable
    exact ⟨accepted, writing⟩
  · rintro ⟨accepted, writing⟩
    exact ⟨connects, ⟨values, identity, answer, usable, accepted⟩, writing⟩

theorem not_body_raises_of_unusable {values : Option (String → Option String)}
    (answer : world.metadata before = .ok values)
    (unusable : values.bind (usableIdentity world.decimal) = none) :
    ¬BodyRaises world request before := by
  rintro ⟨-, ⟨others, other, same, sameUsable, -⟩, -⟩
  rw [answer] at same
  cases same
  simp [sameUsable] at unusable

theorem expects_iff {α : Type} [DecidableEq α] {expected : Option α} {stored : α} :
    expected.any (· ≠ stored) = true ↔ ¬∀ value, expected = some value → value = stored := by
  cases expected with
  | none => simp
  | some value => simp

theorem open_repair_body (world : World Content Value) (request : Request) (before : Content) :
    Ends (Before before) (repairBody world request)
    (fun _ state => Closed state ∧ ¬BodyRaises world request before)
    (fun _ => OpenIff (BodyRaises world request before)) := by
  apply Ends.bind (Ends.excuse before_connect fun _ _ held => by
    apply held.1.open_iff
    rintro ⟨connects, -⟩
    rw [connects] at held
    cases held.2)
  intro _ state given
  obtain ⟨early, connects⟩ := given
  refine Ends.bind (Ends.excuse before_profile_identity fun _ _ held => ?_) ?_ state early
  · apply held.1.open_iff
    rintro ⟨-, ⟨values, identity, answer, -⟩, -⟩
    obtain ⟨error, raised⟩ := held.2
    rw [answer] at raised
    cases raised
  rintro identity later ⟨held, values, answer, rfl⟩
  cases usable : values.bind (usableIdentity world.decimal) with
  | none => exact ⟨held.2, not_body_raises_of_unusable answer usable⟩
  | some identity =>
      obtain ⟨rows, rfl, readable⟩ := Option.bind_eq_some_iff.mp usable
      have unfolded := body_raises_iff request connects answer readable
      obtain ⟨storedModel, storedDimension⟩ := identity
      dsimp only
      by_cases model : request.expectedModel.any (· ≠ storedModel) = true
      · rw [if_pos model]
        refine ⟨held.2, fun raises => ?_⟩
        exact expects_iff.mp model (unfolded.mp raises).1.1
      · rw [if_neg model]
        by_cases dimension : request.expectedDimension.any (· ≠ storedDimension) = true
        · rw [if_pos dimension]
          refine ⟨held.2, fun raises => ?_⟩
          exact expects_iff.mp dimension (unfolded.mp raises).1.2
        · rw [if_neg dimension]
          have accepted : Accepted request (storedModel, storedDimension) :=
            ⟨not_not.mp (mt expects_iff.mpr model), not_not.mp (mt expects_iff.mpr dimension)⟩
          have same : BodyRaises world request before ↔ WritingRaises world request before := by
            rw [unfolded]
            exact and_iff_right accepted
          simp only [same]
          exact open_repair_in_transaction later held

/-! ## After the body -/

theorem finish_state {run : Run Content Value Result} {cleanup : Run Content Value Unit}
    (state : State Content Value) :
    (run.finish cleanup state).2 = (cleanup (run state).2).2 := by
  unfold Block.finish
  cases outcome : cleanup (run state).2 with
  | mk result after => cases result <;> rfl

theorem keeps_repair_failed {held : State Content Value → Prop}
    (rolled : Keeps held (rollback world.rollsBackLate)) : Keeps held (repairFailed world) := by
  intro state given
  unfold repairFailed
  by_cases writing : (state.connected && state.pending.isSome) = true
  · rw [if_pos writing]
    exact Keeps.bind rolled (fun _ => Keeps.pure _) state given
  · rw [if_neg writing]
    exact given

theorem keeps_rest {held : State Content Value → Prop} {state : State Content Value}
    (rolled : Keeps held (rollback world.rollsBackLate)) (closed : Keeps held (close world))
    (given : held (admitOperation world (repairBody world request) state).2) :
    held (((admitOperation world (repairBody world request)).except
      fun _ => repairFailed world).finish (close world) state).2 := by
  rw [finish_state]
  apply closed
  unfold Block.except
  cases outcome : admitOperation world (repairBody world request) state with
  | mk result after =>
      rw [outcome] at given
      cases result with
      | ok result => exact given
      | error error => exact keeps_repair_failed rolled after given

theorem rollback_history (succeeds : Bool) (state : State Content Value) :
    ((do ensure succeeds
         update fun state => { state with pending := none } :
         Run Content Value Unit) state).2.history = state.history := by
  cases succeeds with
  | true => rfl
  | false => rfl

theorem idle_rollback (succeeds : Bool) :
    Keeps Idle (rollback succeeds : Run Content Value Unit) := by
  apply keeps_idle (rollback_history succeeds)
  intro state closed
  cases succeeds with
  | true => rfl
  | false => exact closed

theorem exposed_rollback (succeeds : Bool) :
    Keeps Exposed (rollback succeeds : Run Content Value Unit) :=
  keeps_exposed (rollback_history succeeds)

theorem idle_close : Keeps Idle (close world) := by
  apply keeps_idle
  · intro state
    by_cases connected : state.connected = true
    · simp [connected]
    · simp [connected]
  · intro state closed
    by_cases connected : state.connected = true
    · simp [connected]
    · simp [connected, closed]

theorem exposed_close : Keeps Exposed (close world) := by
  apply keeps_exposed
  intro state
  by_cases connected : state.connected = true
  · simp [connected]
  · simp [connected]

/-- The state behind the release of the lease. -/
theorem release_state (world : World Content Value) (state : State Content Value) :
    (release world state).2 = { state with
      leased := world.keeps
      history := state.history ++ [⟨state.pending.isSome, world.keeps⟩] } := by
  cases released : world.releases with
  | true =>
      simp [release, observe, ensure, released, update, bind_apply, State.moment]
  | false =>
      simp [release, observe, ensure, released, update, bind_apply, State.moment, Block.raise]

theorem acquired_state (world : World Content Value) (acquires : world.admission = .acquired)
    (body : Run Content Value Result) (state : State Content Value) :
    (admitOperation world body state).2 = (release world (body { state with
      leased := true
      history := state.history ++ [⟨state.pending.isSome, true⟩] }).2).2 := by
  simp only [admitOperation, acquires]
  exact finish_state _

def bodyEnd (world : World Content Value) (request : Request) (before : Content) :
    State Content Value :=
  (repairBody world request
    { start world before with leased := true, history := [⟨false, true⟩] }).2

theorem body_end_leased : Leased (bodyEnd world request before) := by
  apply leased_repair_body
  refine ⟨?_, rfl⟩
  intro moment member
  simp only [List.mem_singleton] at member
  simp [member]

theorem body_end_open :
    OpenIff (BodyRaises world request before) (bodyEnd world request before) := by
  have ran := open_repair_body world request before
    { start world before with leased := true, history := [⟨false, true⟩] } ⟨rfl, rfl⟩
  unfold bodyEnd
  cases outcome : repairBody world request
    { start world before with leased := true, history := [⟨false, true⟩] } with
  | mk result after =>
      rw [outcome] at ran
      cases result with
      | ok report => exact ran.1.open_iff ran.2
      | error error => exact ran

end

/-! ## Exactly when the lease covers the transaction -/

section

variable (world : World Content Value) (request : Request) (before : Content)

def Covered : Prop :=
  Fine (applyProfileRepairs world request (start world before)).2

/-- The repair is admitted by a lease of its own that ends with the admission. -/
def OwnLease : Prop :=
  profileRepairRequestError request = none ∧ world.isFile = true ∧ world.api = true ∧
    world.admission = .acquired ∧ world.keeps = false

theorem acquired_fine_iff (acquires : world.admission = .acquired) :
    Fine (((admitOperation world (repairBody world request)).except
      fun _ => repairFailed world).finish (close world) (start world before)).2 ↔
      ¬(world.keeps = false ∧ BodyRaises world request before) := by
  have after : (admitOperation world (repairBody world request) (start world before)).2 =
      (release world (bodyEnd world request before)).2 :=
    acquired_state world acquires _ _
  have leased : Leased (bodyEnd world request before) := body_end_leased
  have opened : OpenIff (BodyRaises world request before) (bodyEnd world request before) :=
    body_end_open
  by_cases raises : BodyRaises world request before
  · cases keeps : world.keeps with
    | true =>
        have given : Leased (admitOperation world (repairBody world request)
            (start world before)).2 := by
          rw [after, release_state, keeps]
          refine ⟨?_, rfl⟩
          intro moment member writing
          simp only [List.mem_append, List.mem_singleton] at member
          rcases member with earlier | rfl
          · exact leased.fine moment earlier writing
          · rfl
        have fine := (keeps_rest (leased_rollback _) leased_close given).fine
        simpa [keeps] using fine
    | false =>
        have given : Exposed (admitOperation world (repairBody world request)
            (start world before)).2 := by
          rw [after, release_state, keeps]
          exact ⟨⟨_, false⟩, List.mem_append_right _ (List.mem_singleton_self _),
            opened.mpr raises, rfl⟩
        have exposed := keeps_rest (exposed_rollback _) exposed_close given
        simpa [raises] using not_fine_of_exposed exposed
  · have closed : (bodyEnd world request before).pending = none := by
      simpa using mt opened.mp raises
    have given : Idle (admitOperation world (repairBody world request)
        (start world before)).2 := by
      rw [after, release_state]
      refine ⟨?_, closed⟩
      intro moment member writing
      simp only [List.mem_append, List.mem_singleton] at member
      rcases member with earlier | rfl
      · exact leased.fine moment earlier writing
      · simp [closed] at writing
    have fine := (keeps_rest (idle_rollback _) idle_close given).fine
    simpa [raises] using fine

theorem start_idle : Idle (start world before) :=
  ⟨fun _ member => absurd member List.not_mem_nil, rfl⟩

theorem lease_covers_transaction :
    Covered world request before ↔
      ¬(OwnLease world request ∧ BodyRaises world request before) := by
  unfold Covered applyProfileRepairs OwnLease
  cases profileRepairRequestError request with
  | some reason => simpa using (start_idle world before).fine
  | none =>
      dsimp only
      split_ifs with absent missing
      · simp only [Bool.not_eq_true'] at absent
        simpa [absent] using (start_idle world before).fine
      · simp only [Bool.not_eq_true'] at missing
        simpa [missing] using (start_idle world before).fine
      · simp only [Bool.not_eq_true', Bool.not_eq_false] at absent missing
        cases admission : world.admission with
        | refused =>
            have given : Idle (admitOperation world (repairBody world request)
                (start world before)).2 := by
              simp only [admitOperation, admission]
              exact start_idle world before
            simpa using (keeps_rest (idle_rollback _) idle_close given).fine
        | nested =>
            have given : Leased (admitOperation world (repairBody world request)
                (start world before)).2 := by
              simp only [admitOperation, admission]
              apply leased_repair_body
              exact ⟨(start_idle world before).fine, by simp [start, admission]⟩
            simpa using (keeps_rest (leased_rollback _) leased_close given).fine
        | acquired =>
            rw [acquired_fine_iff world request before admission]
            simp [absent, missing]

end

/-! ## A backup that fails -/

def fullDisk : World Unit Unit where
  decimal := PythonInt.arabicDigits
  values := ⟨fun _ => false, fun _ _ => true⟩
  isFile := true
  api := true
  admission := .acquired
  connects := true
  metadata _ := .ok (some fun key => if key = "embedding_model" then some "model-a" else some "4")
  begins := true
  backup := ⟨true, true, .ok "ok", false, "backups/cashew-integrity-1.db"⟩
  repair content := (content, .missing)
  inspect content := (content, .missing)
  compares := true
  rollsBack := true
  commit := .succeeds
  inspectAfter _ := .missing
  comparesAfter := true
  releases := true
  keeps := false
  rollsBackLate := true
  closes := true

def anyRepair : Request where
  deadlineSeconds := some 5
  batchSize := 100
  maxItems := 1000
  permanencePolicy := "report"
  expectedModel := none
  expectedDimension := none
  actions := none

set_option maxRecDepth 4000 in
/-- The transaction is still open when the lease is gone, and rolled back only then. -/
theorem failed_backup_uncovered : ¬∀ (world : World Unit Unit) (request : Request),
    Covered world request () := by
  intro covered
  have member : ⟨true, false⟩ ∈
      (applyProfileRepairs fullDisk anyRepair (start fullDisk ())).2.history := by
    decide
  exact absurd (covered fullDisk anyRepair ⟨true, false⟩ member rfl) (by decide)

end HermesCashew.IntegrityRepair
