import HermesCashew.IntegrityRepair

/-!
# What a repair report promises

A report is compared with the database that is left behind. The handler only looks at
three flags and at the open transaction; `Excused` is what these say about the database
wherever the body may raise.
-/

namespace HermesCashew.IntegrityRepair

open HermesCashew.Raising
open HermesCashew.Raising.Block

set_option autoImplicit false

variable {Content Value Result : Type}

section

variable (world : World Content Value) (request : Request) (before : Content)

def repairedContent : Content :=
  (world.inspect (world.repair before).1).1

/-- Zero and missing entries are equal. -/
def Agrees (repair : Repair Value) (inspection : Inspection Value) : Prop :=
  ∃ counts remaining, inspection.counts = some counts ∧ repair.remaining = some remaining ∧
    ∀ key ∈ actionableCountKeys request.actions request.permanencePolicy,
      sameEntry world.values (entry world.values counts key)
        (entry world.values remaining key) = true

def Clean (inspection : Inspection Value) : Prop :=
  ∃ counts, inspection.counts = some counts ∧
    ∀ key ∈ actionableCountKeys request.actions request.permanencePolicy,
      entry world.values counts key = none

def Stored (path : String) (state : State Content Value) : Prop :=
  ⟨path, before, "ok"⟩ ∈ state.backups

def Successful (report : Report Value) : Prop :=
  report.status.among ["completed", "partial"] = true

structure Truthful (report : Report Value) (after : State Content Value) : Prop where
  unchanged : report.committed = none ∨ report.committed = some (some false) →
    after.durable = before
  durable : report.committed = some (some true) → after.durable = repairedContent world before
  unknown : report.committed = some none →
    report.mutationUncertain = true ∧ report.recoveryRequired = true
  verified : Successful report → report.committed = some (some true) ∧
    ∃ repair first second, report.status = repair.status ∧
      (world.repair before).2 = .returns repair ∧
      (world.inspect (world.repair before).1).2 = .returns first ∧
      world.inspectAfter (repairedContent world before) = .returns second ∧
      Agrees world request repair first ∧ Agrees world request repair second ∧
      (report.status = .text "completed" →
        Clean world request first ∧ Clean world request second)
  backed : report.committed = some (some true) ∨ report.committed = some none →
    ∃ path, report.backupPath = some path ∧ Stored before path after

/-! ## Assertions -/

structure Untouched (state : State Content Value) : Prop where
  durable : state.durable = before
  attempted : state.commitAttempted = false
  succeeded : state.commitSucceeded = false

structure Writing (content : Content) (state : State Content Value) : Prop extends
    Untouched before state where
  pending : state.pending = some content

structure Saved (path : String) (state : State Content Value) : Prop where
  named : state.backupPath = some path
  stored : Stored before path state

inductive Excused (state : State Content Value) : Prop where
  | untouched (kept : Untouched before state)
  | attempted (flag : state.commitAttempted = true) (failed : state.commitSucceeded = false)
      (path : String) (saved : Saved before path state)
      (kept : state.pending.isSome = true → state.durable = before)
  | succeeded (flag : state.commitSucceeded = true) (closed : state.pending = none)
      (repaired : state.durable = repairedContent world before) (path : String)
      (saved : Saved before path state)

end

section

variable {world : World Content Value} {request : Request} {before content : Content}
variable {path : String} {state : State Content Value}

theorem blind_untouched : Blind (Untouched before : State Content Value → Prop) :=
  fun _ _ kept => ⟨kept.1, kept.2, kept.3⟩

theorem blind_writing : Blind (Writing before content : State Content Value → Prop) :=
  fun state moments writing =>
    ⟨blind_untouched state moments writing.toUntouched, writing.pending⟩

theorem blind_stored : Blind (Stored before path : State Content Value → Prop) :=
  fun _ _ stored => stored

theorem blind_saved : Blind (Saved before path : State Content Value → Prop) :=
  fun _ _ saved => ⟨saved.1, saved.2⟩

theorem blind_excused : Blind (Excused world before) := by
  intro state moments excused
  cases excused with
  | untouched kept => exact .untouched (blind_untouched state moments kept)
  | attempted flag failed path saved kept =>
      exact .attempted flag failed path (blind_saved state moments saved) kept
  | succeeded flag closed repaired path saved =>
      exact .succeeded flag closed repaired path (blind_saved state moments saved)

/-! ## The operations -/

theorem connect_ends :
    Ends (fun state => Untouched before state ∧ state.pending = none) (connect world)
      (fun _ state => Untouched before state ∧ state.pending = none)
      (fun _ => Untouched before) := by
  apply observe_ends
  · apply Ends.bind (ensure_ends fun state held _ => held.1)
    intro _
    apply update_ends
    rintro state ⟨⟨kept, idle⟩, -⟩
    exact ⟨⟨kept.1, kept.2, kept.3⟩, idle⟩
  · exact fun _ => blind_untouched.and (blind_pending none)
  · exact blind_untouched

theorem profile_identity_ends :
    Ends (fun state => Untouched before state ∧ state.pending = none) (profileIdentity world)
      (fun _ state => Untouched before state ∧ state.pending = none)
      (fun _ => Untouched before) := by
  apply observe_ends
  · intro state held
    cases answer : world.metadata state.durable with
    | ok values => simpa only [answer] using held
    | error error => simpa only [answer] using held.1
  · exact fun _ => blind_untouched.and (blind_pending none)
  · exact blind_untouched

theorem begin_immediate_ends :
    Ends (fun state => Untouched before state ∧ state.pending = none) (beginImmediate world)
      (fun _ => Writing before before) (fun _ => Untouched before) := by
  apply observe_ends
  · apply Ends.bind (ensure_ends fun state held _ => held.1)
    intro _
    apply update_ends
    rintro state ⟨⟨kept, idle⟩, -⟩
    exact ⟨⟨kept.1, kept.2, kept.3⟩, congrArg some kept.durable⟩
  · exact fun _ => blind_writing
  · exact blind_untouched

theorem create_verified_backup_ends :
    Ends (Writing before content) (createVerifiedBackup world)
      (fun path state => Writing before content state ∧ Stored before path state)
      (fun _ => Untouched before) := by
  apply observe_ends
  · apply Ends.bind (ensure_ends fun state held _ => held.toUntouched)
    intro _
    apply Ends.bind (ensure_ends fun state held _ => held.1.toUntouched)
    intro _ state held
    have writing : Writing before content state := held.1.1
    simp only [bind_apply, read]
    cases world.backup.integrityCheck with
    | error error => exact writing.toUntouched
    | ok answer =>
        by_cases fine : answer = "ok"
        · cases world.backup.places with
          | false => simpa [ensure, fine, bind_apply, Block.raise] using writing.toUntouched
          | true =>
              subst fine
              refine ⟨⟨⟨writing.1.1, writing.1.2, writing.1.3⟩, writing.pending⟩, ?_⟩
              rw [writing.durable]
              exact List.mem_cons_self
        · simpa [ensure, fine, bind_apply, Block.raise] using writing.toUntouched
  · exact fun _ => blind_writing.and blind_stored
  · exact blind_untouched

theorem apply_integrity_repairs_ends :
    Ends (fun state => Writing before before state ∧ Saved before path state)
      (applyIntegrityRepairs world)
      (fun repair state => (Writing before (world.repair before).1 state ∧
        Saved before path state) ∧ repair = repairReply (world.repair before).2)
      (fun _ => Excused world before) := by
  apply observe_ends
  · rintro state ⟨writing, saved⟩
    simp only [writing.pending]
    exact ⟨⟨⟨⟨writing.1.1, writing.1.2, writing.1.3⟩, rfl⟩, saved.1, saved.2⟩, trivial⟩
  · exact fun _ => (blind_writing.and blind_saved).and (blind_const _)
  · exact blind_excused

theorem inspect_integrity_ends :
    Ends (fun state => Writing before content state ∧ Saved before path state)
      (inspectIntegrity world)
      (fun inspection state => (Writing before (world.inspect content).1 state ∧
        Saved before path state) ∧ inspection = inspectionReply (world.inspect content).2)
      (fun _ => Excused world before) := by
  apply observe_ends
  · rintro state ⟨writing, saved⟩
    simp only [writing.pending]
    exact ⟨⟨⟨⟨writing.1.1, writing.1.2, writing.1.3⟩, rfl⟩, saved.1, saved.2⟩, trivial⟩
  · exact fun _ => (blind_writing.and blind_saved).and (blind_const _)
  · exact blind_excused

theorem verify_ends {compares : Bool} {repair : Repair Value} {inspection : Inspection Value}
    {held : State Content Value → Prop} (blind : Blind held)
    (implied : ∀ state, held state → Excused world before state) :
    Ends held (verify world request compares repair inspection)
      (fun verified state => held state ∧ verified = repairVerificationMatches world.values repair
        inspection request.actions request.permanencePolicy)
      (fun _ => Excused world before) := by
  apply observe_ends
  · apply Ends.bind (ensure_ends fun state held _ => implied state held)
    intro _
    apply Ends.bind (ensure_ends fun state held _ => implied state held.1)
    intro _
    apply Ends.value
    exact fun state held => ⟨held.1.1, rfl⟩
  · exact fun _ => blind.and (blind_const _)
  · exact blind_excused

theorem rollback_ends {succeeds : Bool} {held : State Content Value → Prop}
    (implied : ∀ state, held state → Untouched before state) :
    Ends held (rollback succeeds)
      (fun _ => Untouched before) (fun _ => Excused world before) := by
  apply observe_ends
  · apply Ends.bind (ensure_ends fun state given _ => .untouched (implied state given))
    intro _
    apply update_ends
    intro state given
    have kept := implied state given.1
    exact ⟨kept.1, kept.2, kept.3⟩
  · exact fun _ => blind_untouched
  · exact blind_excused

/-! ## After the commit -/

structure Committed (world : World Content Value) (before : Content) (path : String)
    (state : State Content Value) : Prop where
  flag : state.commitSucceeded = true
  closed : state.pending = none
  repaired : state.durable = repairedContent world before
  saved : Saved before path state

theorem Committed.excused (committed : Committed world before path state) :
    Excused world before state :=
  .succeeded committed.flag committed.closed committed.repaired path committed.saved

theorem blind_committed : Blind (Committed world before path) :=
  fun state moments committed => ⟨committed.flag, committed.closed, committed.repaired,
    blind_saved state moments committed.saved⟩

structure Attempted (before : Content) (path : String) (pending : Option Content)
    (state : State Content Value) : Prop where
  durable : state.durable = before
  flag : state.commitAttempted = true
  failed : state.commitSucceeded = false
  pending : state.pending = pending
  saved : Saved before path state

theorem commit_ends :
    Ends (Attempted before path (some (repairedContent world before))) (commit world)
      (fun _ state => state.durable = repairedContent world before ∧ state.pending = none ∧
        Saved before path state)
      (fun _ => Excused world before) := by
  apply observe_ends
  · intro state attempted
    cases outcome : world.commit with
    | succeeds =>
        simp only [attempted.pending, Option.getD_some]
        exact ⟨trivial, trivial, attempted.saved.1, attempted.saved.2⟩
    | failsOpen =>
        exact .attempted attempted.flag attempted.failed path attempted.saved
          fun _ => attempted.durable
    | failsClosed kept =>
        refine .attempted attempted.flag attempted.failed path
          ⟨attempted.saved.1, attempted.saved.2⟩ ?_
        simp
  · exact fun _ state moments held => ⟨held.1, held.2.1, held.2.2.1, held.2.2.2⟩
  · exact blind_excused

theorem inspect_after_ends :
    Ends (Committed world before path) (inspectIntegrity world)
      (fun inspection state => Committed world before path state ∧
        inspection = inspectionReply (world.inspectAfter (repairedContent world before)))
      (fun _ => Excused world before) := by
  apply observe_ends
  · intro state committed
    simp only [committed.closed, committed.repaired]
    exact ⟨⟨committed.flag, committed.closed, committed.repaired, committed.saved⟩, trivial⟩
  · exact fun _ => blind_committed.and (blind_const _)
  · exact blind_excused

/-! ## What verification says -/

theorem replied_of_among {reply : Reply (Repair Value)}
    (settled : (repairReply reply).status.among ["completed", "partial"] = true) :
    reply = .returns (repairReply reply) := by
  cases reply with
  | missing => simp [repairReply, rejected, Status.among] at settled
  | raises => simp [repairReply, rejected, Status.among] at settled
  | returns repair => rfl

theorem inspected_of_among {reply : Reply (Inspection Value)}
    (readable : (inspectionReply reply).status.among ["ok", "findings"] = true) :
    reply = .returns (inspectionReply reply) := by
  cases reply with
  | missing => simp [inspectionReply, Status.among] at readable
  | raises => simp [inspectionReply, Status.among] at readable
  | returns inspection => rfl

structure Verified (world : World Content Value) (request : Request) (repair : Repair Value)
    (inspection : Inspection Value) : Prop where
  readable : inspection.status.among ["ok", "findings"] = true
  agrees : Agrees world request repair inspection
  clean : repair.status = .text "completed" → Clean world request inspection

theorem verified_of_matches {repair : Repair Value} {inspection : Inspection Value}
    (matched : repairVerificationMatches world.values repair inspection request.actions
      request.permanencePolicy = true) : Verified world request repair inspection := by
  unfold repairVerificationMatches at matched
  by_cases readable : inspection.status.among ["ok", "findings"] = true
  · rw [readable] at matched
    simp only [Bool.not_true, Bool.false_eq_true, if_false] at matched
    cases counts : inspection.counts with
    | none => simp [counts] at matched
    | some actual =>
        cases remaining : repair.remaining with
        | none => simp [counts, remaining] at matched
        | some declared =>
            simp only [counts, remaining] at matched
            split_ifs at matched with differs completed declaredPartial
            · refine ⟨readable, ⟨actual, declared, counts, remaining, ?_⟩, ?_⟩
              · simpa using differs
              · intro _
                refine ⟨actual, counts, ?_⟩
                simpa using matched
            · refine ⟨readable, ⟨actual, declared, counts, remaining, ?_⟩, ?_⟩
              · simpa using differs
              · exact fun same => absurd same completed
  · simp [readable] at matched

/-! ## The reports -/

theorem truthful_of_unchanged {report : Report Value} {after : State Content Value}
    (said : report.committed = none ∨ report.committed = some (some false))
    (modest : ¬Successful report) (kept : after.durable = before) :
    Truthful world request before report after := by
  refine ⟨fun _ => kept, ?_, ?_, fun bold => absurd bold modest, ?_⟩
  · intro committed
    rcases said with silent | denied
    · rw [silent] at committed
      cases committed
    · rw [denied] at committed
      cases committed
  · intro unknown
    rcases said with silent | denied
    · rw [silent] at unknown
      cases unknown
    · rw [denied] at unknown
      cases unknown
  · intro open_
    rcases said with silent | denied
    · simp [silent] at open_
    · simp [denied] at open_

theorem failure_modest (record : Failure) (repair : Option (Repair Value)) :
    ¬Successful (.failure record repair : Report Value) := by
  simp [Successful, Report.status, Status.among]

/-- A failure that says `committed=True` or `committed=None`. -/
theorem truthful_failure {record : Failure} {after : State Content Value}
    (said : record.committed = some true ∨ record.committed = none)
    (repaired : record.committed = some true → after.durable = repairedContent world before)
    (uncertain : record.committed = none →
      record.mutationUncertain = true ∧ record.recoveryRequired = true)
    (named : record.backupPath = some path) (stored : Stored before path after) :
    Truthful world request before (fail record) after := by
  refine ⟨?_, ?_, ?_, fun bold => absurd bold (failure_modest record none), ?_⟩
  · intro denied
    rcases said with yes | unknown
    · simp [fail, Report.committed, yes] at denied
    · simp [fail, Report.committed, unknown] at denied
  · intro committed
    exact repaired (by simpa [fail, Report.committed] using committed)
  · intro unknown
    exact uncertain (by simpa [fail, Report.committed] using unknown)
  · intro _
    exact ⟨path, named, stored⟩

/-- Both inspections agree with the result that is returned. -/
theorem truthful_repaired {repair : Repair Value} {first second : Inspection Value}
    {after : State Content Value} (settled : repair.status.among ["completed", "partial"] = true)
    (replied : repair = repairReply (world.repair before).2)
    (read : first = inspectionReply (world.inspect (world.repair before).1).2)
    (readAfter : second = inspectionReply (world.inspectAfter (repairedContent world before)))
    (one : Verified world request repair first) (other : Verified world request repair second)
    (committed : Committed world before path after) :
    Truthful world request before (.repaired repair path first second) after := by
  refine ⟨?_, fun _ => committed.repaired, ?_, ?_, ?_⟩
  · intro denied
    simp [Report.committed] at denied
  · intro unknown
    simp [Report.committed] at unknown
  · intro _
    refine ⟨rfl, repair, first, second, rfl, ?_, ?_, ?_, one.agrees, other.agrees, ?_⟩
    · rw [replied] at settled ⊢
      exact replied_of_among settled
    · have readable := one.readable
      rw [read] at readable ⊢
      exact inspected_of_among readable
    · have readable := other.readable
      rw [readAfter] at readable ⊢
      exact inspected_of_among readable
    · intro completed
      exact ⟨one.clean completed, other.clean completed⟩
  · intro _
    exact ⟨path, rfl, committed.saved.stored⟩

/-- The release of the lease may still raise. -/
structure Reported (world : World Content Value) (request : Request) (before : Content)
    (report : Report Value) (state : State Content Value) : Prop where
  truthful : Truthful world request before report state
  excused : Excused world before state

theorem commit_repair_ends {repair : Repair Value} {first : Inspection Value}
    (settled : repair.status.among ["completed", "partial"] = true)
    (replied : repair = repairReply (world.repair before).2)
    (read : first = inspectionReply (world.inspect (world.repair before).1).2)
    (one : Verified world request repair first) :
    Ends (fun state => Writing before (repairedContent world before) state ∧
        Saved before path state)
      (commitRepair world request path repair first) (Reported world request before)
      (fun _ => Excused world before) := by
  have marked : Ends (fun state => Writing before (repairedContent world before) state ∧
      Saved before path state)
      (update fun state => { state with commitAttempted := true })
      (fun _ => Attempted before path (some (repairedContent world before)))
      (fun _ => Excused world before) :=
    update_ends fun state held => ⟨held.1.durable, rfl, held.1.succeeded, held.1.pending,
      held.2.1, held.2.2⟩
  have succeeded : Ends (fun state => state.durable = repairedContent world before ∧
      state.pending = none ∧ Saved before path state)
      (update fun state => { state with commitSucceeded := true })
      (fun _ => Committed world before path) (fun _ => Excused world before) :=
    update_ends fun state held => ⟨rfl, held.2.1, held.1, held.2.2.1, held.2.2.2⟩
  apply Ends.bind marked
  intro _
  apply Ends.bind commit_ends
  intro _
  apply Ends.bind succeeded
  intro _
  apply Ends.bind inspect_after_ends
  intro second
  apply Ends.bind (verify_ends (blind_committed.and (blind_const _))
    fun state held => held.1.excused)
  intro verified state held
  obtain ⟨⟨committed, readAfter⟩, decided⟩ := held
  cases verified with
  | false =>
      exact ⟨truthful_failure (.inl rfl) (fun _ => committed.repaired)
        (fun said => nomatch said) rfl committed.saved.stored, committed.excused⟩
  | true =>
      exact ⟨truthful_repaired settled replied read readAfter one
        (verified_of_matches decided.symm) committed, committed.excused⟩

theorem withdrawn_ends (record : Failure) (extra : Option (Repair Value))
    (said : record.committed = some false) :
    Ends (fun state => Writing before content state ∧ Saved before path state)
      (do rollback world.rollsBack
          pure (.failure record extra) : Run Content Value (Report Value))
      (Reported world request before) (fun _ => Excused world before) := by
  apply Ends.bind (rollback_ends fun state held => held.1.toUntouched)
  intro _
  apply Ends.value
  intro state kept
  exact ⟨truthful_of_unchanged (.inr (congrArg some said)) (failure_modest record extra)
    kept.durable, .untouched kept⟩

theorem verify_repair_ends {repair : Repair Value}
    (settled : repair.status.among ["completed", "partial"] = true)
    (replied : repair = repairReply (world.repair before).2) :
    Ends (fun state => Writing before (world.repair before).1 state ∧ Saved before path state)
      (verifyRepair world request path repair) (Reported world request before)
      (fun _ => Excused world before) := by
  apply Ends.bind inspect_integrity_ends
  intro first
  apply Ends.bind (verify_ends ((blind_writing.and blind_saved).and (blind_const _))
    fun state held => .untouched held.1.1.toUntouched)
  intro verified
  cases verified with
  | false => exact Ends.strengthen (withdrawn_ends _ none rfl) fun state held => held.1.1
  | true =>
      intro state held
      obtain ⟨⟨kept, read⟩, decided⟩ := held
      exact commit_repair_ends settled replied read (verified_of_matches decided.symm) state kept

theorem settle_repair_ends {repair : Repair Value}
    (replied : repair = repairReply (world.repair before).2) :
    Ends (fun state => Writing before (world.repair before).1 state ∧ Saved before path state)
      (settleRepair world request path repair) (Reported world request before)
      (fun _ => Excused world before) := by
  have looked : Ends (fun state => Writing before (world.repair before).1 state ∧
      Saved before path state) (statusAmong ["completed", "partial"] repair.status)
      (fun settled state => (Writing before (world.repair before).1 state ∧
        Saved before path state) ∧ settled = repair.status.among ["completed", "partial"])
      (fun _ => Excused world before) := by
    apply Ends.bind (ensure_ends fun state held _ => .untouched held.1.toUntouched)
    intro _
    apply Ends.value
    exact fun state held => ⟨held.1, rfl⟩
  apply Ends.bind looked
  intro settled
  by_cases among : repair.status.among ["completed", "partial"] = true
  · cases settled with
    | false => exact fun state held => absurd (held.2.trans among) Bool.false_ne_true
    | true =>
        apply Ends.strengthen _ fun state held => held.1
        exact verify_repair_ends among replied
  · cases settled with
    | false => exact Ends.strengthen (withdrawn_ends _ (some repair) rfl) fun state held => held.1
    | true => exact fun state held => absurd held.2.symm among

/-- Nothing was written yet. -/
theorem reported_early {reason : String} {state : State Content Value}
    (kept : Untouched before state) :
    Reported world request before (fail { reason := reason }) state :=
  ⟨truthful_of_unchanged (.inr rfl) (failure_modest _ none) kept.durable, .untouched kept⟩

theorem repair_in_transaction_ends :
    Ends (fun state => Untouched before state ∧ state.pending = none)
      (repairInTransaction world request) (Reported world request before)
      (fun _ => Excused world before) := by
  apply Ends.bind (Ends.excuse begin_immediate_ends fun _ _ => .untouched)
  intro _
  apply Ends.bind (Ends.excuse create_verified_backup_ends fun _ _ => .untouched)
  intro path
  have named : Ends (fun state => Writing before before state ∧ Stored before path state)
      (update fun state => { state with backupPath := some path })
      (fun _ state => Writing before before state ∧ Saved before path state)
      (fun _ => Excused world before) :=
    update_ends fun state held =>
      ⟨⟨⟨held.1.1.1, held.1.1.2, held.1.1.3⟩, held.1.pending⟩, rfl, held.2⟩
  apply Ends.bind named
  intro _
  apply Ends.bind apply_integrity_repairs_ends
  intro repair
  have kept : Ends (fun state => (Writing before (world.repair before).1 state ∧
      Saved before path state) ∧ repair = repairReply (world.repair before).2)
      (update fun state => { state with repairResult := some repair })
      (fun _ state => (Writing before (world.repair before).1 state ∧
        Saved before path state) ∧ repair = repairReply (world.repair before).2)
      (fun _ => Excused world before) :=
    update_ends fun state held => ⟨⟨⟨⟨held.1.1.1.1, held.1.1.1.2, held.1.1.1.3⟩,
      held.1.1.pending⟩, held.1.2.1, held.1.2.2⟩, held.2⟩
  apply Ends.bind kept
  intro _ state held
  exact settle_repair_ends held.2 state held.1

theorem repair_body_ends :
    Ends (fun state => Untouched before state ∧ state.pending = none) (repairBody world request)
      (Reported world request before) (fun _ => Excused world before) := by
  apply Ends.bind (Ends.excuse connect_ends fun _ _ => .untouched)
  intro _
  apply Ends.bind (Ends.excuse profile_identity_ends fun _ _ => .untouched)
  intro identity
  cases identity with
  | none => exact Ends.value fun state held => reported_early held.1
  | some stored =>
      obtain ⟨storedModel, storedDimension⟩ := stored
      dsimp only
      split_ifs with model dimension
      · exact Ends.value fun state held => reported_early held.1
      · exact Ends.value fun state held => reported_early held.1
      · exact repair_in_transaction_ends

/-! ## The handler and the lease -/

theorem repair_failed_ends :
    Ends (Excused world before) (repairFailed world) (Truthful world request before)
      (fun _ _ => True) := by
  intro state excused
  unfold repairFailed
  by_cases writing : (state.connected && state.pending.isSome) = true
  · rw [if_pos writing]
    have opened : state.pending.isSome = true := (Bool.and_eq_true _ _ ▸ writing).2
    have kept : state.durable = before := by
      cases excused with
      | untouched kept => exact kept.durable
      | attempted _ _ _ _ kept => exact kept opened
      | succeeded _ closed => simp [closed] at opened
    cases late : world.rollsBackLate with
    | true =>
        apply truthful_of_unchanged (.inr rfl) (failure_modest _ none)
        exact kept
    | false => trivial
  · rw [if_neg writing]
    cases excused with
    | untouched kept =>
        apply truthful_of_unchanged (.inr _) (failure_modest _ none) kept.durable
        simp [Report.committed, unrolledFailure, kept.succeeded, kept.attempted]
    | attempted flag failed path saved =>
        have unknown : (unrolledFailure state).committed = none := by
          simp [unrolledFailure, flag, failed]
        apply truthful_failure (.inr unknown) _ _ saved.named saved.stored
        · simp [unknown]
        · simp [unrolledFailure, flag, failed]
    | succeeded flag closed repaired path saved =>
        have known : (unrolledFailure state).committed = some true := by
          simp [unrolledFailure, flag]
        apply truthful_failure (.inl known) (fun _ => repaired) _ saved.named saved.stored
        simp [known]

/-- Only the lease, the connection and the history may differ. -/
structure Same (one other : State Content Value) : Prop where
  durable : other.durable = one.durable
  pending : other.pending = one.pending
  backups : other.backups = one.backups
  backupPath : other.backupPath = one.backupPath
  attempted : other.commitAttempted = one.commitAttempted
  succeeded : other.commitSucceeded = one.commitSucceeded

theorem truthful_congr {report : Report Value} {one other : State Content Value}
    (durable : other.durable = one.durable) (backups : other.backups = one.backups)
    (truthful : Truthful world request before report one) :
    Truthful world request before report other := by
  refine ⟨?_, ?_, truthful.unknown, truthful.verified, ?_⟩
  · intro said
    rw [durable]
    exact truthful.unchanged said
  · intro said
    rw [durable]
    exact truthful.durable said
  · intro said
    obtain ⟨path, named, stored⟩ := truthful.backed said
    refine ⟨path, named, ?_⟩
    unfold Stored at stored ⊢
    rw [backups]
    exact stored

theorem saved_congr {one other : State Content Value} (same : Same one other)
    (saved : Saved before path one) : Saved before path other := by
  refine ⟨same.backupPath.trans saved.named, ?_⟩
  have stored := saved.stored
  unfold Stored at stored ⊢
  rw [same.backups]
  exact stored

theorem excused_congr {one other : State Content Value} (same : Same one other)
    (excused : Excused world before one) : Excused world before other := by
  cases excused with
  | untouched kept =>
      exact .untouched ⟨same.durable.trans kept.durable, same.attempted.trans kept.attempted,
        same.succeeded.trans kept.succeeded⟩
  | attempted flag failed path saved kept =>
      refine .attempted (same.attempted.trans flag) (same.succeeded.trans failed) path
        (saved_congr same saved) ?_
      rw [same.pending, same.durable]
      exact kept
  | succeeded flag closed repaired path saved =>
      exact .succeeded (same.succeeded.trans flag) (same.pending.trans closed)
        (same.durable.trans repaired) path (saved_congr same saved)

theorem release_same (world : World Content Value) (state : State Content Value) :
    Same state (release world state).2 := by
  cases released : world.releases with
  | true => constructor <;> simp [release, observe, ensure, released, update, bind_apply]
  | false =>
      constructor <;> simp [release, observe, ensure, released, update, bind_apply, Block.raise]

theorem close_durable (world : World Content Value) (state : State Content Value) :
    (close world state).2.durable = state.durable ∧
      (close world state).2.backups = state.backups := by
  unfold close observe
  by_cases connected : state.connected = true
  · simp [connected]
  · simp [connected]

theorem admit_operation_ends :
    Ends (fun state => Untouched before state ∧ state.pending = none)
      (admitOperation world (repairBody world request)) (Reported world request before)
      (fun _ => Excused world before) := by
  unfold admitOperation
  cases world.admission with
  | refused => exact Ends.raise fun state held => .untouched held.1
  | nested => exact repair_body_ends
  | acquired =>
      have acquired : Ends (fun state => Untouched before state ∧ state.pending = none) acquire
          (fun _ state => Untouched before state ∧ state.pending = none)
          (fun _ => Excused world before) :=
        fun state held => ⟨⟨held.1.1, held.1.2, held.1.3⟩, held.2⟩
      apply Ends.bind acquired
      intro _
      apply Ends.finish repair_body_ends
      · intro report state reported
        have same := release_same world state
        cases ran : release world state with
        | mk result after =>
            rw [ran] at same
            have excused := excused_congr same reported.excused
            cases result with
            | ok _ =>
                exact ⟨truthful_congr same.durable same.backups reported.truthful, excused⟩
            | error _ => exact excused
      · intro error state excused
        have same := release_same world state
        cases ran : release world state with
        | mk result after =>
            rw [ran] at same
            cases result with
            | ok _ => exact excused_congr same excused
            | error _ => exact excused_congr same excused

theorem workflow_ends (world : World Content Value) (request : Request) (before : Content) :
    Ends (fun state => Untouched before state ∧ state.pending = none)
      (applyProfileRepairs world request) (Truthful world request before) (fun _ _ => True) := by
  unfold applyProfileRepairs
  cases profileRepairRequestError request with
  | some reason => exact Ends.value fun state held => (reported_early held.1).truthful
  | none =>
      dsimp only
      split_ifs
      · exact Ends.value fun state held => (reported_early held.1).truthful
      · exact Ends.value fun state held => truthful_of_unchanged (.inl rfl)
          (by simp [Successful, Report.status, Status.among]) held.1.durable
      · apply Ends.finish
        · apply Ends.except (Ends.weaken admit_operation_ends fun report state => Reported.truthful)
          exact fun _ => repair_failed_ends
        · intro report state truthful
          have kept := close_durable world state
          cases ran : close world state with
          | mk result after =>
              rw [ran] at kept
              cases result with
              | ok _ => exact truthful_congr kept.1 kept.2 truthful
              | error _ => trivial
        · intro error state _
          cases ran : close world state with
          | mk result after => cases result <;> trivial

end

theorem repair_report_tells_the_truth (world : World Content Value) (request : Request)
    (before : Content) (report : Report Value) (after : State Content Value)
    (returned : applyProfileRepairs world request (start world before) = (.ok report, after)) :
    Truthful world request before report after := by
  have ran := workflow_ends world request before (start world before) ⟨⟨rfl, rfl, rfl⟩, rfl⟩
  rw [returned] at ran
  exact ran

/-! ## A repair that completes -/

def cleared : Repair Nat where
  status := .text "completed"
  mutated := true
  reason := none
  remaining := some fun _ => none
  skipped := false
  failures := false

def noFindings : Inspection Nat :=
  ⟨.text "ok", some fun _ => some 0⟩

def clearing : World (List String) Nat where
  decimal := PythonInt.arabicDigits
  values := ⟨fun count => count ≠ 0, fun one other => one == other⟩
  isFile := true
  api := true
  admission := .acquired
  connects := true
  metadata _ := .ok (some fun key => if key = "embedding_model" then some "model-a" else some "4")
  begins := true
  backup := ⟨true, true, .ok "ok", true, "backups/cashew-integrity-1.db"⟩
  repair _ := ([], .returns cleared)
  inspect content := (content, .returns noFindings)
  compares := true
  rollsBack := true
  commit := .succeeds
  inspectAfter _ := .returns noFindings
  comparesAfter := true
  releases := true
  keeps := false
  rollsBackLate := true
  closes := true

def orphans : Request where
  deadlineSeconds := some 5
  batchSize := 100
  maxItems := 1000
  permanencePolicy := "report"
  expectedModel := none
  expectedDimension := none
  actions := some ["remove_orphan_embeddings"]

def clearedState : State (List String) Nat :=
  (applyProfileRepairs clearing orphans (start clearing ["ghost"])).2

set_option maxRecDepth 4000 in
theorem cleared_report_tells_the_truth :
    Truthful clearing orphans ["ghost"]
      (.repaired cleared "backups/cashew-integrity-1.db" noFindings noFindings) clearedState :=
  repair_report_tells_the_truth clearing orphans ["ghost"] _ _ rfl

end HermesCashew.IntegrityRepair
