import HermesCashew.Raising
import HermesCashew.ThinkClaim

/-!
# The think claim that health reports

One call of `_run_think_cycle_if_due` with the field `_think_claim_state`, which health
reports. Every statement of its two transactions may raise, and so may their commits. The
call has the graph to itself, and `think_cycle` leaves the provider's metadata alone.
-/

namespace HermesCashew.ThinkHealth

open HermesCashew.PythonInt
open HermesCashew.Raising
open HermesCashew.ThinkClaim

set_option autoImplicit false

/-- `assigned`: the call has written the field. -/
structure State where
  store : Store
  thinkClaimState : String
  assigned : Bool
  deriving DecidableEq, Repr

inductive Error where
  | operationAdmission
  | sqlite
  | valueError
  | other
  deriving DecidableEq, Repr

inductive Statement where
  | connect
  | beginImmediate
  | createTable
  | selectValues
  | rollback
  | writeCounter
  | writeClaim
  | selectEpoch
  | selectState
  | updateCounter
  | updateState
  | close
  deriving DecidableEq, Repr

/-- Which statements on a connection raise, and how its commit ends. -/
structure Connection where
  fails : Statement → Bool
  commit : Commit

/-- What happens during the call. -/
structure Call where
  admission : Option Error
  epoch : String
  first : Connection
  terminal : Terminal
  second : Connection

/-! ## Statements -/

def Connection.run (connection : Connection) (statement : Statement) : Block State Error Unit :=
  fun state => (if connection.fails statement then .error .sqlite else .ok (), state)

def Connection.runAll (connection : Connection) : List Statement → Block State Error Unit
  | [] => pure ()
  | statement :: rest => do
      connection.run statement
      connection.runAll rest

/-- `conn.commit()`, after the statements that lead to this store. -/
def Connection.save (connection : Connection) (written : Store) : Block State Error Unit :=
  fun state =>
    match connection.commit with
    | .committed => (.ok (), { state with store := written })
    | .failed => (.error .sqlite, state)
    | .ambiguous => (.error .sqlite, { state with store := written })

/-- `try: ...; finally: conn.close()` on a new connection. -/
def Connection.using {Value : Type} (connection : Connection) (body : Block State Error Value) :
    Block State Error Value := do
  connection.run .connect
  Block.finish body (connection.run .close)

/-- The rows of a `SELECT`. -/
def rows : Block State Error Store :=
  fun state => (.ok state.store, state)

def assign (text : String) : Block State Error Unit :=
  fun state => (.ok (), { state with thinkClaimState := text, assigned := true })

def printCounter (counter : Int) : Block State Error String :=
  fun state => (if Printable counter then .ok (pyStr counter) else .error .valueError, state)

/-! ## The call -/

inductive Due where
  | blocked
  | invalid
  | early (counter : Int)
  | due (counter : Int)
  deriving DecidableEq, Repr

def dueOf (decimal : Decimals) (store : Store) (interval : Int) : Due :=
  if store.thinkClaimState.getD "none" ∈ blockedStates then .blocked
  else
    match pyInt decimal (store.thinkCounter.getD "0") with
    | none => .invalid
    | some value => if value + 1 < interval then .early (value + 1) else .due (value + 1)

/-- The claim of a call. It is not numbered here. -/
def claimOf (interval counter : Int) (epoch : String) : Claim :=
  { interval := interval
    counter := counter
    epoch := epoch
    number := 0 }

def claimedStore (counter epoch : String) : Store where
  thinkCounter := some counter
  thinkClaimEpoch := some epoch
  thinkClaimState := some "in_flight"

def countTurn (decimal : Decimals) (connection : Connection) (interval : Int) (epoch : String)
    (store : Store) : Block State Error (Option Claim) :=
  match dueOf decimal store interval with
  | .blocked => do
      connection.run .rollback
      pure none
  | .invalid => do
      connection.run .writeCounter
      connection.save { store with thinkCounter := some "0" }
      pure none
  | .early counter => do
      let text ← printCounter counter
      connection.run .writeCounter
      connection.save { store with thinkCounter := some text }
      pure none
  | .due counter => do
      assign "in_flight"
      let text ← printCounter counter
      connection.run .writeClaim
      connection.save (claimedStore text epoch)
      pure (some (claimOf interval counter epoch))

def opening : List Statement := [.beginImmediate, .createTable, .selectValues]

def claimTransaction (decimal : Decimals) (connection : Connection) (interval : Int)
    (epoch : String) : Block State Error (Option Claim) := do
  connection.runAll opening
  let store ← rows
  countTurn decimal connection interval epoch store

def updates : Terminal → List Statement
  | .completed => [.updateCounter, .updateState]
  | .failed | .uncertain => [.updateState]

/-- The second transaction. The counter that it prints is smaller than the one that the
first has printed. -/
def finalTransaction (connection : Connection) (claim : Claim) (terminal : Terminal) :
    Block State Error Unit := do
  connection.runAll [.beginImmediate, .selectEpoch, .selectState]
  let store ← rows
  if claim.Current store then
    connection.runAll (updates terminal)
    assign terminal.text
    connection.save (finalizeThinkCycle store claim terminal)
  else connection.save store

/-- The body of the outer `try`. -/
def thinkOnce (decimal : Decimals) (call : Call) (interval : Int) : Block State Error Unit :=
  match call.admission with
  | some error => Block.raise error
  | none => do
      let made ← call.first.using (claimTransaction decimal call.first interval call.epoch)
      match made with
      | none => pure ()
      | some claim => call.second.using (finalTransaction call.second claim call.terminal)

/-- `except (OperationAdmissionError, sqlite3.Error)`. -/
def deferred : Error → Block State Error Unit
  | .operationAdmission | .sqlite => pure ()
  | .valueError => Block.raise .valueError
  | .other => Block.raise .other

def runThinkCycleIfDue (decimal : Decimals) (settings : Settings) (call : Call) :
    Block State Error Unit :=
  match thinkInterval settings with
  | none => pure ()
  | some interval => Block.except (thinkOnce decimal call interval) deferred

/-- `claim_state` in the health snapshot. -/
def reported (state : State) : Option String :=
  if state.thinkClaimState = "none" then none else some state.thinkClaimState

/-- When the call has written the field, health reports what is persisted. -/
def Agrees (state : State) : Prop :=
  state.assigned = true → reported state = state.store.thinkClaimState

/-! ## The condition -/

def Claims (decimal : Decimals) (settings : Settings) (call : Call) (store : Store)
    (interval counter : Int) : Prop :=
  thinkInterval settings = some interval ∧ call.admission = none ∧
    (∀ statement ∈ .connect :: opening, call.first.fails statement = false) ∧
    dueOf decimal store interval = .due counter

def Connection.Keeps (connection : Connection) (counter : Int) : Prop :=
  Printable counter ∧ connection.fails .writeClaim = false ∧ connection.commit ≠ .failed

/-- The call goes on to `think_cycle` and gets to the commit of its end. -/
def Call.Finalizes (call : Call) : Prop :=
  call.first.commit = .committed ∧ call.first.fails .close = false ∧
    ∀ statement ∈ [.connect, .beginImmediate, .selectEpoch, .selectState] ++ updates call.terminal,
      call.second.fails statement = false

/-- Nothing is written to the field whose transaction has no effect. -/
def Sound (decimal : Decimals) (settings : Settings) (call : Call) (store : Store) : Prop :=
  ∀ interval counter, Claims decimal settings call store interval counter →
    call.first.Keeps counter ∧ (call.Finalizes → call.second.commit ≠ .failed)

/-! ## The state after a block -/

variable {decimal : Decimals} {connection : Connection} {state : State}

theorem run_bind {Value : Type} (statement : Statement) (next : Block State Error Value) :
    ((do connection.run statement; next : Block State Error Value) state) =
      if connection.fails statement then (.error .sqlite, state) else next state := by
  rw [Block.bind_apply, Connection.run]
  cases connection.fails statement <;> rfl

theorem run_all_bind {Value : Type} (statements : List Statement)
    (next : Block State Error Value) :
    ((do connection.runAll statements; next : Block State Error Value) state) =
      if ∀ statement ∈ statements, connection.fails statement = false then next state
      else (.error .sqlite, state) := by
  induction statements with
  | nil => exact (if_pos (List.forall_mem_nil _)).symm
  | cons statement rest induction =>
      rw [Connection.runAll, Block.bind_assoc, run_bind, induction]
      simp only [List.forall_mem_cons]
      cases connection.fails statement <;> simp

theorem using_apply {Value : Type} (body : Block State Error Value) :
    connection.using body state =
      if connection.fails .connect then (.error .sqlite, state)
      else if connection.fails .close then (.error .sqlite, (body state).2)
      else body state := by
  rw [Connection.using, run_bind, Block.finish, Connection.run]
  cases connection.fails .close <;> rfl

theorem rows_bind {Value : Type} (next : Store → Block State Error Value) :
    ((do let store ← rows; next store : Block State Error Value) state) =
      next state.store state := rfl

theorem assign_bind {Value : Type} (text : String) (next : Block State Error Value) :
    ((do assign text; next : Block State Error Value) state) =
      next { state with thinkClaimState := text, assigned := true } := rfl

theorem print_bind {Value : Type} (counter : Int) (next : String → Block State Error Value) :
    ((do let text ← printCounter counter; next text : Block State Error Value) state) =
      if Printable counter then next (pyStr counter) state else (.error .valueError, state) := by
  rw [Block.bind_apply, printCounter]
  by_cases printable : Printable counter
  · simp only [printable, if_true]
  · simp only [printable, if_false]

/-- The field says `in_flight`. -/
def State.flying (state : State) : State :=
  { state with thinkClaimState := "in_flight", assigned := true }

/-- The claim of the first transaction is lost. -/
theorem count_turn_lost {interval counter : Int} {epoch : String}
    (due : dueOf decimal state.store interval = .due counter) (lost : ¬ connection.Keeps counter) :
    ∃ error, countTurn decimal connection interval epoch state.store state =
      (.error error, state.flying) := by
  rw [countTurn, due]
  dsimp only
  rw [assign_bind, print_bind]
  by_cases printable : Printable counter
  · rw [if_pos printable, run_bind]
    cases fails : connection.fails .writeClaim with
    | true => exact ⟨.sqlite, rfl⟩
    | false =>
        have failed : connection.commit = .failed :=
          not_not.mp fun other => lost ⟨printable, fails, other⟩
        refine ⟨.sqlite, ?_⟩
        rw [Block.bind_apply, Connection.save, failed]
        rfl
  · rw [if_neg printable]
    exact ⟨.valueError, rfl⟩

/-- The claim is persisted. Its commit may raise all the same. -/
theorem count_turn_kept {interval counter : Int} {epoch : String}
    (due : dueOf decimal state.store interval = .due counter) (kept : connection.Keeps counter) :
    countTurn decimal connection interval epoch state.store state =
      (if connection.commit = .committed then .ok (some (claimOf interval counter epoch))
        else .error .sqlite,
        { state.flying with store := claimedStore (pyStr counter) epoch }) := by
  obtain ⟨printable, writes, persists⟩ := kept
  rw [countTurn, due]
  dsimp only
  rw [assign_bind, print_bind, if_pos printable, run_bind, writes, Block.bind_apply,
    Connection.save]
  cases ended : connection.commit with
  | committed => rfl
  | failed => exact absurd ended persists
  | ambiguous => rfl

def Quiet (block : Block State Error (Option Claim)) : Prop :=
  ∀ state, (block state).2.assigned = state.assigned ∧ ∀ claim, (block state).1 ≠ .ok (some claim)

theorem run_quiet {next : Block State Error (Option Claim)} (statement : Statement)
    (quiet : Quiet next) : Quiet (do connection.run statement; next) := by
  intro state
  rw [run_bind]
  split
  · exact ⟨rfl, fun claim same => by cases same⟩
  · exact quiet state

theorem none_quiet : Quiet (pure none) :=
  fun _ => ⟨rfl, fun _ same => by cases same⟩

theorem save_quiet (written : Store) :
    Quiet (do
      connection.save written
      pure none) := by
  intro state
  rw [Block.bind_apply, Connection.save]
  cases connection.commit with
  | committed | failed | ambiguous => exact ⟨rfl, fun claim same => by cases same⟩

/-- A call that does not claim leaves the field alone. -/
theorem count_turn_quiet {interval : Int} {epoch : String} {store : Store}
    (quiet : ∀ counter, dueOf decimal store interval ≠ .due counter) :
    Quiet (countTurn decimal connection interval epoch store) := by
  unfold countTurn
  cases found : dueOf decimal store interval with
  | blocked => exact run_quiet .rollback none_quiet
  | invalid => exact run_quiet .writeCounter (save_quiet _)
  | early counter =>
      intro state
      dsimp only
      rw [print_bind]
      split
      · exact run_quiet .writeCounter (save_quiet _) state
      · exact ⟨rfl, fun claim same => by cases same⟩
  | due counter => exact absurd found (quiet counter)

theorem claim_transaction_apply {interval : Int} {epoch : String} :
    claimTransaction decimal connection interval epoch state =
      if ∀ statement ∈ opening, connection.fails statement = false then
        countTurn decimal connection interval epoch state.store state
      else (.error .sqlite, state) := by
  rw [claimTransaction, run_all_bind]
  rfl

theorem final_transaction_apply {claim : Claim} {terminal : Terminal}
    (current : claim.Current state.store) :
    (finalTransaction connection claim terminal state).2 =
      if ∀ statement ∈ [.beginImmediate, .selectEpoch, .selectState] ++ updates terminal,
          connection.fails statement = false then
        (connection.save (finalizeThinkCycle state.store claim terminal)
          { state with thinkClaimState := terminal.text, assigned := true }).2
      else state := by
  rw [finalTransaction, run_all_bind, rows_bind, if_pos current, run_all_bind, assign_bind]
  simp only [List.forall_mem_append]
  split_ifs <;> simp_all

theorem deferred_state (block : Block State Error Unit) :
    (Block.except block deferred state).2 = (block state).2 := by
  unfold Block.except
  rcases block state with ⟨outcome, after⟩
  cases outcome with
  | ok _ => rfl
  | error error => cases error <;> rfl

/-! ## What health reports -/

theorem agrees_of_unassigned (unassigned : state.assigned = false) : Agrees state := by
  intro assigned
  rw [unassigned] at assigned
  cases assigned

theorem due_unblocked {store : Store} {interval counter : Int}
    (due : dueOf decimal store interval = .due counter) :
    store.thinkClaimState ≠ some "in_flight" := by
  intro flying
  simp [dueOf, flying, blockedStates] at due

/-- A call that does not get to its claim leaves the field alone. -/
theorem claim_transaction_quiet {interval : Int} {epoch : String}
    (idle : ∀ counter, (∀ statement ∈ .connect :: opening, connection.fails statement = false) →
      dueOf decimal state.store interval ≠ .due counter) :
    let outcome := connection.using (claimTransaction decimal connection interval epoch) state
    outcome.2.assigned = state.assigned ∧ ∀ claim, outcome.1 ≠ .ok (some claim) := by
  dsimp only
  rw [using_apply, claim_transaction_apply]
  cases connects : connection.fails .connect with
  | true => exact ⟨rfl, fun claim same => by cases same⟩
  | false =>
      rw [if_neg Bool.false_ne_true]
      by_cases others : ∀ statement ∈ opening, connection.fails statement = false
      · have quiet := @count_turn_quiet decimal connection interval epoch state.store
          (fun counter => idle counter (List.forall_mem_cons.mpr ⟨connects, others⟩)) state
        rw [if_pos others]
        split
        · exact ⟨quiet.1, fun claim same => by cases same⟩
        · exact quiet
      · rw [if_neg others]
        split
        · exact ⟨rfl, fun claim same => by cases same⟩
        · exact ⟨rfl, fun claim same => by cases same⟩

theorem think_once_apply {call : Call} {interval : Int} (admitted : call.admission = none) :
    thinkOnce decimal call interval state =
      match call.first.using (claimTransaction decimal call.first interval call.epoch) state with
      | (.ok none, after) => (.ok (), after)
      | (.ok (some claim), after) =>
          call.second.using (finalTransaction call.second claim call.terminal) after
      | (.error error, after) => (.error error, after) := by
  rw [thinkOnce, admitted]
  dsimp only
  rw [Block.bind_apply]
  rcases call.first.using (claimTransaction decimal call.first interval call.epoch) state with
    ⟨outcome, after⟩
  rcases outcome with error | ⟨none | claim⟩ <;> rfl

/-- The end of the claim is written to the field before its commit. -/
theorem ended_agrees_iff {claim : Claim} {terminal : Terminal}
    (current : claim.Current state.store) :
    Agrees (connection.save (finalizeThinkCycle state.store claim terminal)
      { state with thinkClaimState := terminal.text, assigned := true }).2 ↔
      connection.commit ≠ .failed := by
  have written : (finalizeThinkCycle state.store claim terminal).thinkClaimState =
      some terminal.text := by
    rw [finalizeThinkCycle, if_pos current, current.2]
    rfl
  have told (store : Store) : reported ⟨store, terminal.text, true⟩ = some terminal.text := by
    cases terminal <;> rfl
  have unlike : some terminal.text ≠ some "in_flight" := by
    cases terminal <;> decide
  unfold Connection.save
  cases connection.commit with
  | committed | ambiguous => exact iff_of_true (fun _ => (told _).trans written.symm) (by decide)
  | failed =>
      refine iff_of_false (fun agrees => ?_) (fun other => other rfl)
      have same : some terminal.text = state.store.thinkClaimState :=
        (told state.store).symm.trans (agrees rfl)
      exact unlike (same.trans current.2)

/-- The second transaction, on the store that the first has left. -/
theorem finalizes_agrees_iff {claim : Claim} {terminal : Terminal}
    (current : claim.Current state.store) (flying : state.thinkClaimState = "in_flight") :
    Agrees (connection.using (finalTransaction connection claim terminal) state).2 ↔
      ((∀ statement ∈ [.connect, .beginImmediate, .selectEpoch, .selectState] ++ updates terminal,
          connection.fails statement = false) → connection.commit ≠ .failed) := by
  have still : Agrees state := by
    intro _
    rw [reported, flying, current.2]
    rfl
  have after : (connection.using (finalTransaction connection claim terminal) state).2 =
      if connection.fails .connect then state
      else (finalTransaction connection claim terminal state).2 := by
    rw [using_apply]
    split_ifs <;> rfl
  rw [after, final_transaction_apply current]
  let rest := [.beginImmediate, .selectEpoch, .selectState] ++ updates terminal
  by_cases done : ∀ statement ∈ .connect :: rest, connection.fails statement = false
  · obtain ⟨connects, others⟩ := List.forall_mem_cons.mp done
    rw [connects, if_neg Bool.false_ne_true, if_pos others, ended_agrees_iff current]
    exact ⟨fun persists _ => persists, fun persists => persists done⟩
  · have unchanged : (if connection.fails .connect then state
        else if ∀ statement ∈ rest, connection.fails statement = false then
          (connection.save (finalizeThinkCycle state.store claim terminal)
            { state with thinkClaimState := terminal.text, assigned := true }).2
        else state) = state := by
      cases connects : connection.fails .connect with
      | true => rfl
      | false =>
          have others : ¬ ∀ statement ∈ rest, connection.fails statement = false :=
            fun others => done (List.forall_mem_cons.mpr ⟨connects, others⟩)
          rw [if_neg Bool.false_ne_true, if_neg others]
    refine iff_of_true (unchanged.symm ▸ still) fun all => absurd all done

/-- A call that gets to its claim agrees exactly when both of its commits have an effect. -/
theorem claiming_agrees_iff {call : Call} {interval counter : Int} {store : Store}
    {memory : String} (admitted : call.admission = none)
    (opened : ∀ statement ∈ .connect :: opening, call.first.fails statement = false)
    (due : dueOf decimal store interval = .due counter) :
    Agrees (thinkOnce decimal call interval ⟨store, memory, false⟩).2 ↔
      call.first.Keeps counter ∧ (call.Finalizes → call.second.commit ≠ .failed) := by
  obtain ⟨connects, others⟩ := List.forall_mem_cons.mp opened
  have first : call.first.using (claimTransaction decimal call.first interval call.epoch)
      ⟨store, memory, false⟩ =
      if call.first.fails .close then
        (.error .sqlite,
          (countTurn decimal call.first interval call.epoch store ⟨store, memory, false⟩).2)
      else countTurn decimal call.first interval call.epoch store ⟨store, memory, false⟩ := by
    rw [using_apply, claim_transaction_apply, connects, if_pos others]
    rfl
  by_cases kept : call.first.Keeps counter
  · have counted := @count_turn_kept decimal call.first ⟨store, memory, false⟩ interval counter
      call.epoch due kept
    let claimed : State := ⟨claimedStore (pyStr counter) call.epoch, "in_flight", true⟩
    have agrees : Agrees claimed := fun _ => rfl
    rw [think_once_apply admitted, first, counted, and_iff_right kept]
    by_cases ends : call.first.commit = .committed ∧ call.first.fails .close = false
    · rw [ends.1, ends.2]
      have finalizes_iff : call.Finalizes ↔
          ∀ statement ∈ [.connect, .beginImmediate, .selectEpoch, .selectState] ++
            updates call.terminal, call.second.fails statement = false :=
        ⟨fun finalizes => finalizes.2.2, fun all => ⟨ends.1, ends.2, all⟩⟩
      rw [finalizes_iff]
      exact @finalizes_agrees_iff call.second claimed (claimOf interval counter call.epoch)
        call.terminal ⟨rfl, rfl⟩ rfl
    · have unfinished : ¬ call.Finalizes := fun finalizes => ends ⟨finalizes.1, finalizes.2.1⟩
      refine iff_of_true ?_ fun finalizes => absurd finalizes unfinished
      cases closes : call.first.fails .close with
      | true => exact agrees
      | false =>
          have stopped : call.first.commit ≠ .committed := fun committed =>
            ends ⟨committed, closes⟩
          rw [if_neg stopped]
          exact agrees
  · obtain ⟨error, counted⟩ := @count_turn_lost decimal call.first ⟨store, memory, false⟩ interval
      counter call.epoch due kept
    have lost : ¬ Agrees (State.flying ⟨store, memory, false⟩) :=
      fun agrees => due_unblocked due (agrees rfl).symm
    rw [think_once_apply admitted, first, counted]
    refine iff_of_false ?_ fun sound => kept sound.1
    split_ifs
    · exact lost
    · exact lost

/-- Health never misreports the claim exactly when nothing is written to the field whose
transaction has no effect. -/
theorem health_agrees_iff (decimal : Decimals) (settings : Settings) (call : Call) (store : Store)
    (memory : String) :
    Agrees (runThinkCycleIfDue decimal settings call ⟨store, memory, false⟩).2 ↔
      Sound decimal settings call store := by
  have quiet (unassigned :
      (runThinkCycleIfDue decimal settings call ⟨store, memory, false⟩).2.assigned = false)
      (idle : ∀ interval counter, ¬ Claims decimal settings call store interval counter) :
      Agrees (runThinkCycleIfDue decimal settings call ⟨store, memory, false⟩).2 ↔
        Sound decimal settings call store :=
    iff_of_true (agrees_of_unassigned unassigned) fun interval counter claims =>
      absurd claims (idle interval counter)
  cases due : thinkInterval settings with
  | none =>
      apply quiet
      · rw [runThinkCycleIfDue, due]
        rfl
      · intro interval counter claims
        exact absurd (due.symm.trans claims.1) (by simp)
  | some interval =>
      have ran : (runThinkCycleIfDue decimal settings call ⟨store, memory, false⟩).2 =
          (thinkOnce decimal call interval ⟨store, memory, false⟩).2 := by
        rw [runThinkCycleIfDue, due]
        exact deferred_state _
      cases admitted : call.admission with
      | some error =>
          apply quiet
          · rw [ran, thinkOnce, admitted]
            rfl
          · intro interval counter claims
            exact absurd (admitted.symm.trans claims.2.1) (by simp)
      | none =>
          by_cases claims : ∃ counter, Claims decimal settings call store interval counter
          · obtain ⟨counter, -, -, opened, found⟩ := claims
            rw [ran, claiming_agrees_iff admitted opened found]
            refine ⟨fun sound other value claimed => ?_, fun sound =>
              sound interval counter ⟨due, admitted, opened, found⟩⟩
            obtain rfl := Option.some.inj (due.symm.trans claimed.1)
            obtain rfl := Due.due.inj (found.symm.trans claimed.2.2.2)
            exact sound
          · apply quiet
            · have idle := @claim_transaction_quiet decimal call.first ⟨store, memory, false⟩
                interval call.epoch fun counter opened found =>
                  claims ⟨counter, due, admitted, opened, found⟩
              rw [ran, think_once_apply admitted]
              generalize call.first.using (claimTransaction decimal call.first interval call.epoch)
                ⟨store, memory, false⟩ = ended at idle ⊢
              obtain ⟨outcome, after⟩ := ended
              rcases outcome with error | ⟨none | claim⟩
              · exact idle.1
              · exact idle.1
              · exact absurd rfl (idle.2 claim)
            · rintro other counter claimed
              obtain rfl := Option.some.inj (due.symm.trans claimed.1)
              exact claims ⟨counter, claimed⟩

def always : Settings where
  modelFn := true
  embeddingIdentityReady := true
  dbPath := true
  config := some (true, 1)

def faultless (first second : Commit) : Call where
  admission := none
  epoch := "1:10"
  first := ⟨fun _ => false, first⟩
  terminal := .completed
  second := ⟨fun _ => false, second⟩

/-- The claim is rolled back and reported as `in_flight`, or the end of the claim is rolled
back and reported as `completed`. -/
theorem failed_commits_are_reported :
    ¬ Agrees (runThinkCycleIfDue arabicDigits always (faultless .failed .committed)
        ⟨{}, "none", false⟩).2 ∧
      ¬ Agrees (runThinkCycleIfDue arabicDigits always (faultless .committed .failed)
        ⟨{}, "none", false⟩).2 := by
  have claim : (runThinkCycleIfDue arabicDigits always (faultless .failed .committed)
      ⟨{}, "none", false⟩).2 =
      ⟨{}, "in_flight", true⟩ := by
    decide +kernel
  have finish : (runThinkCycleIfDue arabicDigits always (faultless .committed .failed)
      ⟨{}, "none", false⟩).2 =
      ⟨claimedStore "1" "1:10", "completed", true⟩ := by
    decide +kernel
  rw [claim, finish]
  exact ⟨fun agrees => absurd (agrees rfl) (by decide),
    fun agrees => absurd (agrees rfl) (by decide)⟩

end HermesCashew.ThinkHealth
