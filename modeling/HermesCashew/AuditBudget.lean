import HermesCashew.Raising
import HermesCashew.Transition
import Mathlib.Data.Finset.Insert
import Mathlib.Logic.Function.Basic

/-!
# The budget of an audit

The work budget that every scan of the integrity audit shares, and the two scans that
count rows with it. The clock may read anything, SQLite may call the progress handler and
fail whenever it runs, and a row stream has any length.
-/

namespace HermesCashew.AuditBudget

open HermesCashew.Raising HermesCashew.Transition

set_option autoImplicit false

def maxAuditRows : Nat := 100000

def maxAuditBytes : Nat := 64 * 1024 * 1024

def auditBatchSize : Nat := 256

inductive Reason where
  | auditDeadline
  | auditByteCap
  | auditRowCap
  deriving DecidableEq, Repr

structure Budget (Time : Type) where
  deadline : Time
  rows : Nat := 0
  bytes : Nat := 0
  incompleteReasons : Finset Reason := ∅
  scans : String → Option Bool := fun _ => none

def Budget.incomplete {Time : Type} (budget : Budget Time) : Bool :=
  decide (budget.incompleteReasons ≠ ∅)

def Budget.add {Time : Type} (budget : Budget Time) (reason : Reason) : Budget Time :=
  { budget with incompleteReasons := insert reason budget.incompleteReasons }

/-- The budget, with how often the clock was read and SQLite was called. -/
structure Audit (Time : Type) where
  budget : Budget Time
  readings : Nat := 0
  calls : Nat := 0

/-- What an audit meets: the clock, how often SQLite calls the progress handler in a call,
and which calls fail by themselves. -/
structure Host (Time : Type) where
  monotonic : Nat → Time
  ticks : Nat → Nat
  fails : Nat → Bool

section

variable {Time : Type} [LE Time] [DecidableLE Time] (host : Host Time)

/-! ## The calls of the budget -/

def check (audit : Audit Time) : Bool × Audit Time :=
  let read := { audit with readings := audit.readings + 1 }
  if audit.budget.deadline ≤ host.monotonic audit.readings then
    (false, { read with budget := audit.budget.add .auditDeadline })
  else (true, read)

def ready (audit : Audit Time) : Bool × Audit Time :=
  let (timely, checked) := check host audit
  (timely && !checked.budget.incomplete, checked)

def reserveBytes (byteCount : Int) (audit : Audit Time) : Bool × Audit Time :=
  let (able, checked) := ready host audit
  if able = false then (false, checked)
  else if byteCount < 0 ∨ (maxAuditBytes : Int) < checked.budget.bytes + byteCount then
    (false, { checked with budget := checked.budget.add .auditByteCap })
  else
    (true, { checked with
      budget := { checked.budget with bytes := checked.budget.bytes + byteCount.toNat } })

def consume (byteCount : Int) (audit : Audit Time) : Bool × Audit Time :=
  let (able, checked) := ready host audit
  if able = false then (false, checked)
  else if maxAuditRows ≤ checked.budget.rows then
    (false, { checked with budget := checked.budget.add .auditRowCap })
  else
    let (reserved, after) := reserveBytes host byteCount checked
    if reserved = false then (false, after)
    else (true, { after with budget := { after.budget with rows := after.budget.rows + 1 } })

def progress (audit : Audit Time) : Int × Audit Time :=
  let read := { audit with readings := audit.readings + 1 }
  if audit.budget.deadline ≤ host.monotonic audit.readings then
    (1, { read with budget := audit.budget.add .auditDeadline })
  else (0, read)

inductive Call where
  | check
  | ready
  | reserveBytes (byteCount : Int)
  | consume (byteCount : Int)
  | progress

def step (audit : Audit Time) : Call → Option (Audit Time)
  | .check => some (check host audit).2
  | .ready => some (ready host audit).2
  | .reserveBytes byteCount => some (reserveBytes host byteCount audit).2
  | .consume byteCount => some (consume host byteCount audit).2
  | .progress => some (progress host audit).2

/-! ## SQLite -/

/-- `sqlite3.Error`. -/
inductive SqliteError where
  | interrupted
  | failed

abbrev Run (Time Value : Type) := Block (Audit Time) SqliteError Value

def call {Value : Type} (compute : Audit Time → Value × Audit Time) : Run Time Value :=
  fun audit => (.ok (compute audit).1, (compute audit).2)

def record (label : String) (complete : Bool) : Run Time Unit :=
  fun audit =>
    (.ok (), { audit with
      budget := { audit.budget with
        scans := Function.update audit.budget.scans label (some complete) } })

def isIncomplete : Run Time Bool :=
  fun audit => (.ok audit.budget.incomplete, audit)

/-- The progress handler, until it asks for an interrupt. -/
def handle : Nat → Run Time Unit
  | 0 => pure ()
  | ticks + 1 => do
      let interrupt ← call (progress host)
      if interrupt ≠ 0 then Block.raise .interrupted else handle ticks

/-- A call into SQLite. -/
def sqlite : Run Time Unit := do
  let index ← fun audit => (.ok audit.calls, { audit with calls := audit.calls + 1 })
  handle host (host.ticks index)
  if host.fails index then Block.raise .failed else pure ()

/-- The rows of `LIMIT {_MAX_AUDIT_ROWS + 1}`. -/
def limited {Row : Type} (rows : List Row) : List Row :=
  rows.take (maxAuditRows + 1)

/-! ## `_bounded_count` -/

def countBatch {Row : Type} (count : Nat) : List Row → Run Time (Bool × Nat)
  | [] => pure (true, count)
  | _ :: rest => do
      if ← call (consume host 0) then countBatch (count + 1) rest else pure (false, count)

/-- The `while` loop, where the cursor still has the rows `remaining`. -/
def countLoop {Row : Type} (label : String) (count : Nat) (remaining : List Row) :
    Run Time Nat := do
  if ← call (ready host) then
    sqlite host
    if remaining = [] then
      record label true
      pure count
    else
      let (through, counted) ← countBatch host count (remaining.take auditBatchSize)
      if through then countLoop label counted (remaining.drop auditBatchSize)
      else
        record label false
        pure counted
  else
    record label false
    pure count
termination_by remaining.length
decreasing_by
  have positive := List.length_pos_iff.mpr ‹¬remaining = []›
  rw [List.length_drop, auditBatchSize]
  omega

/-- `_bounded_count` of a statement that has the rows `stream`. -/
def boundedCount {Row : Type} (label : String) (stream : List Row) : Run Time Nat := do
  if ← call (ready host) then
    sqlite host
    countLoop host label 0 (limited stream)
  else
    record label false
    pure 0

/-! ## `_table_inventory` -/

inductive Table where
  | thoughtNodes
  | embeddings
  | derivationEdges
  | hermesProviderMeta
  deriving DecidableEq, Repr

structure Catalog where
  present : Table → Bool
  unexpected : List String

def tableExists (catalog : Catalog) (table : Table) : Run Time Bool := do
  if ← call (ready host) then
    sqlite host
    pure (catalog.present table)
  else pure false

def knownTables (catalog : Catalog) : List Table → Run Time (List (Table × Bool))
  | [] => pure []
  | table :: rest => do
      let exists_ ← tableExists host catalog table
      let known ← knownTables catalog rest
      pure ((table, exists_) :: known)

structure Inventory where
  hashed : List String := []
  unknownCount : Nat := 0
  complete : Bool := true

def Inventory.visit (inventory : Inventory) (name : String) : Inventory :=
  { inventory with
    hashed := inventory.hashed ++ [name], unknownCount := inventory.unknownCount + 1 }

def inventoryBatch (inventory : Inventory) : List String → Run Time Inventory
  | [] => pure inventory
  | name :: rest => do
      if ← call (consume host (name.utf8ByteSize + 1 : Nat)) then
        inventoryBatch (inventory.visit name) rest
      else pure { inventory with complete := false }

def inventoryLoop (inventory : Inventory) (remaining : List String) : Run Time Inventory := do
  if ← call (ready host) then
    sqlite host
    if remaining = [] then pure inventory
    else
      let inventory ← inventoryBatch host inventory (remaining.take auditBatchSize)
      if ← isIncomplete then pure { inventory with complete := false }
      else inventoryLoop inventory (remaining.drop auditBatchSize)
  else pure inventory
termination_by remaining.length
decreasing_by
  have positive := List.length_pos_iff.mpr ‹¬remaining = []›
  rw [List.length_drop, auditBatchSize]
  omega

def digestInput (names : List String) : List UInt8 :=
  names.flatMap fun name => name.toUTF8.toList ++ [0]

structure TableReport where
  requiredTables : List (Table × Bool)
  unexpectedTableCount : Option Nat
  unexpectedTableFingerprint : Option (List Char)
  inventoryComplete : Bool

def inventoryLabel : String := "table_inventory"

def unexpectedTables (catalog : Catalog) : Run Time Inventory := do
  if ← call (ready host) then
    sqlite host
    let inventory ← inventoryLoop host {} (limited catalog.unexpected)
    pure { inventory with
      complete := inventory.complete && decide (inventory.unknownCount ≤ maxAuditRows) }
  else pure { complete := false }

def fingerprint (hexdigest : List UInt8 → List Char) (unknownCount : Nat)
    (names : List String) : Option (List Char) :=
  if unknownCount = 0 then none else some ((hexdigest (digestInput names)).take 16)

/-- `_table_inventory`, which asks for the required tables in the order of a set. -/
def tableInventory (hexdigest : List UInt8 → List Char) (order : List Table)
    (catalog : Catalog) : Run Time (List Table × TableReport) := do
  let known ← knownTables host catalog order
  let inventory ← unexpectedTables host catalog
  let stopped ← isIncomplete
  let complete := inventory.complete && !stopped
  record inventoryLabel complete
  pure ((known.filter Prod.snd).map Prod.fst,
    { requiredTables := known
      unexpectedTableCount := if inventory.complete then some inventory.unknownCount else none
      unexpectedTableFingerprint := fingerprint hexdigest inventory.unknownCount inventory.hashed
      inventoryComplete := complete })

end

/-! ## What becomes of a budget -/

section

variable {Time : Type}

@[simp] theorem Budget.add_incomplete (budget : Budget Time) (reason : Reason) :
    (budget.add reason).incomplete = true := by
  simp [Budget.add, Budget.incomplete]

/-- A call that is refused: the budget is incomplete from then on and counts nothing. -/
structure Refused (before after : Budget Time) : Prop where
  incomplete : after.incomplete = true
  rows : after.rows = before.rows
  bytes : after.bytes = before.bytes
  reasons : before.incompleteReasons ⊆ after.incompleteReasons
  scans : after.scans = before.scans

theorem Refused.add (budget : Budget Time) (reason : Reason) :
    Refused budget (budget.add reason) :=
  ⟨budget.add_incomplete reason, rfl, rfl, Finset.subset_insert _ _, rfl⟩

theorem Refused.refl {budget : Budget Time} (incomplete : budget.incomplete = true) :
    Refused budget budget :=
  ⟨incomplete, rfl, rfl, Finset.Subset.refl _, rfl⟩

structure Later (before after : Budget Time) : Prop where
  reasons : before.incompleteReasons ⊆ after.incompleteReasons
  rowCap : before.rows ≤ maxAuditRows → after.rows ≤ maxAuditRows
  byteCap : before.bytes ≤ maxAuditBytes → after.bytes ≤ maxAuditBytes
  frozen : before.incomplete = true → after.rows = before.rows ∧ after.bytes = before.bytes

theorem Later.refl (budget : Budget Time) : Later budget budget :=
  ⟨Finset.Subset.refl _, id, id, fun _ => ⟨rfl, rfl⟩⟩

theorem Later.of_same {before after : Budget Time} (same : after = before) :
    Later before after := by
  rw [same]
  exact .refl before

theorem Refused.to_later {before after : Budget Time} (refused : Refused before after) :
    Later before after where
  reasons := refused.reasons
  rowCap := refused.rows.le.trans
  byteCap := refused.bytes.le.trans
  frozen := fun _ => ⟨refused.rows, refused.bytes⟩

theorem incomplete_of_subset {before after : Budget Time}
    (reasons : before.incompleteReasons ⊆ after.incompleteReasons)
    (incomplete : before.incomplete = true) : after.incomplete = true := by
  simp only [Budget.incomplete, ne_eq, decide_eq_true_eq] at incomplete ⊢
  intro empty
  rw [empty] at reasons
  exact incomplete (Finset.subset_empty.mp reasons)

theorem Later.trans {first second third : Budget Time} (before : Later first second)
    (after : Later second third) : Later first third where
  reasons := before.reasons.trans after.reasons
  rowCap := fun within => after.rowCap (before.rowCap within)
  byteCap := fun within => after.byteCap (before.byteCap within)
  frozen := by
    intro incomplete
    have kept := before.frozen incomplete
    have still := after.frozen (incomplete_of_subset before.reasons incomplete)
    exact ⟨still.1.trans kept.1, still.2.trans kept.2⟩

/-! ## What a scan takes -/

/-- What it takes to go through `rows` rows. -/
structure Scanned (before after : Budget Time) (rows : Nat) : Prop where
  counted : after.rows = before.rows + rows
  rowCap : rows ≠ 0 → after.rows ≤ maxAuditRows

theorem Scanned.none {before after : Budget Time} (same : after.rows = before.rows) :
    Scanned before after 0 :=
  ⟨same, fun some_ => absurd rfl some_⟩

theorem Scanned.append {first second third : Budget Time} {before after : Nat}
    (one : Scanned first second before) (two : Scanned second third after) :
    Scanned first third (before + after) := by
  have rows := two.counted
  rw [one.counted, Nat.add_assoc] at rows
  refine ⟨rows, ?_⟩
  intro some_
  by_cases last : after = 0
  · have cap := one.rowCap (by omega)
    have kept := two.counted
    omega
  · exact two.rowCap last

/-- As many rows as the cap allows were not cut by the `LIMIT`. -/
theorem limited_scanned {Row : Type} {rows : List Row} {before after : Budget Time}
    (scanned : Scanned before after (limited rows).length) : limited rows = rows := by
  apply List.take_of_length_le
  have counted := scanned.counted
  by_cases none_ : (limited rows).length = 0
  · rw [limited, List.length_take] at none_
    omega
  · have cap := scanned.rowCap none_
    rw [counted, limited, List.length_take] at cap
    omega

theorem call_inv {Value : Type} {compute : Audit Time → Value × Audit Time} {value : Value}
    {audit after : Audit Time}
    (ran : call compute audit = (.ok value, after)) : compute audit = (value, after) := by
  obtain ⟨first, second⟩ := Prod.mk.inj ran
  exact Prod.ext (Except.ok.inj first) second

theorem incomplete_inv {stopped : Bool} {audit after : Audit Time}
    (ran : isIncomplete audit = (.ok stopped, after)) : after = audit := by
  cases ran
  rfl

end

section

variable {Time : Type} [LE Time] [DecidableLE Time] {host : Host Time}
variable {audit after : Audit Time}

/-! ## What a call of the budget does -/

theorem check_spec : (check host audit).1 = true ∧ (check host audit).2.budget = audit.budget ∨
    (check host audit).1 = false ∧ Refused audit.budget (check host audit).2.budget := by
  unfold check
  dsimp only
  split
  · exact .inr ⟨rfl, .add _ _⟩
  · exact .inl ⟨rfl, rfl⟩

theorem ready_spec : (ready host audit).1 = true ∧ (ready host audit).2.budget = audit.budget ∧
      audit.budget.incomplete = false ∨
    (ready host audit).1 = false ∧ Refused audit.budget (ready host audit).2.budget := by
  unfold ready
  dsimp only
  rcases @check_spec _ _ _ host audit with ⟨timely, same⟩ | ⟨late, refused⟩
  · rw [timely, Bool.true_and, same]
    cases stopped : audit.budget.incomplete with
    | false => exact .inl ⟨rfl, rfl, rfl⟩
    | true => exact .inr ⟨rfl, .refl stopped⟩
  · rw [late, Bool.false_and]
    exact .inr ⟨rfl, refused⟩

theorem reserve_bytes_spec (byteCount : Int) :
    ((reserveBytes host byteCount audit).1 = true ∧ audit.budget.incomplete = false ∧
      audit.budget.bytes + byteCount.toNat ≤ maxAuditBytes ∧
      (reserveBytes host byteCount audit).2.budget =
        { audit.budget with bytes := audit.budget.bytes + byteCount.toNat }) ∨
    (reserveBytes host byteCount audit).1 = false ∧
      Refused audit.budget (reserveBytes host byteCount audit).2.budget := by
  unfold reserveBytes
  dsimp only
  rcases @ready_spec _ _ _ host audit with ⟨able, same, whole⟩ | ⟨unable, refused⟩
  · rw [able, same, if_neg Bool.noConfusion]
    split
    · exact .inr ⟨rfl, .add _ _⟩
    · refine .inl ⟨rfl, whole, ?_, rfl⟩
      omega
  · rw [unable, if_pos rfl]
    exact .inr ⟨rfl, refused⟩

theorem consume_spec (byteCount : Int) :
    ((consume host byteCount audit).1 = true ∧ audit.budget.incomplete = false ∧
      audit.budget.rows < maxAuditRows ∧
      audit.budget.bytes + byteCount.toNat ≤ maxAuditBytes ∧
      (consume host byteCount audit).2.budget =
        { audit.budget with
          rows := audit.budget.rows + 1, bytes := audit.budget.bytes + byteCount.toNat }) ∨
    (consume host byteCount audit).1 = false ∧
      Refused audit.budget (consume host byteCount audit).2.budget := by
  unfold consume
  dsimp only
  rcases @ready_spec _ _ _ host audit with ⟨able, same, whole⟩ | ⟨unable, refused⟩
  · rw [able, if_neg Bool.noConfusion]
    split
    · rw [same]
      exact .inr ⟨rfl, .add _ _⟩
    · rename_i room
      rw [same] at room
      rcases @reserve_bytes_spec _ _ _ host (ready host audit).2 byteCount with
        ⟨reserved, -, fits, after⟩ | ⟨unreserved, refused⟩
      · rw [reserved, if_neg Bool.noConfusion, after, same]
        rw [same] at fits
        exact .inl ⟨rfl, whole, Nat.lt_of_not_le room, fits, rfl⟩
      · rw [unreserved, if_pos rfl]
        rw [same] at refused
        exact .inr ⟨rfl, refused⟩
  · rw [unable, if_pos rfl]
    exact .inr ⟨rfl, refused⟩

theorem progress_spec :
    (progress host audit).1 = 0 ∧ (progress host audit).2.budget = audit.budget ∨
      (progress host audit).1 = 1 ∧ Refused audit.budget (progress host audit).2.budget := by
  unfold progress
  dsimp only
  split
  · exact .inr ⟨rfl, .add _ _⟩
  · exact .inl ⟨rfl, rfl⟩

/-! ## Every run of calls -/

theorem step_later {action : Call} (taken : step host audit action = some after) :
    Later audit.budget after.budget := by
  cases action with
  | check =>
      cases taken
      rcases @check_spec _ _ _ host audit with ⟨-, same⟩ | ⟨-, refused⟩
      · exact .of_same same
      · exact refused.to_later
  | ready =>
      cases taken
      rcases @ready_spec _ _ _ host audit with ⟨-, same, -⟩ | ⟨-, refused⟩
      · exact .of_same same
      · exact refused.to_later
  | reserveBytes byteCount =>
      cases taken
      rcases @reserve_bytes_spec _ _ _ host audit byteCount with
        ⟨-, whole, fits, same⟩ | ⟨-, refused⟩
      · rw [same]
        exact ⟨Finset.Subset.refl _, id, fun _ => fits, fun incomplete =>
          absurd (whole.symm.trans incomplete) Bool.noConfusion⟩
      · exact refused.to_later
  | consume byteCount =>
      cases taken
      rcases @consume_spec _ _ _ host audit byteCount with
        ⟨-, whole, room, fits, same⟩ | ⟨-, refused⟩
      · rw [same]
        exact ⟨Finset.Subset.refl _, fun _ => room, fun _ => fits, fun incomplete =>
          absurd (whole.symm.trans incomplete) Bool.noConfusion⟩
      · exact refused.to_later
  | progress =>
      cases taken
      rcases @progress_spec _ _ _ host audit with ⟨-, same⟩ | ⟨-, refused⟩
      · exact .of_same same
      · exact refused.to_later

theorem run_later (reached : Reaches (step host) anyStep audit after) :
    Later audit.budget after.budget := by
  induction reached with
  | start => exact .refl _
  | next _ _ taken before => exact before.trans (step_later taken)

/-! ## A scan that is complete -/

theorem ready_inv {able : Bool} (ran : call (ready host) audit = (.ok able, after)) :
    able = true ∧ after.budget = audit.budget ∨
      able = false ∧ Refused audit.budget after.budget := by
  have called := call_inv ran
  have spec := @ready_spec _ _ _ host audit
  rw [called] at spec
  exact spec.imp_left fun ⟨able, same, _⟩ => ⟨able, same⟩

theorem handle_ok {ticks : Nat} (ran : handle host ticks audit = (.ok (), after)) :
    after.budget = audit.budget := by
  induction ticks generalizing audit with
  | zero =>
      cases ran
      rfl
  | succ ticks induction =>
      rw [handle] at ran
      obtain ⟨interrupt, middle, called, ran⟩ := Block.bind_inv ran
      have spec := @progress_spec _ _ _ host audit
      rw [call_inv called] at spec
      split at ran
      · cases ran
      · rename_i calm
        rcases spec with ⟨-, same⟩ | ⟨late, -⟩
        · exact (induction ran).trans same
        · exact absurd (late.trans_ne Int.one_ne_zero) calm

/-- A call into SQLite that returns leaves the budget alone. -/
theorem sqlite_ok (ran : sqlite host audit = (.ok (), after)) :
    after.budget = audit.budget := by
  obtain ⟨index, counted, first, ran⟩ := Block.bind_inv ran
  cases first
  obtain ⟨_, handled, second, ran⟩ := Block.bind_inv ran
  have same := handle_ok second
  split at ran
  · cases ran
  · cases ran
    exact same

theorem consume_scanned {byteCount : Int}
    (ran : call (consume host byteCount) audit = (.ok true, after)) :
    Scanned audit.budget after.budget 1 := by
  have spec := @consume_spec _ _ _ host audit byteCount
  rw [call_inv ran] at spec
  rcases spec with ⟨-, -, room, -, same⟩ | ⟨refused, -⟩
  · dsimp only at same
    rw [same]
    exact ⟨rfl, fun _ => room⟩
  · cases refused

section

variable {Row : Type}

theorem count_batch_through {count counted : Nat} {batch : List Row}
    (ran : countBatch host count batch audit = (.ok (true, counted), after)) :
    counted = count + batch.length ∧ Scanned audit.budget after.budget batch.length := by
  induction batch generalizing count audit with
  | nil =>
      cases ran
      exact ⟨rfl, .none rfl⟩
  | cons row rest induction =>
      rw [countBatch] at ran
      obtain ⟨granted, middle, consumed, ran⟩ := Block.bind_inv ran
      cases granted with
      | false => cases ran
      | true =>
          obtain ⟨counted_, scanned⟩ := induction ran
          have whole := (consume_scanned consumed).append scanned
          rw [List.length_cons, Nat.add_comm rest.length]
          exact ⟨by omega, whole⟩

theorem count_loop_complete {label : String} {count counted : Nat} {remaining : List Row}
    (ran : countLoop host label count remaining audit = (.ok counted, after))
    (complete : after.budget.scans label = some true) :
    counted = count + remaining.length ∧
      Scanned audit.budget after.budget remaining.length := by
  induction length : remaining.length using Nat.strongRecOn generalizing remaining count audit with
  | _ size induction =>
      rw [countLoop] at ran
      obtain ⟨able, asked, polled, ran⟩ := Block.bind_inv ran
      rcases ready_inv polled with ⟨rfl, same⟩ | ⟨rfl, -⟩
      · obtain ⟨_, fetched, returned, ran⟩ := Block.bind_inv ran
        have still := (sqlite_ok returned).trans same
        split at ran
        · rename_i exhausted
          cases ran
          rw [exhausted, List.length_nil] at length
          subst length
          exact ⟨rfl, .none (by rw [← still])⟩
        · rename_i left
          obtain ⟨⟨through, batched⟩, consumed, visited, ran⟩ := Block.bind_inv ran
          cases through with
          | false =>
              cases ran
              simp at complete
          | true =>
              obtain ⟨batched_eq, batch⟩ := count_batch_through visited
              have positive := List.length_pos_iff.mpr left
              have parts : (remaining.take auditBatchSize).length +
                  (remaining.drop auditBatchSize).length = size := by
                rw [← List.length_append, List.take_append_drop, length]
              have smaller : (remaining.drop auditBatchSize).length < size := by
                rw [List.length_drop, auditBatchSize]
                omega
              obtain ⟨rest_eq, rest⟩ := induction _ smaller ran rfl
              have whole := batch.append rest
              rw [parts, still] at whole
              exact ⟨by omega, whole⟩
      · cases ran
        simp at complete

theorem bounded_count_complete {label : String} {count : Nat} {stream : List Row}
    (ran : boundedCount host label stream audit = (.ok count, after))
    (complete : after.budget.scans label = some true) :
    count = stream.length ∧ Scanned audit.budget after.budget stream.length := by
  obtain ⟨able, asked, polled, ran⟩ := Block.bind_inv ran
  rcases ready_inv polled with ⟨rfl, same⟩ | ⟨rfl, -⟩
  · obtain ⟨_, executed, returned, ran⟩ := Block.bind_inv ran
    have still := (sqlite_ok returned).trans same
    obtain ⟨counted, scanned⟩ := count_loop_complete ran complete
    rw [still] at scanned
    have uncut := limited_scanned scanned
    rw [uncut] at counted scanned
    exact ⟨counted.trans (Nat.zero_add _), scanned⟩
  · cases ran
    simp at complete

end

/-! ## The inventory -/

structure Visited (before after : Inventory) (names : List String) : Prop where
  hashed : after.hashed = before.hashed ++ names
  unknownCount : after.unknownCount = before.unknownCount + names.length

theorem Visited.append {first second third : Inventory} {before after : List String}
    (one : Visited first second before) (two : Visited second third after) :
    Visited first third (before ++ after) where
  hashed := by rw [two.hashed, one.hashed, List.append_assoc]
  unknownCount := by rw [two.unknownCount, one.unknownCount, List.length_append, Nat.add_assoc]

theorem inventory_batch_complete {inventory visited : Inventory} {batch : List String}
    (ran : inventoryBatch host inventory batch audit = (.ok visited, after))
    (complete : visited.complete = true) :
    inventory.complete = true ∧ Visited inventory visited batch ∧
      Scanned audit.budget after.budget batch.length := by
  induction batch generalizing inventory audit with
  | nil =>
      cases ran
      exact ⟨complete, ⟨(List.append_nil _).symm, rfl⟩, .none rfl⟩
  | cons name rest induction =>
      rw [inventoryBatch] at ran
      obtain ⟨granted, middle, consumed, ran⟩ := Block.bind_inv ran
      cases granted with
      | false =>
          cases ran
          cases complete
      | true =>
          obtain ⟨going, later, scanned⟩ := induction ran
          have own : Visited inventory (inventory.visit name) [name] := ⟨rfl, rfl⟩
          rw [List.length_cons, Nat.add_comm rest.length]
          exact ⟨going, own.append later, (consume_scanned consumed).append scanned⟩

theorem inventory_loop_complete {inventory visited : Inventory} {remaining : List String}
    (ran : inventoryLoop host inventory remaining audit = (.ok visited, after))
    (complete : visited.complete = true) (whole : after.budget.incomplete = false) :
    inventory.complete = true ∧ Visited inventory visited remaining ∧
      Scanned audit.budget after.budget remaining.length := by
  induction length : remaining.length using Nat.strongRecOn
    generalizing remaining inventory audit with
  | _ size induction =>
      rw [inventoryLoop] at ran
      obtain ⟨able, asked, polled, ran⟩ := Block.bind_inv ran
      rcases ready_inv polled with ⟨rfl, same⟩ | ⟨rfl, refused⟩
      · obtain ⟨_, fetched, returned, ran⟩ := Block.bind_inv ran
        have still := (sqlite_ok returned).trans same
        split at ran
        · rename_i exhausted
          cases ran
          rw [exhausted, List.length_nil] at length
          subst length
          rw [exhausted]
          exact ⟨complete, ⟨(List.append_nil _).symm, rfl⟩, .none (by rw [← still])⟩
        · rename_i left
          obtain ⟨batched, consumed, batch_ran, ran⟩ := Block.bind_inv ran
          obtain ⟨stopped, looked, asked_again, ran⟩ := Block.bind_inv ran
          obtain rfl := incomplete_inv asked_again
          cases stopped with
          | true =>
              cases ran
              cases complete
          | false =>
              have positive := List.length_pos_iff.mpr left
              have parts : (remaining.take auditBatchSize).length +
                  (remaining.drop auditBatchSize).length = size := by
                rw [← List.length_append, List.take_append_drop, length]
              have smaller : (remaining.drop auditBatchSize).length < size := by
                rw [List.length_drop, auditBatchSize]
                omega
              obtain ⟨going, rest_visited, rest⟩ := induction _ smaller ran rfl
              obtain ⟨started, batch_visited, batch⟩ := inventory_batch_complete batch_ran going
              have visited_all := batch_visited.append rest_visited
              rw [List.take_append_drop] at visited_all
              have scanned := batch.append rest
              rw [parts, still] at scanned
              exact ⟨started, visited_all, scanned⟩
      · cases ran
        rw [refused.incomplete] at whole
        cases whole

theorem unexpected_tables_complete {catalog : Catalog} {inventory : Inventory}
    (ran : unexpectedTables host catalog audit = (.ok inventory, after))
    (complete : inventory.complete = true) (whole : after.budget.incomplete = false) :
    Visited {} inventory catalog.unexpected ∧
      Scanned audit.budget after.budget catalog.unexpected.length := by
  obtain ⟨able, asked, polled, ran⟩ := Block.bind_inv ran
  rcases ready_inv polled with ⟨rfl, same⟩ | ⟨rfl, -⟩
  · obtain ⟨_, executed, returned, ran⟩ := Block.bind_inv ran
    obtain ⟨looped, last, visited, ran⟩ := Block.bind_inv ran
    cases ran
    rw [Bool.and_eq_true] at complete
    obtain ⟨-, names, scanned⟩ := inventory_loop_complete visited complete.1 whole
    rw [(sqlite_ok returned).trans same] at scanned
    have uncut := limited_scanned scanned
    rw [uncut] at names scanned
    exact ⟨⟨names.hashed, names.unknownCount⟩, scanned⟩
  · cases ran
    cases complete

theorem table_exists_rows {catalog : Catalog} {table : Table} {exists_ : Bool}
    (ran : tableExists host catalog table audit = (.ok exists_, after)) :
    after.budget.rows = audit.budget.rows := by
  obtain ⟨able, asked, polled, ran⟩ := Block.bind_inv ran
  rcases ready_inv polled with ⟨rfl, same⟩ | ⟨rfl, refused⟩
  · obtain ⟨_, executed, returned, ran⟩ := Block.bind_inv ran
    cases ran
    rw [sqlite_ok returned, same]
  · cases ran
    exact refused.rows

theorem known_tables_rows {catalog : Catalog} {tables : List Table}
    {known : List (Table × Bool)}
    (ran : knownTables host catalog tables audit = (.ok known, after)) :
    after.budget.rows = audit.budget.rows := by
  induction tables generalizing known audit with
  | nil =>
      cases ran
      rfl
  | cons table rest induction =>
      obtain ⟨exists_, looked, first, ran⟩ := Block.bind_inv ran
      obtain ⟨others, last, second, ran⟩ := Block.bind_inv ran
      cases ran
      exact (induction second).trans (table_exists_rows first)

theorem table_inventory_complete {hexdigest : List UInt8 → List Char} {order : List Table}
    {catalog : Catalog} {tables : List Table} {report : TableReport}
    (ran : tableInventory host hexdigest order catalog audit = (.ok (tables, report), after))
    (complete : after.budget.scans inventoryLabel = some true) :
    report.inventoryComplete = true ∧
      report.unexpectedTableCount = some catalog.unexpected.length ∧
      report.unexpectedTableFingerprint =
        fingerprint hexdigest catalog.unexpected.length catalog.unexpected ∧
      Scanned audit.budget after.budget catalog.unexpected.length := by
  obtain ⟨known, looked, first, ran⟩ := Block.bind_inv ran
  obtain ⟨inventory, visited, second, ran⟩ := Block.bind_inv ran
  obtain ⟨stopped, same, third, ran⟩ := Block.bind_inv ran
  obtain rfl := incomplete_inv third
  cases ran
  simp only [Function.update_self, Option.some.injEq, Bool.and_eq_true, Bool.not_eq_true']
    at complete
  obtain ⟨names, scanned⟩ :=
    unexpected_tables_complete second complete.1 complete.2
  refine ⟨?_, ?_, ?_, ?_⟩
  · simp only [complete, Bool.not_false, Bool.and_self]
  · simp only [complete, if_true, names.unknownCount, Nat.zero_add]
  · simp only [names.hashed, names.unknownCount, List.nil_append, Nat.zero_add]
  · refine ⟨?_, scanned.rowCap⟩
    rw [← known_tables_rows first]
    exact scanned.counted

/-! ## The budget of an audit -/

/-- Over every run of calls the caps hold, what made the budget incomplete stays, and then
nothing is counted; and a scan that records that it is complete has consumed every row of
its stream and counted them. -/
theorem audit_budget_holds (host : Host Time) :
    (∀ deadline audit,
      Reaches (step host) anyStep { budget := { deadline := deadline } } audit →
      audit.budget.rows ≤ maxAuditRows ∧ audit.budget.bytes ≤ maxAuditBytes ∧
        ∀ after, Reaches (step host) anyStep audit after →
          audit.budget.incompleteReasons ⊆ after.budget.incompleteReasons ∧
            (audit.budget.incomplete = true →
              after.budget.rows = audit.budget.rows ∧
                after.budget.bytes = audit.budget.bytes)) ∧
    (∀ (Row : Type) (stream : List Row) label audit count after,
      boundedCount host label stream audit = (.ok count, after) →
      after.budget.scans label = some true →
        count = stream.length ∧ after.budget.rows = audit.budget.rows + stream.length) ∧
    (∀ hexdigest order catalog audit tables report after,
      tableInventory host hexdigest order catalog audit = (.ok (tables, report), after) →
      after.budget.scans inventoryLabel = some true →
        report.unexpectedTableCount = some catalog.unexpected.length ∧
          report.unexpectedTableFingerprint =
        fingerprint hexdigest catalog.unexpected.length catalog.unexpected ∧
          after.budget.rows = audit.budget.rows + catalog.unexpected.length) := by
  refine ⟨?_, ?_, ?_⟩
  · intro deadline audit reached
    have run := run_later reached
    refine ⟨run.rowCap (Nat.zero_le _), run.byteCap (Nat.zero_le _), ?_⟩
    intro after continued
    have rest := run_later continued
    exact ⟨rest.reasons, rest.frozen⟩
  · intro Row stream label audit count after ran complete
    obtain ⟨counted, scanned⟩ := bounded_count_complete ran complete
    exact ⟨counted, scanned.counted⟩
  · intro hexdigest order catalog audit tables report after ran complete
    obtain ⟨-, counted, hashed, scanned⟩ := table_inventory_complete ran complete
    exact ⟨counted, hashed, scanned.counted⟩

end

end HermesCashew.AuditBudget
