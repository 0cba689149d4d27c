import HermesCashew.RotatingCursor
import HermesCashew.ThoughtGraph
import Mathlib.Data.String.Basic

/-!
# The pages of the sleep cycles

The private table of cursors that the capped sleep cycles share, and the pages that are
claimed through it: of nodes to consolidate and of orphans to embed. A claim commits before
its page is worked on, or leaves the table as it was.
-/

namespace HermesCashew.SleepPages

open HermesCashew.JsonText (Str str)
open HermesCashew.KeyedTable HermesCashew.RotatingCursor HermesCashew.ThoughtGraph

set_option autoImplicit false

/-! ## The table of cursors -/

/-- A value that SQLite stores. -/
inductive Cell where
  | null
  | integer (value : Int)
  | real
  | text (value : String)
  | blob
  deriving DecidableEq

/-- A row of `PRAGMA table_info`. -/
structure Column where
  name : String
  type : Option String
  notNull : Int
  pk : Int

abbrev Row := String → Cell

structure StateTable where
  columns : List Column
  rows : List Row

/-- What `sqlite_master` has under the name `_cashew_sleep_state`. -/
inductive StateEntry where
  | absent
  | foreign
  | table (table : StateTable)

def sleepCursorName : String := "candidate_cursor_v1"

def orphanMissingCursorName : String := "orphan_missing_cursor_v1"

def orphanRepairCursorName : String := "orphan_repair_cursor_v1"

def orphanPhaseCursorName : String := "orphan_phase_cursor_v1"

/-- `sorted(_SLEEP_CURSOR_NAMES)`. -/
def cursorNames : List String :=
  [sleepCursorName, orphanMissingCursorName, orphanPhaseCursorName, orphanRepairCursorName]

/-- `_create_sleep_state_table`. -/
def createdColumns : List Column :=
  [⟨"name", some "TEXT", 0, 1⟩, ⟨"cursor_timestamp", some "TEXT", 1, 0⟩,
    ⟨"cursor_node_id", some "TEXT", 1, 0⟩, ⟨"epoch", some "INTEGER", 1, 0⟩]

def shape (columns : List Column) : List (String × String × Int × Int) :=
  columns.map fun column =>
    (column.name, (column.type.getD "").toUpper, column.notNull, column.pk)

def named (name : String) (row : Row) : Bool :=
  decide (row "name" = .text name)

def cellsOf (hasEpoch : Bool) (row : Row) : Cell × Cell × Cell :=
  (row "cursor_timestamp", row "cursor_node_id", if hasEpoch then row "epoch" else .integer 0)

/-- `_valid_sleep_cursor_row`. -/
def validCursor : Cell × Cell × Cell → Bool
  | (.text _, .text _, .integer epoch) => decide (0 ≤ epoch)
  | _ => false

def cursorRow (name : String) (cells : Cell × Cell × Cell) : Row := fun column =>
  if column = "name" then .text name
  else if column = "cursor_timestamp" then cells.1
  else if column = "cursor_node_id" then cells.2.1
  else if column = "epoch" then cells.2.2
  else .null

def dropInvalid (rows : List Row) (name : String) : List Row :=
  match rows.find? (named name) with
  | none => rows
  | some row =>
      if validCursor (cellsOf true row) then rows
      else rows.filter fun other => !named name other

def savedCursor (hasEpoch : Bool) (rows : List Row) (name : String) : Option Row :=
  match rows.filter (named name) with
  | [row] =>
      if validCursor (cellsOf hasEpoch row) then some (cursorRow name (cellsOf hasEpoch row))
      else none
  | _ => none

/-- `_ensure_sleep_state_schema`, which raises when something else has the name. -/
def ensureSleepStateSchema : StateEntry → Option StateTable
  | .absent => some ⟨createdColumns, []⟩
  | .foreign => none
  | .table table =>
      if shape table.columns = shape createdColumns then
        some { table with rows := cursorNames.foldl dropInvalid table.rows }
      else
        let columns := table.columns.map Column.name
        if ["name", "cursor_timestamp", "cursor_node_id"] ⊆ columns then
          some ⟨createdColumns,
            cursorNames.filterMap (savedCursor (decide ("epoch" ∈ columns)) table.rows)⟩
        else some ⟨createdColumns, []⟩

/-- What the pages are ordered by: the timestamp of a node and its id. -/
abbrev Key := String ×ₗ String

def cursorOfCells : Cell × Cell × Cell → Option (Key × Int)
  | (.text timestamp, .text nodeId, .integer epoch) => some (toLex (timestamp, nodeId), epoch)
  | _ => none

def cursorOf (table : StateTable) (name : String) : Option (Key × Int) :=
  (table.rows.find? (named name)).bind fun row => cursorOfCells (cellsOf true row)

/-- `INSERT OR REPLACE`, of a cursor. -/
def store (table : StateTable) (name : String) (key : Key) (epoch : Int) : StateTable :=
  { table with
    rows := (table.rows.filter fun row => !named name row) ++
      [cursorRow name (.text (ofLex key).1, .text (ofLex key).2, .integer epoch)] }

/-- A transaction on the table: it commits, or it raises and is rolled back. -/
def transaction {Value : Type} (commits : Bool) (state : StateEntry)
    (body : StateTable → Value × StateTable) : Option Value × StateEntry :=
  match commits, ensureSleepStateSchema state with
  | true, some table => (some (body table).1, .table (body table).2)
  | _, _ => (none, state)

/-- Claims a page: the cursor goes on to its last row. -/
def claim (name : String) (pick : Option Key → Offer Key → List Key) (offer : Offer Key)
    (table : StateTable) : List Key × StateTable :=
  let cursor := cursorOf table name
  let rows := pick (cursor.map Prod.fst) offer
  (rows, match rows.getLast? with
    | none => table
    | some last => store table name last ((cursor.map Prod.snd).getD 0 + 1))

/-! ## The pages -/

section

variable {Weight Blob : Type}

def keyOf (node : Node String) : Key :=
  toLex (node.timestamp.getD "", node.id)

def inOrder (keys : List Key) : List Key :=
  keys.mergeSort fun one other => decide (one ≤ other)

def candidateKeys (graph : Graph String Weight Blob) : List Key :=
  inOrder ((graph.nodes.rows.filter fun node =>
    node.live && (graph.embeddings.find node.id).isSome).map keyOf)

/-- `ts > ? OR (ts = ? AND id > ?)`. -/
def isAfter (cursor key : Key) : Bool :=
  decide ((ofLex cursor).1 < (ofLex key).1 ∨
    (ofLex key).1 = (ofLex cursor).1 ∧ (ofLex cursor).2 < (ofLex key).2)

/-- `ts < ? OR (ts = ? AND id <= ?)`. -/
def isUpTo (cursor key : Key) : Bool :=
  decide ((ofLex key).1 < (ofLex cursor).1 ∨
    (ofLex key).1 = (ofLex cursor).1 ∧ (ofLex key).2 ≤ (ofLex cursor).2)

/-- The rows that `_select_cycle_node_ids` reads, in one query or in two. -/
def cyclePage (cursor : Option Key) (offer : Offer Key) : List Key :=
  let rows := match cursor with
    | none => []
    | some cursor => (offer.eligible.filter (isAfter cursor)).take offer.limit
  if rows.length < offer.limit then
    match cursor with
    | none => rows ++ offer.eligible.take (offer.limit - rows.length)
    | some cursor =>
        rows ++ (offer.eligible.filter (isUpTo cursor)).take (offer.limit - rows.length)
  else rows

/-- `_select_cycle_node_ids`. -/
def selectCycleNodeIds (limit : Option Nat) (commits : Bool) (graph : Graph String Weight Blob)
    (state : StateEntry) : Option (List Key) × StateEntry :=
  match limit with
  | none => (some (candidateKeys graph), state)
  | some 0 => (some [], state)
  | some limit =>
      transaction commits state
        (claim sleepCursorName cyclePage ⟨limit, candidateKeys graph⟩)

inductive OrphanKind where
  | ordinary
  | repair
  deriving DecidableEq, Repr

/-- `TRIM(content) != ''`. -/
def trimmed (content : Str) : Bool :=
  content.any fun point => decide (point ≠ JsonText.codePoint ' ')

def orphaned (graph : Graph String Weight Blob) (node : Node String) : OrphanKind → Bool
  | .ordinary =>
      (graph.embeddings.find node.id).isNone && node.live && trimmed node.content
  | .repair =>
      (graph.embeddings.find node.id).isSome && (graph.vecEmbeddings.find node.id).isNone &&
        node.live

def orphanKeys (kind : OrphanKind) (graph : Graph String Weight Blob) : List Key :=
  inOrder ((graph.nodes.rows.filter fun node => orphaned graph node kind).map keyOf)

def OrphanKind.cursorName : OrphanKind → String
  | .ordinary => orphanMissingCursorName
  | .repair => orphanRepairCursorName

/-- The rows that `_select_orphan_page` reads. -/
def orphanPage (cursor : Option Key) (offer : Offer Key) : List Key :=
  match cursor with
  | none => offer.eligible.take offer.limit
  | some cursor =>
      let rows := (offer.eligible.filter (isAfter cursor)).take offer.limit
      if rows = [] then offer.eligible.take offer.limit else rows

/-- `_select_orphan_page`, without its mark of a boundary. -/
def selectOrphanPage (kind : OrphanKind) (take : Nat) (commits : Bool)
    (graph : Graph String Weight Blob) (state : StateEntry) : Option (List Key) × StateEntry :=
  transaction commits state
    (claim kind.cursorName orphanPage ⟨take, orphanKeys kind graph⟩)

def phaseOrder (epoch : Int) : List OrphanKind :=
  if epoch % 2 = 0 then [.ordinary, .repair] else [.repair, .ordinary]

def claimPhases (table : StateTable) : List OrphanKind × StateTable :=
  let epoch := max 0 (((cursorOf table orphanPhaseCursorName).map Prod.snd).getD 0)
  (phaseOrder epoch, store table orphanPhaseCursorName (toLex ("", "")) (epoch + 1))

/-- `_claim_orphan_phase_order`. -/
def claimOrphanPhaseOrder (capped vecAvailable commits : Bool) (state : StateEntry) :
    Option (List OrphanKind) × StateEntry :=
  if !capped || !vecAvailable then
    (some (if vecAvailable then [.ordinary, .repair] else [.ordinary]), state)
  else transaction commits state claimPhases

end

/-! ## The queries are the rotating pages -/

theorem is_after_eq (cursor : Key) : isAfter cursor = fun key => decide (cursor < key) := by
  funext key
  rw [isAfter]
  apply decide_eq_decide.mpr
  rw [Prod.Lex.lt_iff, @eq_comm _ (ofLex key).1]

theorem is_up_to_eq (cursor : Key) : isUpTo cursor = fun key => decide (key ≤ cursor) := by
  funext key
  rw [isUpTo]
  apply decide_eq_decide.mpr
  rw [Prod.Lex.le_iff]

theorem cycle_page_eq : cyclePage = wrapping := by
  funext cursor offer
  cases cursor with
  | none =>
      rw [cyclePage, wrapping]
      split
      · rw [List.nil_append, List.length_nil, Nat.sub_zero]
      · rename_i unlimited
        rw [List.length_nil, Nat.pos_iff_ne_zero, not_not] at unlimited
        rw [unlimited, List.take_zero]
  | some cursor =>
      rw [cyclePage, wrapping, is_after_eq, is_up_to_eq]
      split
      · rfl
      · rename_i full
        rw [beyond, Nat.sub_eq_zero_of_le (Nat.le_of_not_lt full), List.take_zero,
          List.append_nil]

theorem orphan_page_eq : orphanPage = stopping := by
  funext cursor offer
  cases cursor with
  | none => rfl
  | some cursor =>
      rw [orphanPage, stopping, is_after_eq]
      rfl

theorem keys_in_order {Weight Blob : Type} (graph : Graph String Weight Blob)
    (chosen : Node String → Bool) :
    (inOrder ((graph.nodes.rows.filter chosen).map keyOf)).Pairwise (· < ·) := by
  have named : ((graph.nodes.rows.filter chosen).map Node.id).Nodup :=
    graph.nodes.distinct.sublist (List.filter_sublist.map Node.id)
  have distinct : ((graph.nodes.rows.filter chosen).map keyOf).Nodup := by
    apply List.Nodup.of_map fun key : Key => (ofLex key).2
    rw [List.map_map]
    exact named
  have sorted := @List.pairwise_mergeSort _ (fun one other : Key => decide (one ≤ other))
    (fun first second third one other => by
      rw [decide_eq_true_eq] at one other ⊢
      exact one.trans other)
    (fun first second => by
      rw [Bool.or_eq_true, decide_eq_true_eq, decide_eq_true_eq]
      exact le_total _ _)
    ((graph.nodes.rows.filter chosen).map keyOf)
  have still : (inOrder ((graph.nodes.rows.filter chosen).map keyOf)).Nodup :=
    (List.mergeSort_perm _ _).nodup_iff.mpr distinct
  exact (sorted.and still).imp fun both => lt_of_le_of_ne (of_decide_eq_true both.1) both.2

/-! ## The table stays sound -/

/-- A table of the created shape in which every cursor that is read is valid. -/
structure Sound (table : StateTable) : Prop where
  columns : shape table.columns = shape createdColumns
  valid : ∀ name ∈ cursorNames, ∀ row, table.rows.find? (named name) = some row →
    validCursor (cellsOf true row) = true

section

variable {table : StateTable} {state : StateEntry} {name other : String}

theorem named_cursor_row {cells : Cell × Cell × Cell} :
    named name (cursorRow other cells) = decide (other = name) := by
  simp [named, cursorRow]

theorem cells_cursor_row {cells : Cell × Cell × Cell} :
    cellsOf true (cursorRow name cells) = cells := by
  obtain ⟨timestamp, nodeId, epoch⟩ := cells
  simp [cellsOf, cursorRow]

theorem named_only {row : Row} (one : named name row = true) (differ : name ≠ other) :
    named other row = false := by
  rw [named, decide_eq_true_eq] at one
  rw [named, one, decide_eq_false_iff_not]
  intro same
  exact differ (Cell.text.inj same)

theorem find_others (rows : List Row) (differ : name ≠ other) :
    (rows.filter fun row => !named name row).find? (named other) = rows.find? (named other) := by
  rw [List.find?_filter]
  apply congrArg fun test => rows.find? test
  funext row
  cases mine : named other row with
  | false => simp
  | true => simp [named_only mine differ.symm]

theorem find_own (rows : List Row) :
    (rows.filter fun row => !named name row).find? (named name) = none := by
  rw [List.find?_filter, List.find?_eq_none]
  intro row _
  cases named name row <;> simp

theorem dropped_own {rows : List Row} {row : Row}
    (found : (dropInvalid rows name).find? (named name) = some row) :
    validCursor (cellsOf true row) = true := by
  rw [dropInvalid] at found
  split at found
  · rename_i nothing
    rw [nothing] at found
    cases found
  · rename_i first there
    split at found
    · rename_i valid
      rw [there] at found
      exact Option.some.inj found ▸ valid
    · rw [find_own] at found
      cases found

theorem dropped_other {rows : List Row} (differ : name ≠ other) :
    (dropInvalid rows name).find? (named other) = rows.find? (named other) := by
  rw [dropInvalid]
  split
  · rfl
  · split
    · rfl
    · exact find_others rows differ

theorem dropped_valid {rows : List Row} {names : List String} {row : Row} (listed : name ∈ names)
    (found : (names.foldl dropInvalid rows).find? (named name) = some row) :
    validCursor (cellsOf true row) = true := by
  have later : ∀ {names : List String} {rows : List Row},
      (∀ row, rows.find? (named name) = some row → validCursor (cellsOf true row) = true) →
      ∀ row, (names.foldl dropInvalid rows).find? (named name) = some row →
        validCursor (cellsOf true row) = true := by
    intro names
    induction names with
    | nil => exact fun sound => sound
    | cons first rest induction =>
        intro rows sound
        apply induction
        intro row there
        by_cases same : first = name
        · subst same
          exact dropped_own there
        · rw [dropped_other same] at there
          exact sound row there
  induction names generalizing rows with
  | nil => cases listed
  | cons first rest induction =>
      rcases List.mem_cons.mp listed with rfl | after
      · exact later (fun _ => dropped_own) row found
      · exact induction after found

theorem kept_valid {rows : List Row} {names : List String}
    (sound : ∀ name ∈ names, ∀ row, rows.find? (named name) = some row →
      validCursor (cellsOf true row) = true) : names.foldl dropInvalid rows = rows := by
  induction names with
  | nil => rfl
  | cons first rest induction =>
      have unchanged : dropInvalid rows first = rows := by
        rw [dropInvalid]
        split
        · rfl
        · rename_i row there
          rw [if_pos (sound first List.mem_cons_self row there)]
      rw [List.foldl_cons, unchanged]
      exact induction fun name listed => sound name (List.mem_cons_of_mem _ listed)

/-- A saved cursor is valid under its name. -/
theorem saved_valid {hasEpoch : Bool} {rows : List Row} {row : Row}
    (saved : savedCursor hasEpoch rows name = some row) :
    validCursor (cellsOf true row) = true := by
  rw [savedCursor] at saved
  split at saved
  · rename_i only
    split at saved
    · rename_i valid
      rw [← Option.some.inj saved, cells_cursor_row]
      exact valid
    · cases saved
  · cases saved

/-- Whatever has the name of the table, what comes of it is sound. -/
theorem ensure_sound (ensured : ensureSleepStateSchema state = some table) : Sound table := by
  cases state with
  | absent =>
      obtain rfl := Option.some.inj ensured
      exact ⟨rfl, fun _ _ _ found => by cases found⟩
  | foreign => cases ensured
  | table old =>
      rw [ensureSleepStateSchema] at ensured
      split at ensured
      · rename_i same
        obtain rfl := Option.some.inj ensured
        exact ⟨same, fun _ listed _ found => dropped_valid listed found⟩
      · dsimp only at ensured
        split at ensured
        · obtain rfl := Option.some.inj ensured
          refine ⟨rfl, ?_⟩
          intro name _ row found
          obtain ⟨saved_name, _, saved⟩ := List.mem_filterMap.mp (List.mem_of_find?_eq_some found)
          exact saved_valid saved
        · obtain rfl := Option.some.inj ensured
          exact ⟨rfl, fun _ _ _ found => by cases found⟩

theorem Sound.ensured (sound : Sound table) :
    ensureSleepStateSchema (.table table) = some table := by
  rw [ensureSleepStateSchema, if_pos sound.columns, kept_valid sound.valid]

theorem cursor_of_valid {row : Row} (valid : validCursor (cellsOf true row) = true) :
    ∃ key epoch, cursorOfCells (cellsOf true row) = some (key, epoch) ∧ 0 ≤ epoch := by
  match cells : cellsOf true row with
  | (.text timestamp, .text nodeId, .integer epoch) =>
      rw [cells] at valid
      exact ⟨_, epoch, rfl, of_decide_eq_true valid⟩
  | (.null, _, _) | (.integer _, _, _) | (.real, _, _) | (.blob, _, _) | (.text _, .null, _)
  | (.text _, .integer _, _) | (.text _, .real, _) | (.text _, .blob, _)
  | (.text _, .text _, .null) | (.text _, .text _, .real) | (.text _, .text _, .text _)
  | (.text _, .text _, .blob) =>
      rw [cells] at valid
      cases valid

theorem Sound.epoch (sound : Sound table) (known : name ∈ cursorNames) {key : Key} {epoch : Int}
    (read : cursorOf table name = some (key, epoch)) : 0 ≤ epoch := by
  rw [cursorOf, Option.bind_eq_some_iff] at read
  obtain ⟨row, found, cells⟩ := read
  obtain ⟨_, valid_epoch, same, positive⟩ := cursor_of_valid (sound.valid name known row found)
  rw [same] at cells
  obtain ⟨-, rfl⟩ := Prod.mk.inj (Option.some.inj cells)
  exact positive

theorem cursor_stored (key : Key) (epoch : Int) :
    cursorOf (store table name key epoch) name = some (key, epoch) := by
  rw [cursorOf, store]
  dsimp only
  rw [List.find?_append, find_own, Option.none_or]
  simp [named_cursor_row, cells_cursor_row, cursorOfCells]

theorem cursor_elsewhere (key : Key) (epoch : Int) (differ : name ≠ other) :
    cursorOf (store table name key epoch) other = cursorOf table other := by
  rw [cursorOf, store]
  dsimp only
  rw [List.find?_append, find_others _ differ]
  simp [named_cursor_row, differ, cursorOf]

theorem Sound.stored (sound : Sound table) (key : Key) {epoch : Int} (positive : 0 ≤ epoch) :
    Sound (store table name key epoch) := by
  refine ⟨sound.columns, ?_⟩
  intro other known row found
  rw [store] at found
  dsimp only at found
  rw [List.find?_append] at found
  by_cases same : name = other
  · subst same
    rw [find_own, Option.none_or, List.find?_singleton] at found
    split at found
    · rw [← Option.some.inj found, cells_cursor_row]
      exact decide_eq_true positive
    · cases found
  · rw [find_others _ same] at found
    have not_new : [cursorRow name (.text (ofLex key).1, .text (ofLex key).2,
        .integer epoch)].find? (named other) = none := by
      simp [named_cursor_row, same]
    rw [not_new, Option.or_none] at found
    exact sound.valid other known row found

end

/-! ## Claims one after another -/

inductive Claimant where
  | nodes
  | orphans (kind : OrphanKind)
  deriving DecidableEq, Repr

def Claimant.cursorName : Claimant → String
  | .nodes => sleepCursorName
  | .orphans kind => kind.cursorName

def Claimant.page : Claimant → Option Key → Offer Key → List Key
  | .nodes => cyclePage
  | .orphans _ => orphanPage

theorem claimant_known (claimant : Claimant) : claimant.cursorName ∈ cursorNames := by
  match claimant with
  | .nodes => decide
  | .orphans .ordinary => decide
  | .orphans .repair => decide

theorem claimant_named {one other : Claimant} (same : one.cursorName = other.cursorName) :
    one = other := by
  match one, other with
  | .nodes, .nodes => rfl
  | .orphans .ordinary, .orphans .ordinary => rfl
  | .orphans .repair, .orphans .repair => rfl
  | .nodes, .orphans .ordinary | .nodes, .orphans .repair | .orphans .ordinary, .nodes
  | .orphans .repair, .nodes | .orphans .ordinary, .orphans .repair
  | .orphans .repair, .orphans .ordinary =>
      revert same
      decide

theorem claimant_apart (claimant : Claimant) : orphanPhaseCursorName ≠ claimant.cursorName := by
  match claimant with
  | .nodes => decide
  | .orphans .ordinary => decide
  | .orphans .repair => decide

theorem claimant_rotates (claimant : Claimant) : Rotates claimant.page := by
  cases claimant with
  | nodes =>
      rw [Claimant.page, cycle_page_eq]
      exact wrapping_rotates
  | orphans kind =>
      rw [Claimant.page, orphan_page_eq]
      exact stopping_rotates

/-- A call that may claim through the table, on the graph of its time. -/
inductive Event (Weight Blob : Type) where
  | nodes (limit : Option Nat) (commits : Bool) (graph : Graph String Weight Blob)
  | orphans (kind : OrphanKind) (take : Nat) (commits : Bool) (graph : Graph String Weight Blob)
  | phases (capped vecAvailable commits : Bool)

section

variable {Weight Blob : Type}

def Event.after : Event Weight Blob → StateEntry → StateEntry
  | .nodes limit commits graph, state => (selectCycleNodeIds limit commits graph state).2
  | .orphans kind take commits graph, state => (selectOrphanPage kind take commits graph state).2
  | .phases capped vecAvailable commits, state =>
      (claimOrphanPhaseOrder capped vecAvailable commits state).2

/-- What a call has to claim from; an uncapped pass claims nothing. -/
def Event.offer (claimant : Claimant) : Event Weight Blob → Option (Offer Key)
  | .nodes (some (limit + 1)) _ graph =>
      if claimant = .nodes then some ⟨limit + 1, candidateKeys graph⟩ else none
  | .orphans kind take _ graph =>
      if claimant = .orphans kind then some ⟨take, orphanKeys kind graph⟩ else none
  | _ => none

def Event.page (claimant : Claimant) : Event Weight Blob → StateEntry → Option (List Key)
  | .nodes (some (limit + 1)) commits graph, state =>
      if claimant = .nodes then (selectCycleNodeIds (some (limit + 1)) commits graph state).1
      else none
  | .orphans kind take commits graph, state =>
      if claimant = .orphans kind then (selectOrphanPage kind take commits graph state).1
      else none
  | _, _ => none

def pagesOf (claimant : Claimant) : List (Event Weight Blob) → StateEntry → List (List Key)
  | [], _ => []
  | event :: rest, state =>
      (event.page claimant state).toList ++ pagesOf claimant rest (event.after state)

/-- The offers of the claims that commit. -/
def offersOf (claimant : Claimant) : List (Event Weight Blob) → StateEntry → List (Offer Key)
  | [], _ => []
  | event :: rest, state =>
      (if (event.page claimant state).isSome then (event.offer claimant).toList else []) ++
        offersOf claimant rest (event.after state)

/-- The order of the phases in each capped embedding of orphans that claims it. -/
def phasesOf : List (Event Weight Blob) → StateEntry → List (List OrphanKind)
  | [], _ => []
  | .phases true true commits :: rest, state =>
      (claimOrphanPhaseOrder true true commits state).1.toList ++
        phasesOf rest (claimOrphanPhaseOrder true true commits state).2
  | event :: rest, state => phasesOf rest (event.after state)

def cursorIn (state : StateEntry) (name : String) : Option (Key × Int) :=
  (ensureSleepStateSchema state).bind fun table => cursorOf table name

variable {state : StateEntry} {name other : String}

theorem cursor_in_sound {table : StateTable} (sound : Sound table) :
    cursorIn (.table table) name = cursorOf table name := by
  rw [cursorIn, sound.ensured, Option.bind_some]

/-- A transaction leaves the table as it was, or works on a sound one. -/
theorem transaction_cases {Value : Type} (commits : Bool) (body : StateTable → Value × StateTable) :
    transaction commits state body = (none, state) ∨
      ∃ table, Sound table ∧ cursorIn state = cursorOf table ∧
        transaction commits state body = (some (body table).1, .table (body table).2) := by
  cases commits with
  | false => exact .inl rfl
  | true =>
      cases ensured : ensureSleepStateSchema state with
      | none =>
          left
          simp only [transaction, ensured]
      | some table =>
          refine .inr ⟨table, ensure_sound ensured, ?_, ?_⟩
          · funext name
            rw [cursorIn, ensured, Option.bind_some]
          · simp only [transaction, ensured]

theorem claim_sound {table : StateTable} (sound : Sound table) (known : name ∈ cursorNames)
    (pick : Option Key → Offer Key → List Key) (offer : Offer Key) :
    Sound (claim name pick offer table).2 ∧
      (cursorOf (claim name pick offer table).2 name).map Prod.fst =
        (claim name pick offer table).1.getLast?.or ((cursorOf table name).map Prod.fst) ∧
      ∀ other, name ≠ other →
        cursorOf (claim name pick offer table).2 other = cursorOf table other := by
  have positive : 0 ≤ ((cursorOf table name).map Prod.snd).getD 0 := by
    cases read : cursorOf table name with
    | none => exact le_refl 0
    | some cursor => exact sound.epoch known read
  rw [claim]
  dsimp only
  split
  · rename_i nothing
    rw [nothing, Option.none_or]
    exact ⟨sound, rfl, fun _ _ => rfl⟩
  · rename_i last ends
    rw [ends, cursor_stored]
    exact ⟨sound.stored last (Int.add_nonneg positive (by decide)), rfl,
      fun other differ => cursor_elsewhere last _ differ⟩

/-- What a claim does to the cursors. -/
theorem claim_cursors (claimant : Claimant) (commits : Bool) (offer : Offer Key) :
    (transaction commits state (claim claimant.cursorName claimant.page offer) = (none, state)) ∨
      ∃ rows after, transaction commits state (claim claimant.cursorName claimant.page offer) =
          (some rows, after) ∧
        rows = claimant.page ((cursorIn state claimant.cursorName).map Prod.fst) offer ∧
        (cursorIn after claimant.cursorName).map Prod.fst =
          rows.getLast?.or ((cursorIn state claimant.cursorName).map Prod.fst) ∧
        ∀ other, claimant.cursorName ≠ other → cursorIn after other = cursorIn state other := by
  rcases @transaction_cases state _ commits (claim claimant.cursorName claimant.page offer) with
    idle | ⟨table, sound, read, claimed⟩
  · exact .inl idle
  · obtain ⟨still, moved, elsewhere⟩ :=
      claim_sound sound (claimant_known claimant) claimant.page offer
    refine .inr ⟨_, _, claimed, ?_, ?_, ?_⟩
    · rw [read]
      rfl
    · rw [cursor_in_sound still, read]
      exact moved
    · intro other differ
      rw [cursor_in_sound still, read]
      exact elsewhere other differ

theorem phase_cursors (capped vecAvailable commits : Bool) (differ : orphanPhaseCursorName ≠ name) :
    cursorIn (claimOrphanPhaseOrder capped vecAvailable commits state).2 name =
      cursorIn state name := by
  rw [claimOrphanPhaseOrder]
  split
  · rfl
  · rcases @transaction_cases state _ commits claimPhases with
      idle | ⟨table, sound, read, claimed⟩
    · rw [idle]
    · rw [claimed, read, claimPhases, cursor_in_sound, cursor_elsewhere _ _ differ]
      exact sound.stored _ (Int.add_nonneg (Int.le_max_left _ _) (by decide))

/-- One call, for one claimant: a page from behind its cursor, or its cursor unmoved. -/
theorem event_cursor (claimant : Claimant) (event : Event Weight Blob) (state : StateEntry) :
    (event.page claimant state = none ∧
      cursorIn (event.after state) claimant.cursorName =
        cursorIn state claimant.cursorName) ∨
    ∃ offer rows, event.offer claimant = some offer ∧ event.page claimant state = some rows ∧
      rows = claimant.page ((cursorIn state claimant.cursorName).map Prod.fst) offer ∧
      (cursorIn (event.after state) claimant.cursorName).map Prod.fst =
        rows.getLast?.or ((cursorIn state claimant.cursorName).map Prod.fst) := by
  have claims : ∀ (own : Claimant) (commits : Bool) (offer : Offer Key),
      event.after state =
        (transaction commits state (claim own.cursorName own.page offer)).2 →
      event.offer claimant = (if claimant = own then some offer else none) →
      event.page claimant state = (if claimant = own then
        (transaction commits state (claim own.cursorName own.page offer)).1 else none) →
      (event.page claimant state = none ∧
        cursorIn (event.after state) claimant.cursorName =
          cursorIn state claimant.cursorName) ∨
      ∃ offer rows, event.offer claimant = some offer ∧ event.page claimant state = some rows ∧
        rows = claimant.page ((cursorIn state claimant.cursorName).map Prod.fst) offer ∧
        (cursorIn (event.after state) claimant.cursorName).map Prod.fst =
          rows.getLast?.or ((cursorIn state claimant.cursorName).map Prod.fst) := by
    intro own commits offer moves offers selects
    rw [moves, offers, selects]
    by_cases same : claimant = own
    · subst same
      simp only [if_true]
      rcases @claim_cursors state claimant commits offer with
        idle | ⟨rows, after, claimed, picked, moved, -⟩
      · rw [idle]
        exact .inl ⟨rfl, rfl⟩
      · rw [claimed]
        exact .inr ⟨offer, rows, rfl, rfl, picked, moved⟩
    · rw [if_neg same, if_neg same]
      refine .inl ⟨rfl, ?_⟩
      have differ : own.cursorName ≠ claimant.cursorName :=
        fun named => same (claimant_named named).symm
      rcases @claim_cursors state own commits offer with
        idle | ⟨rows, after, claimed, -, -, elsewhere⟩
      · rw [idle]
      · rw [claimed]
        exact elsewhere _ differ
  match event with
  | .nodes none _ _ => exact .inl ⟨rfl, rfl⟩
  | .nodes (some 0) _ _ => exact .inl ⟨rfl, rfl⟩
  | .nodes (some (limit + 1)) commits graph =>
      exact claims .nodes commits ⟨limit + 1, candidateKeys graph⟩ rfl rfl rfl
  | .orphans kind take commits graph =>
      exact claims (.orphans kind) commits ⟨take, orphanKeys kind graph⟩ rfl rfl rfl
  | .phases capped vecAvailable commits =>
      exact .inl ⟨rfl, phase_cursors capped vecAvailable commits (claimant_apart claimant)⟩

/-- The pages of a claimant are those of its own cursor, whoever else uses the table. -/
theorem pages_of_events (claimant : Claimant) (events : List (Event Weight Blob))
    (state : StateEntry) :
    pagesOf claimant events state =
      pages claimant.page ((cursorIn state claimant.cursorName).map Prod.fst)
        (offersOf claimant events state) := by
  induction events generalizing state with
  | nil => rfl
  | cons event rest induction =>
      rw [pagesOf, offersOf, induction]
      rcases event_cursor claimant event state with
        ⟨idle, unmoved⟩ | ⟨offer, rows, offered, selected, picked, moved⟩
      · rw [idle, unmoved]
        rfl
      · rw [selected, offered, moved, picked]
        rfl

theorem offered {claimant : Claimant} {events : List (Event Weight Blob)} {offer : Offer Key}
    (listed : offer ∈ offersOf claimant events state) :
    ∃ event ∈ events, event.offer claimant = some offer := by
  induction events generalizing state with
  | nil => cases listed
  | cons event rest induction =>
      rw [offersOf] at listed
      rcases List.mem_append.mp listed with now | later
      · split at now
        · exact ⟨event, List.mem_cons_self, Option.mem_toList.mp now⟩
        · cases now
      · obtain ⟨other, there, same⟩ := induction later
        exact ⟨other, List.mem_cons_of_mem _ there, same⟩

theorem offer_sorted {claimant : Claimant} {event : Event Weight Blob} {offer : Offer Key}
    (same : event.offer claimant = some offer) : offer.eligible.Pairwise (· < ·) := by
  match event with
  | .nodes none _ _ | .nodes (some 0) _ _ | .phases _ _ _ => cases same
  | .nodes (some (limit + 1)) _ graph =>
      rw [← Option.some.inj (Option.ite_none_right_eq_some.mp same).2]
      exact keys_in_order graph _
  | .orphans kind take _ graph =>
      rw [← Option.some.inj (Option.ite_none_right_eq_some.mp same).2]
      exact keys_in_order graph _

variable {claimant : Claimant} {events : List (Event Weight Blob)} {waiting : Key}

theorem in_order_pair {first second : Key} (ordered : first ≤ second) :
    inOrder [first, second] = [first, second] := by
  apply List.mergeSort_of_pairwise
  rw [List.pairwise_pair]
  exact decide_eq_true ordered

def dated (day id : String) : Node String :=
  { id := id, content := str "text", nodeType := str "observation", timestamp := some day }

def quartet : Graph String Unit Unit where
  nodes := ⟨[dated "1" "a", dated "2" "b", dated "1" "c", dated "2" "d"], by decide⟩
  edges := .empty
  embeddings := ⟨[⟨"a", (), [], ""⟩, ⟨"b", (), [], ""⟩], by decide⟩
  vecEmbeddings := .empty
  decayAudit := []

theorem quartet_candidates :
    candidateKeys quartet = [toLex ("1", "a"), toLex ("2", "b")] := by
  apply in_order_pair
  rw [Prod.Lex.le_iff]
  decide

theorem quartet_orphans :
    orphanKeys .ordinary quartet = [toLex ("1", "c"), toLex ("2", "d")] := by
  apply in_order_pair
  rw [Prod.Lex.le_iff]
  decide

theorem every_offer {claimant : Claimant} {events : List (Event Weight Blob)} {same : Offer Key}
    {holds : Offer Key → Prop} (offers : ∀ event ∈ events, event.offer claimant = some same)
    (good : holds same) :
    ∀ event ∈ events, ∀ offer, event.offer claimant = some offer → holds offer := by
  intro event listed offer offered
  rw [offers event listed] at offered
  exact Option.some.inj offered ▸ good

/-- While a node waits that stays eligible, no other is selected twice, be the table as it
may, the claims be rolled back or not, and the graph change from call to call. -/
theorem waiting_passed_once
    (stays : ∀ event ∈ events, ∀ offer, event.offer claimant = some offer →
      waiting ∈ offer.eligible)
    (missed : waiting ∉ (pagesOf claimant events state).flatten) :
    (pagesOf claimant events state).flatten.Nodup := by
  rw [pages_of_events] at missed ⊢
  apply selected_once (claimant_rotates claimant) _ _ missed
  · intro offer listed
    obtain ⟨event, -, same⟩ := offered listed
    exact offer_sorted same
  · intro offer listed
    obtain ⟨event, there, same⟩ := offered listed
    exact stays event there offer same

/-- The second node waits while the first is claimed, and a claim in between is lost. -/
theorem second_waits :
    (pagesOf .nodes [.nodes (some 1) true quartet, .nodes (some 1) false quartet]
      .absent).flatten.Nodup := by
  have offers : ∀ event ∈ [Event.nodes (some 1) true quartet, .nodes (some 1) false quartet],
      event.offer .nodes = some ⟨1, [toLex ("1", "a"), toLex ("2", "b")]⟩ := by
    simp [Event.offer, quartet_candidates]
  apply @waiting_passed_once Unit Unit .absent .nodes _ (toLex ("2", "b"))
  · exact every_offer offers (by decide)
  · simp only [pagesOf, Event.page, Event.after, selectCycleNodeIds, quartet_candidates]
    decide

theorem selected_by_events
    (stays : ∀ event ∈ events, ∀ offer, event.offer claimant = some offer →
      waiting ∈ offer.eligible) {size : Offer Key → Nat}
    (full : ∀ cursor, ∀ offer ∈ offersOf claimant events state, waiting ∈ offer.eligible →
      waiting ∉ claimant.page cursor offer → size offer ≤ (claimant.page cursor offer).length)
    {everything : Finset Key}
    (within : ∀ event ∈ events, ∀ offer, event.offer claimant = some offer →
      ∀ key ∈ offer.eligible, key ∈ everything) (present : waiting ∈ everything)
    (enough : everything.card ≤ ((offersOf claimant events state).map size).sum) :
    waiting ∈ (pagesOf claimant events state).flatten := by
  have eligible : ∀ offer ∈ offersOf claimant events state, waiting ∈ offer.eligible := by
    intro offer listed
    obtain ⟨event, there, same⟩ := offered listed
    exact stays event there offer same
  rw [pages_of_events]
  apply selected_within (claimant_rotates claimant) _ eligible _ _ present enough
  · intro offer listed
    obtain ⟨event, -, same⟩ := offered listed
    exact offer_sorted same
  · intro cursor offer listed missed
    exact full cursor offer listed (eligible offer listed) missed
  · intro offer listed
    obtain ⟨event, there, same⟩ := offered listed
    exact within event there offer same

/-- A node that stays eligible is selected by the time the limits of the cycles that
committed add up to the number of nodes that were eligible at all. -/
theorem node_selected_within
    (stays : ∀ event ∈ events, ∀ offer, event.offer .nodes = some offer →
      waiting ∈ offer.eligible) {everything : Finset Key}
    (within : ∀ event ∈ events, ∀ offer, event.offer .nodes = some offer →
      ∀ key ∈ offer.eligible, key ∈ everything) (present : waiting ∈ everything)
    (enough : everything.card ≤ ((offersOf .nodes events state).map Offer.limit).sum) :
    waiting ∈ (pagesOf .nodes events state).flatten := by
  apply selected_by_events stays _ within present enough
  intro cursor offer _ eligible missed
  rw [Claimant.page, cycle_page_eq] at missed ⊢
  exact wrapping_full eligible missed

theorem second_selected :
    toLex ("2", "b") ∈ (pagesOf .nodes [.nodes (some 1) true quartet, .nodes (some 1) true quartet]
      .absent).flatten := by
  have offers : ∀ event ∈ [Event.nodes (some 1) true quartet, .nodes (some 1) true quartet],
      event.offer .nodes = some ⟨1, [toLex ("1", "a"), toLex ("2", "b")]⟩ := by
    simp [Event.offer, quartet_candidates]
  apply @node_selected_within Unit Unit .absent _ _ _
    ({toLex ("1", "a"), toLex ("2", "b")} : Finset Key)
  · exact every_offer offers (by simp)
  · decide
  · simp only [offersOf, Event.page, Event.offer, Event.after, selectCycleNodeIds,
      quartet_candidates]
    decide +kernel
  · exact every_offer offers (by decide)

/-- An orphan that stays one is selected by the time there were as many pages as orphans of
its kind at all. -/
theorem orphan_selected_within {kind : OrphanKind}
    (stays : ∀ event ∈ events, ∀ offer, event.offer (.orphans kind) = some offer →
      waiting ∈ offer.eligible)
    (positive : ∀ event ∈ events, ∀ offer, event.offer (.orphans kind) = some offer →
      0 < offer.limit) {everything : Finset Key}
    (within : ∀ event ∈ events, ∀ offer, event.offer (.orphans kind) = some offer →
      ∀ key ∈ offer.eligible, key ∈ everything) (present : waiting ∈ everything)
    (enough : everything.card ≤ (offersOf (.orphans kind) events state).length) :
    waiting ∈ (pagesOf (.orphans kind) events state).flatten := by
  apply selected_by_events stays _ within present
    (show _ ≤ ((offersOf (.orphans kind) events state).map fun _ => 1).sum by simpa using enough)
  intro cursor offer listed eligible missed
  obtain ⟨event, there, same⟩ := offered listed
  rw [Claimant.page, orphan_page_eq]
  exact stopping_some (positive event there offer same) eligible

theorem second_orphan_selected :
    toLex ("2", "d") ∈ (pagesOf (.orphans .ordinary)
      [.orphans .ordinary 1 true quartet, .orphans .ordinary 1 true quartet]
      .absent).flatten := by
  have offers : ∀ event ∈ [Event.orphans .ordinary 1 true quartet,
      .orphans .ordinary 1 true quartet],
      event.offer (.orphans .ordinary) =
        some ⟨1, [toLex ("1", "c"), toLex ("2", "d")]⟩ := by
    simp [Event.offer, quartet_orphans]
  apply @orphan_selected_within Unit Unit .absent _ _ .ordinary _ _
    ({toLex ("1", "c"), toLex ("2", "d")} : Finset Key)
  · exact every_offer offers (by simp)
  · decide
  · simp only [offersOf, Event.page, Event.offer, Event.after, selectOrphanPage, quartet_orphans]
    decide +kernel
  · exact every_offer offers (by decide)
  · exact every_offer offers Nat.zero_lt_one

end

/-! ## The phases of the orphans -/

section

variable {Weight Blob : Type}

/-- The epoch that the next claim of the order would read. -/
def phaseEpoch (state : StateEntry) : Int :=
  max 0 (((cursorIn state orphanPhaseCursorName).map Prod.snd).getD 0)

theorem phase_claimed (commits : Bool) (state : StateEntry) :
    claimOrphanPhaseOrder true true commits state = (none, state) ∨
      ∃ after, claimOrphanPhaseOrder true true commits state =
          (some (phaseOrder (phaseEpoch state)), after) ∧
        phaseEpoch after = phaseEpoch state + 1 := by
  rw [claimOrphanPhaseOrder, if_neg (by decide)]
  rcases @transaction_cases state _ commits claimPhases with idle | ⟨table, sound, read, claimed⟩
  · exact .inl idle
  · refine .inr ⟨.table (claimPhases table).2, ?_, ?_⟩
    · rw [claimed, phaseEpoch, read]
      rfl
    · have positive : (0 : Int) ≤ max 0 (((cursorOf table orphanPhaseCursorName).map
          Prod.snd).getD 0) + 1 := Int.add_nonneg (Int.le_max_left _ _) (by decide)
      rw [claimPhases, phaseEpoch, cursor_in_sound (sound.stored _ positive), cursor_stored,
        phaseEpoch, read]
      exact max_eq_right positive

theorem phase_epoch_elsewhere (event : Event Weight Blob) (state : StateEntry)
    (other : ∀ commits, event ≠ .phases true true commits) :
    phaseEpoch (event.after state) = phaseEpoch state := by
  have claims : ∀ (own : Claimant) (commits : Bool) (offer : Offer Key), event.after state =
      (transaction commits state (claim own.cursorName own.page offer)).2 →
      phaseEpoch (event.after state) = phaseEpoch state := by
    intro own commits offer moves
    rw [moves, phaseEpoch, phaseEpoch]
    rcases @claim_cursors state own commits offer with
      idle | ⟨rows, after, claimed, -, -, elsewhere⟩
    · rw [idle]
    · rw [claimed, elsewhere _ (claimant_apart own).symm]
  match event with
  | .nodes none _ _ | .nodes (some 0) _ _ => rfl
  | .nodes (some (limit + 1)) commits graph =>
      exact claims .nodes commits ⟨limit + 1, candidateKeys graph⟩ rfl
  | .orphans kind take commits graph =>
      exact claims (.orphans kind) commits ⟨take, orphanKeys kind graph⟩ rfl
  | .phases false _ _ => rfl
  | .phases true false _ => rfl
  | .phases true true commits => exact absurd rfl (other commits)

/-- The phases take turns: of the capped embeddings that claim their order, one begins with
the missing embeddings and the next with the missing vectors, whatever comes between. -/
theorem phases_take_turns (events : List (Event Weight Blob)) (state : StateEntry) (index : Nat)
    (order : List OrphanKind) (claimed : (phasesOf events state)[index]? = some order) :
    order = phaseOrder (phaseEpoch state + index) := by
  induction events generalizing state index with
  | nil => cases claimed
  | cons event rest induction =>
      by_cases phases : ∃ commits, event = .phases true true commits
      · obtain ⟨commits, rfl⟩ := phases
        rw [phasesOf] at claimed
        rcases phase_claimed commits state with idle | ⟨after, taken, moved⟩
        · rw [idle] at claimed
          exact induction state index claimed
        · rw [taken] at claimed
          cases index with
          | zero =>
              rw [Int.natCast_zero, Int.add_zero]
              exact (Option.some.inj claimed).symm
          | succ index =>
              rw [induction after index claimed, moved]
              congr 1
              push_cast
              omega
      · have other : ∀ commits, event ≠ .phases true true commits :=
          fun commits same => phases ⟨commits, same⟩
        have skipped : phasesOf (event :: rest) state = phasesOf rest (event.after state) := by
          match event with
          | .nodes _ _ _ | .orphans _ _ _ _ | .phases false _ _ | .phases true false _ => rfl
          | .phases true true commits => exact absurd rfl (other commits)
        rw [skipped] at claimed
        rw [induction _ index claimed, phase_epoch_elsewhere event state other]

/-- The second order that is claimed begins with the repairs, after one that was lost. -/
theorem second_order : [OrphanKind.repair, .ordinary] = phaseOrder (phaseEpoch .absent + 1) :=
  @phases_take_turns Unit Unit
    [.phases true true true, .phases true true false, .phases false true true,
      .phases true true true] .absent 1 [.repair, .ordinary] (by decide +kernel)

end

end HermesCashew.SleepPages
