import HermesCashew.Raising
import HermesCashew.VecDeclaration
import Mathlib.Data.Finset.Card

/-!
# Migration of the stored embeddings

`_repair_embedding_dimension_locked` with the queries it makes. The upstream migration is
a function of the database with any result; a backup is the database itself. The tests of
the stored vectors divide their lengths by four, and the dimension of the vec table is
read with a narrower pattern than the one of `verify_readonly_profile`.
-/

namespace HermesCashew.EmbeddingMigration

open HermesCashew.PythonInt HermesCashew.Raising HermesCashew.VecDeclaration

set_option autoImplicit false

/-! ## The database -/

structure Node where
  id : Option String
  decayed : Option Int
  content : Option String

/-- `length` is `LENGTH(vector)`. -/
structure Embedding where
  nodeId : Option String
  length : Option Nat
  model : Option String

structure VecTable where
  sql : List Char
  ids : List (Option String)

/-- `other` is the content that no query here reads. -/
structure Database (Other : Type) where
  nodes : List Node
  embeddings : List Embedding
  vec : Option VecTable
  metadata : String → Option String
  other : Other

/-- `str(value)` of a column. -/
def str (value : Option String) : String :=
  value.getD "None"

/-- `(decayed IS NULL OR decayed = 0) AND content IS NOT NULL AND TRIM(content) != ''`. -/
def Node.active (node : Node) : Bool :=
  (node.decayed = none || node.decayed = some 0) &&
    match node.content with
    | some text => text.toList.any (· ≠ ' ')
    | none => false

section

variable {Other : Type} (decimal : Decimals) (database : Database Other)

/-- The rows of `embeddings e JOIN thought_nodes n ON n.id = e.node_id` for active nodes. -/
def activeRows : List Embedding :=
  database.embeddings.flatMap fun embedding =>
    (database.nodes.filter fun node =>
      node.id.isSome && node.id = embedding.nodeId && node.active).map fun _ => embedding

/-- `_embedding_dimensions`. -/
def storedDimensions : Finset Nat :=
  (database.embeddings.filterMap fun embedding => embedding.length.map (· / 4)).toFinset

/-- The second half of `_embedding_dimensions`, where `int` may raise. -/
def vecDimension : Except Unit (Option Int) :=
  match database.vec.bind fun table => search (floatHere decimal) table.sql with
  | none => .ok none
  | some digits =>
      match pyInt decimal (String.ofList digits) with
      | some dimension => .ok (some dimension)
      | none => .error ()

/-- What `verify_readonly_profile` takes for the dimension of a vec table. -/
def VecTable.declared (table : VecTable) : Option Int :=
  (search (vectorHere decimal) table.sql).bind fun digits => pyInt decimal (String.ofList digits)

/-- `_active_embedding_ids`. -/
def activeEmbeddingIds : Finset String :=
  ((database.nodes.filter Node.active).map fun node => str node.id).toFinset

/-- `_active_embedding_models`. -/
def activeEmbeddingModels : Finset String :=
  ((activeRows database).filterMap Embedding.model).toFinset

end

/-! ## The repair -/

inductive Summary where
  /-- `nodes_embedded` is an `int` that is no `bool`. -/
  | embedded (count : Int)
  | illTyped
  | raised
  deriving DecidableEq, Repr

/-- What the code outside decides. -/
structure World (Other : Type) where
  decimal : Decimals
  /-- `_config.embedding_model`. -/
  configured : Option String
  /-- `_active_embedding_dimension()`. -/
  verified : Option Nat
  inspects : Bool
  backs : Except Unit Bool
  readsIds : Bool
  migrate : Database Other → Database Other × Summary
  inspectsAfter : Bool
  /-- `sqlite_vec` can be loaded. -/
  loadsVec : Bool
  readsVec : Bool

section

variable {Other : Type} (world : World Other)

/-- The five reasons for a repair. -/
def required (model : String) (expected : Nat) (dimension : Option Int)
    (database : Database Other) : Bool :=
  let stored := storedDimensions database
  let models := activeEmbeddingModels database
  let storedMismatch := decide (stored ≠ ∅ ∧ stored ≠ {expected})
  let vecMismatch := match dimension with
    | some dimension => decide (dimension ≠ expected)
    | none => false
  let modelMismatch := decide (models ≠ ∅ ∧ models ≠ {model})
  let persistedModelMismatch :=
    decide (database.metadata "embedding_model" ∉ [none, some model])
  let persistedDimMismatch :=
    decide (database.metadata "embedding_dim" ∉ [none, some (toString expected)])
  storedMismatch || vecMismatch || modelMismatch || persistedModelMismatch ||
    persistedDimMismatch

/-- `_migration_postconditions`; `int(None)` raises, like the other failures. -/
def migrationPostconditions (expectedIds : Finset String) (model : String) (expected : Nat)
    (dimension : Option Int) (database : Database Other) : Bool :=
  let rows := activeRows database
  decide ((rows.map fun row => str row.nodeId).toFinset = expectedIds) &&
    rows.all (fun row => row.model = some model && row.length.map (· / 4) = some expected) &&
    match dimension, database.vec with
    | some _, some table =>
        !world.loadsVec || (world.readsVec && decide ((table.ids.map str).toFinset = expectedIds))
    | _, _ => true

/-- The checks between the migration and the end of the `try`. -/
def accepts (expectedIds : Finset String) (model : String) (expected : Nat)
    (migrated : Database Other) (summary : Summary) : Bool :=
  decide (summary = .embedded expectedIds.card) && world.inspectsAfter &&
    decide (storedDimensions migrated = ∅ ∨ storedDimensions migrated = {expected}) &&
    match vecDimension world.decimal migrated with
    | .error _ => false
    | .ok dimension =>
        (match dimension with
        | some dimension => decide (dimension = expected)
        | none => true) &&
          migrationPostconditions world expectedIds model expected dimension migrated

def ensure (holds : Bool) : Block (Database Other) Unit Unit :=
  if holds then pure () else Block.raise ()

def get : Block (Database Other) Unit (Database Other) :=
  fun database => (.ok database, database)

def put (database : Database Other) : Block (Database Other) Unit Unit :=
  fun _ => (.ok (), database)

def createBackup : Block (Database Other) Unit (Option (Database Other)) :=
  match world.backs with
  | .ok true => fun database => (.ok (some database), database)
  | .ok false => pure none
  | .error error => Block.raise error

/-- The `try` with the destructive work. -/
def migrate (expectedIds : Finset String) (model : String) (expected : Nat) :
    Block (Database Other) Unit Bool := do
  let before ← get
  put (world.migrate before).1
  let migrated ← get
  ensure (accepts world expectedIds model expected migrated (world.migrate before).2)
  pure true

def repairEmbeddingDimensionLocked : Block (Database Other) Unit Bool :=
  match world.configured, world.verified with
  | some model, some expected => do
      let database ← get
      match world.inspects, vecDimension world.decimal database with
      | true, .ok dimension =>
          if !required model expected dimension database then
            pure true
          else do
            let backup ← createBackup world
            match backup with
            | none => pure false
            | some backup => do
                ensure world.readsIds
                (migrate world (activeEmbeddingIds database) model expected).except fun _ => do
                  put backup
                  pure false
      | _, _ => pure false
  | _, _ => pure false

end

section

variable {Other : Type} {world : World Other} {model : String} {expected : Nat}
variable {dimension : Option Int} {database migrated : Database Other}

/-! ## What acceptance means -/

/-- What `verify_readonly_profile` asks of the vectors, with the configured model on every
row of an active node. -/
structure Consistent (decimal : Decimals) (model : String) (expected : Nat)
    (database : Database Other) : Prop where
  lengths : ∀ embedding ∈ database.embeddings, ∀ length, embedding.length = some length →
    length = 4 * expected
  models : ∀ row ∈ activeRows database, row.model = some model
  declared : ∀ table, database.vec = some table → table.declared decimal = some (expected : Int)

/-- The first vector column of the declaration is written `float[n]`, as the repair reads it,
or it is written otherwise and its number is the expected one. -/
def Spelled (decimal : Decimals) (expected : Nat) (sql : List Char) : Prop :=
  ∃ column digits, place (vectorHere decimal) sql = some column ∧
    vectorHere decimal column = some digits ∧
    (floatHere decimal column = none → pyInt decimal (String.ofList digits) = some (expected : Int))

/-- No vector is one to three bytes too long, and no vec table escapes the repair's pattern. -/
structure Exact (decimal : Decimals) (expected : Nat) (database : Database Other) : Prop where
  whole : ∀ embedding ∈ database.embeddings, ∀ length, embedding.length = some length →
    ¬(4 * expected < length ∧ length < 4 * expected + 4)
  spelled : ∀ table, database.vec = some table → Spelled decimal expected table.sql

theorem stored_dimension {embedding : Embedding} {length : Nat}
    (stored : storedDimensions database = ∅ ∨ storedDimensions database = {expected})
    (member : embedding ∈ database.embeddings) (known : embedding.length = some length) :
    length / 4 = expected := by
  have found : length / 4 ∈ storedDimensions database := by
    simp only [storedDimensions, List.mem_toFinset, List.mem_filterMap]
    exact ⟨embedding, member, by rw [known]; rfl⟩
  rcases stored with empty | single
  · rw [empty] at found
    simp at found
  · rw [single] at found
    simpa using found

/-- Behind the division by four only the last three bytes are unknown. -/
theorem lengths_iff (stored : storedDimensions database = ∅ ∨
    storedDimensions database = {expected}) :
    (∀ embedding ∈ database.embeddings, ∀ length, embedding.length = some length →
      length = 4 * expected) ↔
    ∀ embedding ∈ database.embeddings, ∀ length, embedding.length = some length →
      ¬(4 * expected < length ∧ length < 4 * expected + 4) := by
  constructor
  · intro lengths embedding member length known
    have exactly := lengths embedding member length known
    omega
  · intro whole embedding member length known
    have quotient := stored_dimension stored member known
    have bounds := whole embedding member length known
    omega

structure Unobjected (decimal : Decimals) (expected : Nat) (database : Database Other) : Prop where
  stored : storedDimensions database = ∅ ∨ storedDimensions database = {expected}
  vec : vecDimension decimal database = .ok none ∨
    vecDimension decimal database = .ok (some (expected : Int))

/-- Where the repair's pattern matches, its number is the one that the verifier reads. -/
theorem declared_iff (fine : Unobjected world.decimal expected database) {table : VecTable}
    (vec : database.vec = some table) :
    table.declared world.decimal = some (expected : Int) ↔
      Spelled world.decimal expected table.sql := by
  unfold VecTable.declared
  rw [search_eq_place]
  constructor
  · intro declared
    simp only [Option.bind_eq_some_iff] at declared
    obtain ⟨digits, ⟨column, first, reads⟩, number⟩ := declared
    exact ⟨column, digits, first, reads, fun _ => number⟩
  · rintro ⟨column, digits, first, reads, otherwise⟩
    simp only [first, Option.bind_some, reads]
    cases plain : floatHere world.decimal column with
    | none => exact otherwise plain
    | some found =>
        obtain rfl : found = digits := by
          have wider := vector_of_float plain
          rw [reads] at wider
          exact (Option.some.inj wider).symm
        have within (text digits : List Char) : floatHere world.decimal text = some digits →
            vectorHere world.decimal text = some digits := vector_of_float
        have searched := search_of_narrower within plain table.sql first
        have dimension := fine.vec
        simp only [vecDimension, vec, Option.bind_some, searched] at dimension
        cases number : pyInt world.decimal (String.ofList found) with
        | none => simp [number] at dimension
        | some value => simpa [number] using dimension

theorem not_required (read : vecDimension world.decimal database = .ok dimension)
    (fine : required model expected dimension database = false) :
    Unobjected world.decimal expected database ∧
      (activeEmbeddingModels database = ∅ ∨ activeEmbeddingModels database = {model}) := by
  simp only [required, Bool.or_eq_false_iff, decide_eq_false_iff_not] at fine
  obtain ⟨⟨⟨⟨stored, vec⟩, models⟩, -⟩, -⟩ := fine
  refine ⟨⟨by tauto, ?_⟩, by tauto⟩
  rw [read]
  cases dimension with
  | none => exact .inl rfl
  | some dimension =>
      right
      simpa using vec

theorem accepted_unobjected {ids : Finset String} {summary : Summary}
    (accepted : accepts world ids model expected migrated summary = true) :
    Unobjected world.decimal expected migrated ∧
      ∀ row ∈ activeRows migrated, row.model = some model := by
  simp only [accepts, Bool.and_eq_true, decide_eq_true_eq] at accepted
  obtain ⟨⟨⟨-, -⟩, stored⟩, vec⟩ := accepted
  cases read : vecDimension world.decimal migrated with
  | error error => simp [read] at vec
  | ok dimension =>
      simp only [read, Bool.and_eq_true, migrationPostconditions, List.all_eq_true,
        decide_eq_true_eq] at vec
      refine ⟨⟨stored, ?_⟩, fun row member => (vec.2.1.2 row member).1⟩
      rw [read]
      cases dimension with
      | none => exact .inl rfl
      | some dimension =>
          right
          simpa using vec.1

/-- A row whose model is known carries the configured one. -/
theorem known_model {row : Embedding} {known : String}
    (models : activeEmbeddingModels database = ∅ ∨ activeEmbeddingModels database = {model})
    (member : row ∈ activeRows database) (carried : row.model = some known) : known = model := by
  have found : known ∈ activeEmbeddingModels database := by
    simp only [activeEmbeddingModels, List.mem_toFinset, List.mem_filterMap]
    exact ⟨row, member, carried⟩
  rcases models with empty | single
  · rw [empty] at found
    simp at found
  · rw [single] at found
    simpa using found

theorem consistent_iff (fine : Unobjected world.decimal expected database) :
    Consistent world.decimal model expected database ↔
      Exact world.decimal expected database ∧
        ∀ row ∈ activeRows database, row.model = some model := by
  constructor
  · intro consistent
    exact ⟨⟨(lengths_iff fine.stored).mp consistent.lengths,
      fun table vec => (declared_iff fine vec).mp (consistent.declared table vec)⟩,
      consistent.models⟩
  · rintro ⟨exactly, models⟩
    exact ⟨(lengths_iff fine.stored).mpr exactly.whole, models,
      fun table vec => (declared_iff fine vec).mpr (exactly.spelled table vec)⟩

theorem skipped_consistent (read : vecDimension world.decimal database = .ok dimension)
    (fine : required model expected dimension database = false) :
    Consistent world.decimal model expected database ↔
      Exact world.decimal expected database ∧
        ∀ row ∈ activeRows database, row.model ≠ none := by
  obtain ⟨unobjected, models⟩ := not_required read fine
  rw [consistent_iff unobjected]
  constructor
  · rintro ⟨exactly, carried⟩
    refine ⟨exactly, fun row member => ?_⟩
    rw [carried row member]
    simp
  · rintro ⟨exactly, named⟩
    refine ⟨exactly, fun row member => ?_⟩
    obtain ⟨known, carried⟩ := Option.ne_none_iff_exists'.mp (named row member)
    rw [carried, known_model models member carried]

theorem accepted_consistent {ids : Finset String} {summary : Summary}
    (accepted : accepts world ids model expected migrated summary = true) :
    Consistent world.decimal model expected migrated ↔
      Exact world.decimal expected migrated := by
  obtain ⟨unobjected, models⟩ := accepted_unobjected accepted
  rw [consistent_iff unobjected]
  exact ⟨And.left, fun exactly => ⟨exactly, models⟩⟩

/-! ## All or nothing -/

def AllOrNothing (world : World Other) (database : Database Other) : Prop :=
  match repairEmbeddingDimensionLocked world database with
  | (.ok true, after) => ∃ model expected, world.configured = some model ∧
      world.verified = some expected ∧ Consistent world.decimal model expected after
  | (.ok false, after) => after = database
  | (.error _, _) => True

/-- The database can be inspected, and no reason for a repair is found. -/
def Skips (world : World Other) (model : String) (expected : Nat)
    (database : Database Other) : Prop :=
  world.inspects = true ∧ ∃ dimension, vecDimension world.decimal database = .ok dimension ∧
    required model expected dimension database = false

def Needs (world : World Other) (model : String) (expected : Nat)
    (database : Database Other) : Prop :=
  world.inspects = true ∧ ∃ dimension, vecDimension world.decimal database = .ok dimension ∧
    required model expected dimension database = true

/-- The upstream migration runs, and its result passes the checks. -/
def Migrates (world : World Other) (model : String) (expected : Nat)
    (database : Database Other) : Prop :=
  Needs world model expected database ∧ world.backs = .ok true ∧ world.readsIds = true ∧
    accepts world (activeEmbeddingIds database) model expected (world.migrate database).1
      (world.migrate database).2 = true

theorem migrate_apply (ids : Finset String) :
    migrate world ids model expected database =
      if accepts world ids model expected (world.migrate database).1
          (world.migrate database).2 = true then
        (.ok true, (world.migrate database).1)
      else (.error (), (world.migrate database).1) := by
  split_ifs with accepted
  · simp [migrate, Block.bind_apply, get, put, ensure, accepted]
  · simp [migrate, Block.bind_apply, get, put, ensure, accepted, Block.raise]

theorem create_backup_saved (saved : world.backs = .ok true) :
    createBackup world database = (.ok (some database), database) := by
  simp [createBackup, saved]

/-- The first `except`. -/
theorem repair_uninspected (configured : world.configured = some model)
    (verified : world.verified = some expected)
    (unread : world.inspects = false ∨
      ∃ error, vecDimension world.decimal database = .error error) :
    repairEmbeddingDimensionLocked world database = (.ok false, database) := by
  simp only [repairEmbeddingDimensionLocked, configured, verified]
  rw [Block.bind_ok (rfl : get database = (.ok database, database))]
  rcases unread with unread | ⟨error, unread⟩
  · simp [unread]
  · cases inspects : world.inspects <;> simp [unread]

theorem repair_skips (configured : world.configured = some model)
    (verified : world.verified = some expected) (skips : Skips world model expected database) :
    repairEmbeddingDimensionLocked world database = (.ok true, database) := by
  obtain ⟨readable, dimension, read, fine⟩ := skips
  simp [repairEmbeddingDimensionLocked, configured, verified, Block.bind_apply, get, readable,
    read, fine]

theorem repair_unsaved (configured : world.configured = some model)
    (verified : world.verified = some expected) (needs : Needs world model expected database)
    (unsaved : world.backs ≠ .ok true) :
    repairEmbeddingDimensionLocked world database = (.ok false, database) ∨
      ∃ error after, repairEmbeddingDimensionLocked world database = (.error error, after) := by
  obtain ⟨readable, dimension, read, needed⟩ := needs
  cases backs : world.backs with
  | error error =>
      right
      exact ⟨error, database, by
        simp [repairEmbeddingDimensionLocked, configured, verified, Block.bind_apply, get,
          readable, read, needed, createBackup, backs, Block.raise]⟩
  | ok saved =>
      cases saved with
      | true => exact absurd backs unsaved
      | false =>
          left
          simp [repairEmbeddingDimensionLocked, configured, verified, Block.bind_apply, get,
            readable, read, needed, createBackup, backs]

theorem repair_saved (configured : world.configured = some model)
    (verified : world.verified = some expected) (needs : Needs world model expected database)
    (saved : world.backs = .ok true) :
    repairEmbeddingDimensionLocked world database =
      (do ensure world.readsIds
          (migrate world (activeEmbeddingIds database) model expected).except fun _ => do
            put database
            pure false : Block (Database Other) Unit Bool) database := by
  obtain ⟨readable, dimension, read, needed⟩ := needs
  simp only [repairEmbeddingDimensionLocked, configured, verified]
  rw [Block.bind_ok (rfl : get database = (.ok database, database))]
  simp only [readable, read, needed, Bool.not_true, Bool.false_eq_true, if_false]
  rw [Block.bind_ok (create_backup_saved saved)]

theorem repair_unread (configured : world.configured = some model)
    (verified : world.verified = some expected) (needs : Needs world model expected database)
    (saved : world.backs = .ok true) (unread : world.readsIds = false) :
    repairEmbeddingDimensionLocked world database = (.error (), database) := by
  rw [repair_saved configured verified needs saved]
  simp [Block.bind_apply, ensure, unread, Block.raise]

theorem repair_migrates (configured : world.configured = some model)
    (verified : world.verified = some expected) (needs : Needs world model expected database)
    (saved : world.backs = .ok true) (read : world.readsIds = true) :
    repairEmbeddingDimensionLocked world database =
      if accepts world (activeEmbeddingIds database) model expected (world.migrate database).1
          (world.migrate database).2 = true then
        (.ok true, (world.migrate database).1)
      else (.ok false, database) := by
  rw [repair_saved configured verified needs saved]
  simp only [ensure, read, if_true]
  rw [Block.bind_ok (Block.pure_apply () database), Block.except, migrate_apply]
  split_ifs with accepted
  · rfl
  · rfl

theorem inspection_cases (world : World Other) (model : String) (expected : Nat)
    (database : Database Other) :
    (world.inspects = false ∨ ∃ error, vecDimension world.decimal database = .error error) ∨
      Skips world model expected database ∨ Needs world model expected database := by
  cases readable : world.inspects with
  | false => exact .inl (.inl rfl)
  | true =>
      cases read : vecDimension world.decimal database with
      | error error => exact .inl (.inr ⟨error, rfl⟩)
      | ok dimension =>
          cases needed : required model expected dimension database with
          | false => exact .inr (.inl ⟨readable, dimension, read, needed⟩)
          | true => exact .inr (.inr ⟨readable, dimension, read, needed⟩)

/-- On the two ways to `True`, the database that is kept is consistent. -/
theorem all_or_nothing_of_exact (configured : world.configured = some model)
    (verified : world.verified = some expected)
    (skipped : Skips world model expected database →
      Exact world.decimal expected database ∧ ∀ row ∈ activeRows database, row.model ≠ none)
    (migrated : Migrates world model expected database →
      Exact world.decimal expected (world.migrate database).1) :
    AllOrNothing world database := by
  unfold AllOrNothing
  rcases inspection_cases world model expected database with unread | skips | needs
  · rw [repair_uninspected configured verified unread]
  · rw [repair_skips configured verified skips]
    obtain ⟨-, dimension, read, fine⟩ := id skips
    exact ⟨model, expected, configured, verified,
      (skipped_consistent read fine).mpr (skipped skips)⟩
  · by_cases saved : world.backs = .ok true
    · by_cases read : world.readsIds = true
      · rw [repair_migrates configured verified needs saved read]
        split_ifs with accepted
        · have exactly := migrated ⟨needs, saved, read, accepted⟩
          exact ⟨model, expected, configured, verified,
            (accepted_consistent accepted).mpr exactly⟩
        · trivial
      · rw [repair_unread configured verified needs saved (by simpa using read)]
        trivial
    · rcases repair_unsaved configured verified needs saved with kept | raised
      · rw [kept]
      · obtain ⟨error, after, raised⟩ := raised
        rw [raised]
        trivial

theorem exact_of_all_or_nothing (configured : world.configured = some model)
    (verified : world.verified = some expected) (holds : AllOrNothing world database) :
    (Skips world model expected database →
      Exact world.decimal expected database ∧ ∀ row ∈ activeRows database, row.model ≠ none) ∧
    (Migrates world model expected database →
      Exact world.decimal expected (world.migrate database).1) := by
  unfold AllOrNothing at holds
  constructor
  · intro skips
    rw [repair_skips configured verified skips] at holds
    obtain ⟨_, _, sameModel, sameExpected, consistent⟩ := holds
    obtain rfl : model = _ := Option.some.inj (configured.symm.trans sameModel)
    obtain rfl : expected = _ := Option.some.inj (verified.symm.trans sameExpected)
    obtain ⟨-, dimension, read, fine⟩ := skips
    exact (skipped_consistent read fine).mp consistent
  · rintro ⟨needs, saved, read, accepted⟩
    rw [repair_migrates configured verified needs saved read, if_pos accepted] at holds
    obtain ⟨_, _, sameModel, sameExpected, consistent⟩ := holds
    obtain rfl : model = _ := Option.some.inj (configured.symm.trans sameModel)
    obtain rfl : expected = _ := Option.some.inj (verified.symm.trans sameExpected)
    exact (accepted_consistent accepted).mp consistent

theorem repair_all_or_nothing (world : World Other) (database : Database Other) :
    AllOrNothing world database ↔
      ∀ model expected, world.configured = some model → world.verified = some expected →
        (Skips world model expected database →
          Exact world.decimal expected database ∧
            ∀ row ∈ activeRows database, row.model ≠ none) ∧
        (Migrates world model expected database →
          Exact world.decimal expected (world.migrate database).1) := by
  cases configured : world.configured with
  | none => simp [AllOrNothing, repairEmbeddingDimensionLocked, configured]
  | some model =>
      cases verified : world.verified with
      | none => simp [AllOrNothing, repairEmbeddingDimensionLocked, configured, verified]
      | some expected =>
          simp only [Option.some.injEq]
          constructor
          · rintro holds _ _ rfl rfl
            exact exact_of_all_or_nothing configured verified holds
          · intro exactly
            exact all_or_nothing_of_exact configured verified (exactly model expected rfl rfl).1
              (exactly model expected rfl rfl).2

end

/-! ## A vector of five bytes -/

def idle : World Unit where
  decimal := arabicDigits
  configured := some "local/model"
  verified := some 1
  inspects := true
  backs := .ok true
  readsIds := true
  migrate database := (database, .raised)
  inspectsAfter := true
  loadsVec := true
  readsVec := true

def fiveBytes : Database Unit where
  nodes := [⟨some "n", none, some "text"⟩]
  embeddings := [⟨some "n", some 5, some "local/model"⟩]
  vec := none
  metadata _ := none
  other := ()

theorem five_bytes_skip : Skips idle "local/model" 1 fiveBytes := by
  refine ⟨rfl, none, rfl, ?_⟩
  decide

/-- One vector of five bytes counts as dimension one: nothing is repaired, and the read-only
verifier refuses the database. -/
theorem five_bytes_accepted : ¬∀ (world : World Unit) (database : Database Unit),
    AllOrNothing world database := by
  intro holds
  have exactly := (exact_of_all_or_nothing rfl rfl (holds idle fiveBytes)).1 five_bytes_skip
  have member : (⟨some "n", some 5, some "local/model"⟩ : Embedding) ∈ fiveBytes.embeddings :=
    List.mem_singleton.mpr rfl
  exact exactly.1.whole _ member 5 rfl ⟨by decide, by decide⟩

end HermesCashew.EmbeddingMigration
