import HermesCashew.Raising
import HermesCashew.Transition
import Mathlib.Algebra.Group.Int.Defs
import Mathlib.Logic.Function.Basic

/-!
# The dimension that a cache is kept for

Every cache file records, for a model, the dimension of its vectors. Two functions write the
record, each under the exclusive lease of the file and so one call after another. A facade
looks at it before it goes on to the raw cache. The database may fail wherever it is asked.
-/

namespace HermesCashew.CacheIdentity

open HermesCashew.Raising
open HermesCashew.Transition

set_option autoImplicit false

/-! ## The record -/

/-- A resolved path. -/
abbrev Path := String

/-- The rows of `hermes_cashew_cache_meta`. -/
abbrev Rows := String → Option Int

/-- The tables of the cache files, where they have been made. -/
abbrev Tables := Path → Option Rows

def recorded (tables : Tables) (path : Path) (model : String) : Option Int :=
  (tables path).bind fun rows => rows model

inductive Fault where
  | operationAdmission (message : String)
  | other
  deriving DecidableEq

def dimensionMismatch : Fault :=
  .operationAdmission "embedding cache model dimension metadata mismatch"

def identityUnavailable : Fault :=
  .operationAdmission "embedding cache identity is unavailable"

/-- Where a call may fail before it comes to its end. -/
inductive Stage where
  | graph
  | lease
  | connect
  | journal
  | create
  | select
  | insert
  | commit
  deriving DecidableEq

abbrev Faults := Stage → Option Fault

abbrev Code (Result : Type) := Block Tables Fault Result

def stage (faults : Faults) (which : Stage) : Code Unit :=
  match faults which with
  | none => pure ()
  | some fault => Block.raise fault

/-- `CREATE TABLE IF NOT EXISTS`, which is not part of a transaction. -/
def createTable (path : Path) : Code Unit :=
  fun tables =>
    (.ok (), Function.update tables path (some ((tables path).getD fun _ => none)))

def selectDim (path : Path) (model : String) : Code (Option Int) :=
  fun tables => (.ok (recorded tables path model), tables)

/-- `INSERT OR IGNORE`. -/
def insertOrIgnore (path : Path) (model : String) (dim : Int) : Code Unit :=
  fun tables =>
    (.ok (), Function.update tables path (some (Function.update
      ((tables path).getD fun _ => none) model
      (some ((recorded tables path model).getD dim)))))

def bindable (dim : Int) : Bool :=
  -2 ^ 63 ≤ dim ∧ dim < 2 ^ 63

/-- The identity of a call: a model, and a dimension that is positive. -/
def identity (model : Option String) (dim : Option Int) : Option (String × Int) :=
  match model, dim with
  | some model, some dim => if model ≠ "" ∧ 0 < dim then some (model, dim) else none
  | _, _ => none

def recordIdentity (faults : Faults) (path : Path) (model : String) (dim : Int) : Code Unit := do
  stage faults .select
  let prior ← selectDim path model
  if prior.any (· ≠ dim) then Block.raise dimensionMismatch
  else
    stage faults .insert
    if bindable dim = false then Block.raise .other
    else
      -- Without the commit, closing the connection takes the insertion back.
      stage faults .commit
      insertOrIgnore path model dim

def bootstrapSqliteProfile (faults : Faults) (cachePath : Path) (cacheDisabled : Bool)
    (model : Option String) (embeddingDim : Option Int) : Code Unit := do
  stage faults .graph
  if cacheDisabled then pure ()
  else
    stage faults .lease
    stage faults .connect
    stage faults .journal
    stage faults .create
    createTable cachePath
    match identity model embeddingDim with
    | none => pure ()
    | some (model, dim) => recordIdentity faults cachePath model dim

def persistCacheIdentity (faults : Faults) (cachePath : Option Path) (model : Option String)
    (embeddingDim : Option Int) : Code Unit :=
  match cachePath, identity model embeddingDim with
  | some path, some (model, dim) => do
      stage faults .connect
      stage faults .create
      createTable path
      recordIdentity faults path model dim
  | _, _ => Block.raise identityUnavailable

/-! ## The facade -/

/-- Supervisors are compared by identity. -/
structure Facade where
  path : Path
  model : String
  embeddingDim : Int
  supervisor : Option Nat
  generation : Option (String ⊕ Int)
  /-- The raw cache is a `NoopEmbeddingCache`. -/
  noop : Bool

/-- What a facade reads of an `OperationAdmission`. -/
structure Admission where
  cachePath : Option Path
  model : Option String
  embeddingDim : Option Int
  supervisor : Option Nat
  embeddingGeneration : Option (String ⊕ Int)
  cacheLease : Option Nat

inductive Operation where
  | getMany (model : String)
  | putMany (model : String)
  | get (model : String)
  | put (model : String)
  | size (model : Option String)
  | invalidateModel (model : String)

/-- The model that is checked; `size` takes that of the facade for an empty one. -/
def Operation.model (facade : Facade) : Operation → String
  | .getMany model => model
  | .putMany model => model
  | .get model => model
  | .put model => model
  | .size none => facade.model
  | .size (some model) => if model = "" then facade.model else model
  | .invalidateModel model => model

/-- `_check`, with whether the record cannot be read. -/
def check (tables : Tables) (facade : Facade) (admission : Option Admission) (model : String)
    (unreadable : Bool) : Except Fault Unit :=
  match admission with
  | none => .error (.operationAdmission "embedding cache operation is not admitted")
  | some admission =>
      if facade.noop then
        if model ≠ facade.model then
          .error (.operationAdmission "embedding cache admission model mismatch")
        else .ok ()
      else if admission.cachePath ≠ some facade.path then
        .error (.operationAdmission "embedding cache admission path mismatch")
      else if admission.model ≠ some model ∨ admission.model ≠ some facade.model then
        .error (.operationAdmission "embedding cache admission model mismatch")
      else if admission.embeddingDim.any (· ≠ facade.embeddingDim) then
        .error (.operationAdmission "embedding cache admission dimension mismatch")
      else if admission.supervisor ≠ facade.supervisor then
        .error (.operationAdmission "embedding cache admission supervisor mismatch")
      else if admission.embeddingGeneration ≠ facade.generation then
        .error (.operationAdmission "embedding cache admission generation mismatch")
      else if admission.cacheLease = none then
        .error (.operationAdmission "embedding cache lease is not owned")
      else if unreadable || (tables facade.path).isNone then
        .error (.operationAdmission "embedding cache identity metadata is unavailable")
      else if recorded tables facade.path model ≠ some facade.embeddingDim then
        .error dimensionMismatch
      else .ok ()

/-- What `_bind_upstream_embedding` makes of the dimension that the child has told. -/
def bindUpstreamEmbedding (faults : Faults) (modelName : String) (cachePath : Path)
    (cacheDisabled : Bool) (dim : Int) (supervisor : Nat)
    (generation : Option (String ⊕ Int)) : Code Facade := do
  if cacheDisabled then pure ()
  else
    stage faults .lease
    persistCacheIdentity faults (some cachePath) (some modelName) (some dim)
  pure
    { path := cachePath
      model := modelName
      embeddingDim := dim
      supervisor := some supervisor
      generation := generation
      noop := cacheDisabled }

/-! ## Runs -/

structure Access where
  facade : Facade
  admission : Option Admission
  operation : Operation

structure State where
  tables : Tables
  /-- Accesses that have passed their check. -/
  granted : List Access := []
  /-- Accesses that have come to the raw cache. -/
  reached : List Access := []

/-- A call of one of the two functions, with its arguments. -/
inductive Call where
  | bootstrap (cachePath : Path) (cacheDisabled : Bool) (model : Option String)
      (embeddingDim : Option Int)
  | persist (cachePath : Option Path) (model : Option String) (embeddingDim : Option Int)

def Call.run (faults : Faults) : Call → Code Unit
  | .bootstrap cachePath cacheDisabled model embeddingDim =>
      bootstrapSqliteProfile faults cachePath cacheDisabled model embeddingDim
  | .persist cachePath model embeddingDim =>
      persistCacheIdentity faults cachePath model embeddingDim

/-- The file, the model and the positive dimension that a call is to record. -/
def Call.names : Call → Option (Path × String × Int)
  | .bootstrap _ true _ _ => none
  | .bootstrap path false model dim => (identity model dim).map fun named => (path, named)
  | .persist none _ _ => none
  | .persist (some path) model dim => (identity model dim).map fun named => (path, named)

inductive Action where
  | call (faults : Faults) (call : Call)
  | check (access : Access) (unreadable : Bool)
  | reach (index : Nat)

def step (state : State) : Action → Option State
  | .call faults call => some { state with tables := (call.run faults state.tables).2 }
  | .check access unreadable =>
      match check state.tables access.facade access.admission
        (access.operation.model access.facade) unreadable with
      | .ok () => some { state with granted := state.granted ++ [access] }
      | .error _ => some state
  | .reach index => do
      let access ← state.granted[index]?
      some { state with reached := state.reached ++ [access] }

/-! ## One call -/

def SameRows (before after : Tables) : Prop :=
  ∀ path model, recorded after path model = recorded before path model

/-- How a call with an identity ends. -/
inductive Ends (faults : Faults) (path : Path) (model : String) (dim : Int)
    (before after : Tables) : Except Fault Unit → Prop where
  | written (free : ∀ prior, recorded before path model = some prior → prior = dim)
      (own : recorded after path model = some dim)
      (others : ∀ other name, ¬ (other = path ∧ name = model) →
        recorded after other name = recorded before other name) :
      Ends faults path model dim before after (.ok ())
  | mismatch (prior : Int) (found : recorded before path model = some prior)
      (different : prior ≠ dim) (same : SameRows before after) :
      Ends faults path model dim before after (.error dimensionMismatch)
  | failed (fault : Fault) (which : Stage) (raised : faults which = some fault)
      (same : SameRows before after) : Ends faults path model dim before after (.error fault)
  | tooLarge (large : bindable dim = false)
      (free : ∀ prior, recorded before path model = some prior → prior = dim)
      (same : SameRows before after) : Ends faults path model dim before after (.error .other)

section

variable {faults : Faults} {path : Path} {model : String} {dim : Int} {before tables : Tables}

theorem recorded_update (tables : Tables) (rows : Rows) (other : Path) (name : String) :
    recorded (Function.update tables path (some rows)) other name =
      if other = path then rows name else recorded tables other name := by
  unfold recorded
  by_cases same : other = path
  · rw [same, Function.update_self, if_pos rfl, Option.bind_some]
  · rw [Function.update_of_ne same, if_neg same]

/-- The rows of a table, as they are or as they will be when it is made. -/
theorem rows_recorded (tables : Tables) (path : Path) (name : String) :
    ((tables path).getD fun _ => none) name = recorded tables path name := by
  unfold recorded
  cases tables path <;> rfl

theorem create_table_rows (path : Path) (tables : Tables) :
    SameRows tables (createTable path tables).2 := by
  intro other name
  rw [createTable, recorded_update, rows_recorded]
  split
  · rename_i same
    rw [same]
  · rfl

theorem SameRows.trans {first second third : Tables} (one : SameRows first second)
    (two : SameRows second third) : SameRows first third :=
  fun path model => (two path model).trans (one path model)

/-- A stage that fails leaves the rows as they are. -/
theorem Ends.stage {next : Code Unit} (which : Stage) (same : SameRows before tables)
    (later : Ends faults path model dim before (next tables).2 (next tables).1) :
    Ends faults path model dim before
      ((CacheIdentity.stage faults which >>= fun _ => next) tables).2
      ((CacheIdentity.stage faults which >>= fun _ => next) tables).1 := by
  unfold CacheIdentity.stage
  cases raised : faults which with
  | none => exact later
  | some fault => exact .failed fault which raised same

theorem insert_or_ignore_ends (same : SameRows before tables)
    (free : ∀ prior, recorded before path model = some prior → prior = dim) :
    Ends faults path model dim before (insertOrIgnore path model dim tables).2 (.ok ()) := by
  have own : (recorded tables path model).getD dim = dim := by
    rw [same path model]
    cases found : recorded before path model with
    | none => rfl
    | some prior => exact free prior found
  refine .written free ?_ ?_
  · rw [insertOrIgnore, recorded_update, if_pos rfl, Function.update_self, own]
  · intro other name different
    rw [insertOrIgnore, recorded_update, ← same other name]
    split
    · rename_i there
      have apart : name ≠ model := fun equal => different ⟨there, equal⟩
      rw [Function.update_of_ne apart, rows_recorded, there]
    · rfl

theorem record_identity_ends (same : SameRows before tables) :
    Ends faults path model dim before (recordIdentity faults path model dim tables).2
      (recordIdentity faults path model dim tables).1 := by
  unfold recordIdentity
  apply Ends.stage .select same
  have selected : selectDim path model tables = (.ok (recorded tables path model), tables) := rfl
  rw [Block.bind_ok selected, same path model]
  by_cases differs : (recorded before path model).any (· ≠ dim) = true
  · rw [if_pos differs]
    obtain ⟨prior, found, different⟩ := (Option.any_eq_true _ _).mp differs
    exact .mismatch prior found (of_decide_eq_true different) same
  · rw [if_neg differs]
    have free : ∀ prior, recorded before path model = some prior → prior = dim := by
      intro prior found
      rw [found] at differs
      by_contra different
      exact differs (decide_eq_true different)
    apply Ends.stage .insert same
    by_cases large : bindable dim = false
    · rw [if_pos large]
      exact .tooLarge large free same
    · rw [if_neg large]
      apply Ends.stage .commit same
      exact insert_or_ignore_ends same free

theorem call_ends (faults : Faults) (tables : Tables) {call : Call}
    (named : call.names = some (path, model, dim)) :
    Ends faults path model dim tables (call.run faults tables).2 (call.run faults tables).1 := by
  have here : SameRows tables tables := fun _ _ => rfl
  cases call with
  | bootstrap cachePath cacheDisabled given embeddingDim =>
      cases cacheDisabled with
      | true => cases named
      | false =>
          obtain ⟨⟨_, _⟩, same, equal⟩ := Option.map_eq_some_iff.mp named
          cases equal
          unfold Call.run bootstrapSqliteProfile
          dsimp only
          rw [same, if_neg Bool.noConfusion]
          apply Ends.stage .graph here
          apply Ends.stage .lease here
          apply Ends.stage .connect here
          apply Ends.stage .journal here
          apply Ends.stage .create here
          exact record_identity_ends (create_table_rows path tables)
  | persist cachePath given embeddingDim =>
      cases cachePath with
      | none => cases named
      | some cachePath =>
          obtain ⟨⟨_, _⟩, same, equal⟩ := Option.map_eq_some_iff.mp named
          cases equal
          unfold Call.run persistCacheIdentity
          dsimp only
          rw [same]
          apply Ends.stage .connect here
          apply Ends.stage .create here
          exact record_identity_ends (create_table_rows path tables)

theorem stage_keeps (which : Stage) :
    Block.Keeps (SameRows before) (stage faults which) := by
  unfold stage
  cases faults which with
  | none => exact .pure ()
  | some fault => exact .raise fault

/-- A call that is to record nothing leaves the rows as they are. -/
theorem call_without_identity {call : Call} (unnamed : call.names = none) :
    SameRows tables (call.run faults tables).2 := by
  have here : SameRows tables tables := fun _ _ => rfl
  cases call with
  | bootstrap cachePath cacheDisabled given embeddingDim =>
      have keeps : Block.Keeps (SameRows tables)
          (bootstrapSqliteProfile faults cachePath cacheDisabled given embeddingDim) := by
        unfold bootstrapSqliteProfile
        apply Block.Keeps.bind (stage_keeps .graph)
        intro _
        cases cacheDisabled with
        | true => exact .pure ()
        | false =>
            have same : identity given embeddingDim = none := Option.map_eq_none_iff.mp unnamed
            rw [same, if_neg Bool.noConfusion]
            apply Block.Keeps.bind (stage_keeps .lease)
            intro _
            apply Block.Keeps.bind (stage_keeps .connect)
            intro _
            apply Block.Keeps.bind (stage_keeps .journal)
            intro _
            apply Block.Keeps.bind (stage_keeps .create)
            intro _
            apply Block.Keeps.bind
            · exact fun state given => given.trans (create_table_rows cachePath state)
            · intro _
              exact .pure ()
      exact keeps tables here
  | persist cachePath given embeddingDim =>
      cases cachePath with
      | none => exact here
      | some cachePath =>
          have same : identity given embeddingDim = none := Option.map_eq_none_iff.mp unnamed
          unfold Call.run persistCacheIdentity
          dsimp only
          rw [same]
          exact here

/-! ## What a call may do to the rows -/

/-- What is recorded stays recorded. -/
def Kept (before after : Tables) : Prop :=
  ∀ path model dim, recorded before path model = some dim →
    recorded after path model = some dim

theorem SameRows.kept {after : Tables} (same : SameRows before after) : Kept before after := by
  intro path model dim found
  rw [same path model]
  exact found

theorem Ends.kept {after : Tables} {outcome : Except Fault Unit}
    (ends : Ends faults path model dim before after outcome) : Kept before after := by
  cases ends with
  | written free own others =>
      intro other name prior found
      by_cases here : other = path ∧ name = model
      · obtain ⟨rfl, rfl⟩ := here
        rw [free prior found]
        exact own
      · rw [others other name here]
        exact found
  | mismatch prior found different same => exact same.kept
  | failed fault which raised same => exact same.kept
  | tooLarge large free same => exact same.kept

theorem call_kept (faults : Faults) (call : Call) (tables : Tables) :
    Kept tables (call.run faults tables).2 := by
  cases named : call.names with
  | none => exact (call_without_identity named).kept
  | some identity => exact (call_ends faults tables named).kept

theorem call_raises_same_rows {call : Call} {fault : Fault}
    (raised : (call.run faults tables).1 = .error fault) :
    SameRows tables (call.run faults tables).2 := by
  cases named : call.names with
  | none => exact call_without_identity named
  | some identity =>
      have ends := call_ends faults tables named
      rw [raised] at ends
      cases ends with
      | mismatch prior found different same => exact same
      | failed _ which failed same => exact same
      | tooLarge large free same => exact same

/-- A call with another dimension finds the one that is recorded, unless it fails before. -/
theorem call_with_other_dimension {call : Call} {prior : Int}
    (named : call.names = some (path, model, dim))
    (found : recorded tables path model = some prior) (different : prior ≠ dim) :
    ∃ fault, (call.run faults tables).1 = .error fault ∧
      (fault = dimensionMismatch ∨ ∃ which, faults which = some fault) := by
  have ends := call_ends faults tables named
  generalize (call.run faults tables).1 = outcome at ends ⊢
  cases ends with
  | written free own others => exact absurd (free prior found) different
  | mismatch prior found different same => exact ⟨_, rfl, .inl rfl⟩
  | failed fault which raised same => exact ⟨fault, rfl, .inr ⟨which, raised⟩⟩
  | tooLarge large free same => exact absurd (free prior found) different

/-- A call that returns has its dimension recorded. -/
theorem call_returned {call : Call} (named : call.names = some (path, model, dim))
    (returned : (call.run faults tables).1 = .ok ()) :
    recorded (call.run faults tables).2 path model = some dim := by
  have ends := call_ends faults tables named
  rw [returned] at ends
  cases ends with
  | written free own others => exact own

end

/-! ## Accesses -/

/-- The admission of an access owns a lease on the file of the facade, and is for its model,
its supervisor and its generation. -/
def Owned (access : Access) : Prop :=
  access.operation.model access.facade = access.facade.model ∧
    ∃ admission, access.admission = some admission ∧
      admission.cachePath = some access.facade.path ∧ admission.cacheLease.isSome = true ∧
      admission.model = some access.facade.model ∧
      admission.supervisor = access.facade.supervisor ∧
      admission.embeddingGeneration = access.facade.generation

/-- An access to a raw cache is owned, and its dimension is the recorded one. -/
def Backed (tables : Tables) (access : Access) : Prop :=
  access.facade.noop = false →
    Owned access ∧
      recorded tables access.facade.path access.facade.model = some access.facade.embeddingDim

theorem passes {condition : Prop} [Decidable condition] {fault : Fault} {rest : Except Fault Unit}
    (passed : (if condition then .error fault else rest) = .ok ()) :
    ¬ condition ∧ rest = .ok () := by
  split at passed
  · cases passed
  · rename_i refuted
    exact ⟨refuted, passed⟩

theorem check_ok {tables : Tables} {access : Access} {unreadable : Bool}
    (passed : check tables access.facade access.admission (access.operation.model access.facade)
      unreadable = .ok ()) : Backed tables access := by
  intro real
  unfold check at passed
  cases given : access.admission with
  | none =>
      rw [given] at passed
      cases passed
  | some admission =>
      rw [given] at passed
      dsimp only at passed
      rw [real, if_neg Bool.noConfusion] at passed
      obtain ⟨path, passed⟩ := passes passed
      obtain ⟨model, passed⟩ := passes passed
      obtain ⟨-, passed⟩ := passes passed
      obtain ⟨supervisor, passed⟩ := passes passed
      obtain ⟨generation, passed⟩ := passes passed
      obtain ⟨lease, passed⟩ := passes passed
      obtain ⟨-, passed⟩ := passes passed
      obtain ⟨found, -⟩ := passes passed
      rw [not_or, not_not, not_not] at model
      obtain ⟨asked, own⟩ := model
      have same : access.operation.model access.facade = access.facade.model :=
        Option.some.inj (asked.symm.trans own)
      rw [same] at found
      exact ⟨⟨same, admission, given, not_not.mp path, Option.isSome_iff_ne_none.mpr lease, own,
        not_not.mp supervisor, not_not.mp generation⟩, not_not.mp found⟩

theorem Backed.kept {before after : Tables} {access : Access} (kept : Kept before after)
    (backed : Backed before access) : Backed after access := by
  intro real
  obtain ⟨owned, found⟩ := backed real
  exact ⟨owned, kept _ _ _ found⟩

structure Consistent (state : State) : Prop where
  granted : ∀ access ∈ state.granted, Backed state.tables access
  reached : ∀ access ∈ state.reached, Backed state.tables access

def fresh (tables : Tables) : State where
  tables := tables

/-- No step changes what is recorded. -/
theorem step_kept {state following : State} {action : Action}
    (taken : step state action = some following) : Kept state.tables following.tables := by
  have here : Kept state.tables state.tables := fun _ _ _ found => found
  cases action with
  | call faults call =>
      cases taken
      exact call_kept faults call state.tables
  | check access unreadable =>
      unfold step at taken
      dsimp only at taken
      split at taken <;> cases taken <;> exact here
  | reach index =>
      obtain ⟨access, -, same⟩ := Option.bind_eq_some_iff.mp taken
      cases same
      exact here

theorem step_consistent {state following : State} {action : Action}
    (consistent : Consistent state) (taken : step state action = some following) :
    Consistent following := by
  have kept := step_kept taken
  cases action with
  | call faults call =>
      cases taken
      exact ⟨fun access member => (consistent.granted access member).kept kept,
        fun access member => (consistent.reached access member).kept kept⟩
  | check access unreadable =>
      unfold step at taken
      dsimp only at taken
      split at taken
      · rename_i passed
        cases taken
        refine ⟨?_, consistent.reached⟩
        intro other member
        rcases List.mem_append.mp member with earlier | last
        · exact consistent.granted other earlier
        · rw [List.mem_singleton.mp last]
          exact check_ok passed
      · cases taken
        exact consistent
  | reach index =>
      obtain ⟨access, found, same⟩ := Option.bind_eq_some_iff.mp taken
      cases same
      refine ⟨consistent.granted, ?_⟩
      intro other member
      rcases List.mem_append.mp member with earlier | last
      · exact consistent.reached other earlier
      · rw [List.mem_singleton.mp last]
        exact consistent.granted access (List.mem_of_getElem? found)

/-! ## Runs -/

section

variable {tables : Tables} {state last : State}

theorem reached_kept (run : Reaches step anyStep state last) : Kept state.tables last.tables :=
  run.invariant (fun later => Kept state.tables later.tables) (fun _ _ _ found => found)
    fun _ _ _ kept _ taken path model dim found =>
      step_kept taken path model dim (kept path model dim found)

theorem fresh_consistent (tables : Tables) : Consistent (fresh tables) where
  granted _ member := (List.not_mem_nil member).elim
  reached _ member := (List.not_mem_nil member).elim

theorem reached_consistent (run : Reaches step anyStep (fresh tables) state) :
    Consistent state :=
  run.invariant Consistent (fresh_consistent tables)
    fun _ _ _ consistent _ taken => step_consistent consistent taken

/-- Two facades that have come to one file for one model have one dimension. -/
theorem dimensions_agree (consistent : Consistent state) {first second : Access}
    (one : first ∈ state.reached) (two : second ∈ state.reached)
    (first_real : first.facade.noop = false) (second_real : second.facade.noop = false)
    (path : first.facade.path = second.facade.path)
    (model : first.facade.model = second.facade.model) :
    first.facade.embeddingDim = second.facade.embeddingDim := by
  have found := (consistent.reached first one first_real).2
  have other := (consistent.reached second two second_real).2
  rw [path, model, other] at found
  exact (Option.some.inj found).symm

/-- A facade that is bound to a raw cache has its dimension recorded. -/
theorem bound_facade_recorded {faults : Faults} {modelName : String} {cachePath : Path}
    {dim : Int} {supervisor : Nat} {generation : Option (String ⊕ Int)} {facade : Facade}
    {after : Tables}
    (bound : bindUpstreamEmbedding faults modelName cachePath false dim supervisor generation
      tables = (.ok facade, after)) :
    recorded after facade.path facade.model = some facade.embeddingDim := by
  obtain ⟨_, leased, -, bound⟩ := Block.bind_inv bound
  obtain ⟨_, _, persisted, made⟩ := Block.bind_inv bound
  cases made
  have run : (Call.persist (some cachePath) (some modelName) (some dim)).run faults leased =
      (.ok (), after) := persisted
  cases named : identity (some modelName) (some dim) with
  | none =>
      unfold persistCacheIdentity at persisted
      rw [named] at persisted
      cases persisted
  | some pair =>
      obtain ⟨-, same⟩ := Option.ite_none_right_eq_some.mp named
      cases same
      have names : (Call.persist (some cachePath) (some modelName) (some dim)).names =
          some (cachePath, modelName, dim) := by
        rw [Call.names, named]
        rfl
      have found := call_returned names (congrArg Prod.fst run)
      rw [run] at found
      exact found

/-- Without a file, a model or a positive dimension nothing is persisted. -/
theorem persist_refuses {faults : Faults} {cachePath : Option Path} {given : Option String}
    {embeddingDim : Option Int}
    (unnamed : (Call.persist cachePath given embeddingDim).names = none) :
    persistCacheIdentity faults cachePath given embeddingDim tables =
      (.error identityUnavailable, tables) := by
  unfold persistCacheIdentity
  cases cachePath with
  | none => rfl
  | some cachePath =>
      have absent : identity given embeddingDim = none := Option.map_eq_none_iff.mp unnamed
      rw [absent]
      rfl

/-- A recorded dimension stays, a call with another positive one raises, as does a
persisting call without an identity; a call that raises leaves the rows alone, and a facade
is bound with the recorded dimension. The raw cache is only come to under a lease on its
file and with the recorded dimension, so with one dimension for a model. -/
theorem cache_identity_written_once (tables : Tables) :
    (∀ middle last, Reaches step anyStep (fresh tables) middle →
      Reaches step anyStep middle last → Kept middle.tables last.tables) ∧
    ∀ state, Reaches step anyStep (fresh tables) state →
      (∀ faults (call : Call) path model dim prior, call.names = some (path, model, dim) →
        recorded state.tables path model = some prior → prior ≠ dim →
        ∃ fault, (call.run faults state.tables).1 = .error fault ∧
          (fault = dimensionMismatch ∨ ∃ which, faults which = some fault)) ∧
      (∀ faults (call : Call) fault, (call.run faults state.tables).1 = .error fault →
        SameRows state.tables (call.run faults state.tables).2) ∧
      (∀ faults cachePath given embeddingDim,
        (Call.persist cachePath given embeddingDim).names = none →
        persistCacheIdentity faults cachePath given embeddingDim state.tables =
          (.error identityUnavailable, state.tables)) ∧
      (∀ faults modelName cachePath dim supervisor generation facade after,
        bindUpstreamEmbedding faults modelName cachePath false dim supervisor generation
          state.tables = (.ok facade, after) →
        recorded after facade.path facade.model = some facade.embeddingDim) ∧
      (∀ access ∈ state.reached, Backed state.tables access) ∧
      ∀ first ∈ state.reached, ∀ second ∈ state.reached,
        first.facade.noop = false → second.facade.noop = false →
        first.facade.path = second.facade.path → first.facade.model = second.facade.model →
        first.facade.embeddingDim = second.facade.embeddingDim := by
  refine ⟨fun _ _ _ run => reached_kept run, ?_⟩
  intro state run
  have consistent := reached_consistent run
  refine ⟨?_, ?_, ?_, ?_, consistent.reached, ?_⟩
  · intro faults call path model dim prior named found different
    exact call_with_other_dimension named found different
  · intro faults call fault raised
    exact call_raises_same_rows raised
  · intro faults cachePath given embeddingDim unnamed
    exact persist_refuses unnamed
  · intro faults modelName cachePath dim supervisor generation facade after bound
    exact bound_facade_recorded bound
  · intro first one second two first_real second_real path model
    exact dimensions_agree consistent one two first_real second_real path model

end

/-! ## Calls that do not find the other dimension -/

def keptTables : Tables := fun path =>
  if path = "cache.db" then some fun model => if model = "m" then some 384 else none else none

def noFaults : Faults := fun _ => none

def connectFault : Faults := fun which => if which = .connect then some .other else none

/-- A dimension of zero is let pass, and a file that cannot be opened raises another error. -/
theorem other_dimension_is_not_always_refused :
    recorded keptTables "cache.db" "m" = some 384 ∧
      (bootstrapSqliteProfile noFaults "cache.db" false (some "m") (some 0) keptTables).1 =
        .ok () ∧
      (persistCacheIdentity connectFault (some "cache.db") (some "m") (some 768) keptTables).1 =
        .error .other :=
  ⟨rfl, rfl, rfl⟩

end HermesCashew.CacheIdentity
