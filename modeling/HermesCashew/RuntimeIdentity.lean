import HermesCashew.Fencing
import HermesCashew.PythonInt
import HermesCashew.Transition
import Mathlib.Logic.Function.Basic

/-!
# The runtime identity of a store

`_write_runtime_identity` publishes the model and dimensions of a provider in
`hermes_provider_meta`, together with a maintenance epoch, and
`_validate_runtime_identity` compares the admission token, the provider and that
record. The transaction makes a publication atomic. It may be rolled back, and an
exception may still come between the commit and the assignment of
`_runtime_epoch`.
-/

namespace HermesCashew.RuntimeIdentity

open HermesCashew.Transition
open HermesCashew.PythonInt
open HermesCashew.Fencing

set_option autoImplicit false

abbrev Path := String

/-- The rows of `hermes_provider_meta`. -/
abbrev Metadata := String → Option String

/-- An embedding supervisor, compared by identity. -/
structure Supervisor where
  identifier : Nat
  dimension : Int
  deriving DecidableEq, Repr

/-- The fields of a provider that the two methods read. Of `_config` that is the
embedding model. -/
structure Provider where
  dbPath : Option Path := none
  embeddingModel : Option String := none
  embeddingSupervisor : Option Supervisor := none
  runtimeEpoch : Option Int := none
  deriving DecidableEq, Repr

/-- The fields of an `OperationAdmission` that are compared. -/
structure Token where
  graphPath : Option Path
  model : Option String
  embeddingDim : Option Int
  vecDim : Option Int
  epoch : Option Int
  supervisor : Option Supervisor
  deriving DecidableEq, Repr

/-- `_active_embedding_dimension`. -/
def activeEmbeddingDimension (provider : Provider) : Option Int :=
  match provider.embeddingSupervisor with
  | none => none
  | some supervisor => if supervisor.dimension ≤ 0 then none else some supervisor.dimension

/-- `str` of an optional dimension. -/
def pyStrOption : Option Int → String
  | none => "None"
  | some value => pyStr value

/-! ## Publication -/

structure Identity where
  model : String
  dimension : Int
  vecDimension : Int
  deriving DecidableEq, Repr

def Identity.values (identity : Identity) : List (String × String) :=
  [("embedding_model", identity.model), ("embedding_dim", pyStr identity.dimension),
    ("vec_dim", pyStr identity.vecDimension)]

def identityKeys : List String :=
  ["embedding_model", "embedding_dim", "vec_dim", "maintenance_epoch"]

/-- The epoch of a publication over the record `previous`. -/
def nextEpoch (decimal : Decimals) (previous : Metadata) (identity : Identity) : Int :=
  let oldEpoch := (pyInt decimal ((previous "maintenance_epoch").getD "0")).getD 0
  let identityChanged := identity.values.any fun (key, value) => previous key ≠ some value
  if identityKeys.all (fun key => (previous key).isNone) || identityChanged then oldEpoch + 1
  else oldEpoch

/-- `INSERT OR REPLACE` of several rows. -/
def replaceRows (store : Metadata) (rows : List (String × String)) : Metadata :=
  rows.foldl (fun store (key, value) => Function.update store key (some value)) store

structure Written where
  identity : Identity
  epoch : Int
  store : Metadata

/-- The three integers of a publication have a text. -/
def Identity.Printable (identity : Identity) (epoch : Int) : Prop :=
  PythonInt.Printable identity.dimension ∧ PythonInt.Printable identity.vecDimension ∧
    PythonInt.Printable epoch

instance (identity : Identity) (epoch : Int) : Decidable (identity.Printable epoch) :=
  inferInstanceAs (Decidable (_ ∧ _ ∧ _))

/-- The `ValueError` of `str`. -/
def digitsMessage : String :=
  "Exceeds the limit (4300 digits) for integer string conversion"

/-- `_write_runtime_identity` up to its commit, `none` when the provider has no
config. -/
def writeRuntimeIdentity (decimal : Decimals) (provider : Provider) (vecDim : Option Int)
    (store : Metadata) : Except String (Option Written) :=
  match provider.embeddingModel with
  | none => .ok none
  | some model =>
      match activeEmbeddingDimension provider with
      | none => .error "embedding dimension is unavailable"
      | some dim =>
          let identity : Identity :=
            { model := model, dimension := dim, vecDimension := vecDim.getD dim }
          let epoch := nextEpoch decimal store identity
          if identity.Printable epoch then
            .ok (some
              { identity := identity
                epoch := epoch
                store := replaceRows store
                  (identity.values ++ [("maintenance_epoch", pyStr epoch)]) })
          else .error digitsMessage

/-! ## Validation -/

def validateRecord (token : Token) (model : String) (expectedDim : Option Int)
    (allowMetadataMismatch : Bool) (metadata : Metadata) : Except String Unit :=
  if allowMetadataMismatch = false ∧ metadata "embedding_model" ≠ none ∧
      metadata "embedding_model" ≠ some model then
    .error "persisted embedding model is stale"
  else if allowMetadataMismatch = false ∧ expectedDim.any (fun dim => ¬Printable dim) then
    .error digitsMessage
  else if allowMetadataMismatch = false ∧ metadata "embedding_dim" ≠ none ∧
      metadata "embedding_dim" ≠ some (pyStrOption expectedDim) then
    .error "persisted embedding dimension is stale"
  else if allowMetadataMismatch = false ∧ metadata "vec_dim" ≠ none ∧
      metadata "vec_dim" ≠ some (pyStrOption expectedDim) then
    .error "persisted vector dimension is stale"
  else if token.vecDim ≠ none ∧ token.vecDim ≠ expectedDim then
    .error "admitted vector dimension mismatch"
  else .ok ()

def validateEpoch (decimal : Decimals) (provider : Provider) (token : Token)
    (allowMetadataMismatch : Bool) (metadata : Metadata) : Except String Unit :=
  if allowMetadataMismatch = false ∧ (token.epoch ≠ none ∨ provider.runtimeEpoch ≠ none) then
    match pyInt decimal ((metadata "maintenance_epoch").getD "") with
    | none => .error "persisted maintenance epoch is invalid"
    | some persisted =>
        if token.epoch ≠ some persisted ∨ provider.runtimeEpoch ≠ some persisted then
          .error "persisted maintenance epoch is stale"
        else .ok ()
  else .ok ()

def validateToken (resolve : Path → Path) (provider : Provider) (token : Token)
    (dbPath : Path) (model : String) : Except String (Option Int) :=
  if token.graphPath ≠ some (resolve dbPath) then .error "graph admission path mismatch"
  else if token.model ≠ some model then .error "graph admission model mismatch"
  else
    let active := activeEmbeddingDimension provider
    let owned := provider.embeddingSupervisor.isSome
    if owned ∧ (active = none ∨ token.embeddingDim ≠ none ∧ token.embeddingDim ≠ active) then
      .error "graph admission dimension mismatch"
    else if owned ∧ token.supervisor.map (·.identifier) ≠
        provider.embeddingSupervisor.map (·.identifier) then
      .error "embedding supervisor generation mismatch"
    else if provider.runtimeEpoch ≠ none ∧ token.epoch ≠ none ∧
        token.epoch ≠ provider.runtimeEpoch then
      .error "maintenance epoch mismatch"
    else .ok (if owned then active else token.embeddingDim)

/-- `_validate_runtime_identity`. `admission` is the argument, `current` the token
of the context, and `metadata` what `_runtime_metadata` returns. -/
def validateRuntimeIdentity (decimal : Decimals) (resolve : Path → Path) (provider : Provider)
    (admission current : Option Token) (allowMetadataMismatch : Bool) (metadata : Metadata) :
    Except String Unit :=
  match admission.or current, provider.dbPath, provider.embeddingModel with
  | some token, some dbPath, some model => do
      let expectedDim ← validateToken resolve provider token dbPath model
      validateEpoch decimal provider token allowMetadataMismatch metadata
      validateRecord token model expectedDim allowMetadataMismatch metadata
  | _, _, _ => .error "operation has no active identity"

/-- `_runtime_metadata`: an `OperationalError` reads as an empty record. -/
def runtimeMetadata (store : Metadata) (readable : Bool) : Metadata :=
  if readable then store else fun _ => none

/-! ## Many providers on one store -/

/-- A committed publication. `provider` is `none` when the call raised after its
commit, so that nobody remembers its epoch. -/
structure Publication where
  provider : Option Nat
  identity : Identity
  deriving DecidableEq, Repr

/-- One store and any number of providers. The history lists the committed
publications, newest first. -/
structure World where
  store : Metadata := fun _ => none
  providers : Nat → Provider := fun _ => {}
  publications : List Publication := []

/-- How a publication ends: it returns, is rolled back, or raises between the
commit and the assignment of `_runtime_epoch`. -/
inductive Outcome where
  | returned
  | rolledBack
  | interrupted
  deriving DecidableEq, Repr

def publish (decimal : Decimals) (world : World) (index : Nat) (vecDim : Option Int)
    (outcome : Outcome) : World :=
  match writeRuntimeIdentity decimal (world.providers index) vecDim world.store, outcome with
  | .ok (some written), .returned =>
      { store := written.store
        providers := Function.update world.providers index
          { world.providers index with runtimeEpoch := some written.epoch }
        publications :=
          { provider := some index, identity := written.identity } :: world.publications }
  | .ok (some written), .interrupted =>
      { world with
        store := written.store
        publications :=
          { provider := none, identity := written.identity } :: world.publications }
  | _, _ => world

inductive Action where
  /-- Everything else that changes a provider: `_runtime_epoch` is kept. -/
  | configure (index : Nat) (dbPath : Option Path) (embeddingModel : Option String)
      (embeddingSupervisor : Option Supervisor)
  | publish (index : Nat) (vecDim : Option Int) (outcome : Outcome)
  /-- Another row of the table is written. -/
  | annotate (key : String) (value : Option String)
  deriving DecidableEq, Repr

def step (decimal : Decimals) (world : World) : Action → Option World
  | .configure index dbPath embeddingModel embeddingSupervisor =>
      some { world with
        providers := Function.update world.providers index
          { world.providers index with
            dbPath := dbPath
            embeddingModel := embeddingModel
            embeddingSupervisor := embeddingSupervisor } }
  | .publish index vecDim outcome =>
      some (RuntimeIdentity.publish decimal world index vecDim outcome)
  | .annotate key value =>
      if key ∈ identityKeys then none
      else some { world with store := Function.update world.store key value }

/-- A store without metadata. -/
def emptyWorld : World := {}

/-! ## The record follows the history -/

def identities (publications : List Publication) : List Identity :=
  publications.map (·.identity)

def Recorded (store : Metadata) : List Publication → Prop
  | [] => ∀ key ∈ identityKeys, store key = none
  | newest :: earlier =>
      (∀ row ∈ newest.identity.values, store row.1 = some row.2) ∧
        store "maintenance_epoch" =
          some (pyStr (epoch (identities (newest :: earlier)) : Int)) ∧
        Printable (epoch (identities (newest :: earlier)) : Int)

def ownEpoch : List Publication → Nat → Option Nat
  | [], _ => none
  | newest :: earlier, index =>
      if newest.provider = some index then some (epoch (identities (newest :: earlier)))
      else ownEpoch earlier index

structure Consistent (world : World) : Prop where
  recorded : Recorded world.store world.publications
  owners : ∀ index, (world.providers index).runtimeEpoch =
    (ownEpoch world.publications index).map fun epoch => (epoch : Int)

def persistedEpoch (decimal : Decimals) (store : Metadata) : Int :=
  (pyInt decimal ((store "maintenance_epoch").getD "0")).getD 0

variable {decimal : Decimals}

theorem Recorded.persisted {store : Metadata} {publications : List Publication}
    (recorded : Recorded store publications) :
    persistedEpoch decimal store = epoch (identities publications) := by
  cases publications with
  | nil =>
      have missing := recorded "maintenance_epoch" (by decide)
      rw [persistedEpoch, missing]
      rfl
  | cons newest earlier =>
      simp [persistedEpoch, recorded.2.1, py_int_py_str decimal recorded.2.2]

/-- The texts of two identities agree only when the identities do. -/
theorem values_unchanged_iff {store : Metadata} (identity : Identity) {newest : Identity}
    (held : ∀ row ∈ newest.values, store row.1 = some row.2) :
    (identity.values.any fun (key, value) => store key ≠ some value) = false ↔
      newest = identity := by
  have model := held ("embedding_model", newest.model) (by simp [Identity.values])
  have dimension := held ("embedding_dim", pyStr newest.dimension) (by simp [Identity.values])
  have vec := held ("vec_dim", pyStr newest.vecDimension) (by simp [Identity.values])
  dsimp only at model dimension vec
  cases identity
  cases newest
  simp_all [Identity.values, py_str_injective.eq_iff]

theorem Recorded.next_epoch {store : Metadata} {publications : List Publication}
    (recorded : Recorded store publications) (identity : Identity) :
    nextEpoch decimal store identity = epoch (identity :: identities publications) := by
  have persisted : persistedEpoch decimal store = epoch (identities publications) :=
    recorded.persisted
  unfold persistedEpoch at persisted
  unfold nextEpoch
  rw [persisted]
  cases publications with
  | nil =>
      have empty : identityKeys.all (fun key => (store key).isNone) = true := by
        simpa using (show ∀ key ∈ identityKeys, store key = none from recorded)
      simp [empty, identities, epoch]
  | cons newest earlier =>
      have full : identityKeys.all (fun key => (store key).isNone) = false := by
        simp [identityKeys, recorded.2]
      have changed := values_unchanged_iff identity recorded.1
      by_cases same : newest.identity = identity
      · rw [full, changed.mpr same, epoch_repeat (by simp [identities, same])]
        rfl
      · have different := mt changed.mp same
        rw [Bool.not_eq_false] at different
        rw [full, different, epoch_change (by simpa [identities] using same)]
        rfl

theorem Recorded.publishes {store : Metadata} {publications : List Publication}
    (recorded : Recorded store publications) (provider : Option Nat) (identity : Identity)
    (printable : Printable (nextEpoch decimal store identity)) :
    Recorded
      (replaceRows store
        (identity.values ++ [("maintenance_epoch", pyStr (nextEpoch decimal store identity))]))
      ({ provider := provider, identity := identity } :: publications) := by
  rw [recorded.next_epoch identity] at printable ⊢
  refine ⟨?_, ?_, printable⟩
  · intro row member
    simp only [Identity.values, List.mem_cons, List.not_mem_nil, or_false] at member
    rcases member with rfl | rfl | rfl <;> simp [replaceRows, Identity.values]
  · simp [replaceRows, Identity.values, identities]

/-! ## One step -/

/-- Everything a step can do: publish an identity, on behalf of a provider that
remembers the epoch or of nobody, or leave the record and the epochs alone. -/
inductive Moves (decimal : Decimals) (world following : World) : Prop where
  | quiet (record : ∀ key ∈ identityKeys, following.store key = world.store key)
      (owners : ∀ index, (following.providers index).runtimeEpoch =
        (world.providers index).runtimeEpoch)
      (history : following.publications = world.publications)
  | publishes (provider : Option Nat) (identity : Identity)
      (printable : Printable (nextEpoch decimal world.store identity))
      (store : following.store = replaceRows world.store
        (identity.values ++
          [("maintenance_epoch", pyStr (nextEpoch decimal world.store identity))]))
      (owners : ∀ index, (following.providers index).runtimeEpoch =
        if provider = some index then some (nextEpoch decimal world.store identity)
        else (world.providers index).runtimeEpoch)
      (history : following.publications =
        { provider := provider, identity := identity } :: world.publications)

theorem write_runtime_identity_written {provider : Provider} {vecDim : Option Int}
    {store : Metadata} {written : Written}
    (wrote : writeRuntimeIdentity decimal provider vecDim store = .ok (some written)) :
    written.epoch = nextEpoch decimal store written.identity ∧
      written.identity.Printable written.epoch ∧
      written.store = replaceRows store
        (written.identity.values ++
          [("maintenance_epoch", pyStr (nextEpoch decimal store written.identity))]) := by
  unfold writeRuntimeIdentity at wrote
  split at wrote
  · cases wrote
  · split at wrote
    · cases wrote
    · dsimp only at wrote
      split at wrote
      · rename_i printable
        cases wrote
        exact ⟨rfl, printable, rfl⟩
      · cases wrote

theorem publish_moves (world : World) (index : Nat) (vecDim : Option Int) (outcome : Outcome) :
    Moves decimal world (publish decimal world index vecDim outcome) := by
  unfold publish
  split
  · rename_i written wrote
    have ⟨epoch, printable, store⟩ := write_runtime_identity_written wrote
    refine .publishes (some index) written.identity (epoch ▸ printable.2.2) store
      (fun other => ?_) rfl
    by_cases same : index = other
    · subst same
      simp [epoch]
    · simp [same, Ne.symm same]
  · rename_i written wrote
    have ⟨epoch, printable, store⟩ := write_runtime_identity_written wrote
    exact .publishes none written.identity (epoch ▸ printable.2.2) store (fun _ => rfl) rfl
  · exact .quiet (fun _ _ => rfl) (fun _ => rfl) rfl

theorem step_moves {world following : World} {action : Action}
    (taken : step decimal world action = some following) : Moves decimal world following := by
  cases action with
  | configure index dbPath embeddingModel embeddingSupervisor =>
      obtain rfl := Option.some.inj taken
      refine .quiet (fun _ _ => rfl) (fun other => ?_) rfl
      by_cases same : other = index
      · subst same
        simp
      · simp [same]
  | publish index vecDim outcome =>
      obtain rfl := Option.some.inj taken
      exact publish_moves world index vecDim outcome
  | annotate key value =>
      simp only [step] at taken
      split at taken
      · cases taken
      · rename_i other
        obtain rfl := Option.some.inj taken
        refine .quiet (fun held member => ?_) (fun _ => rfl) rfl
        have different : held ≠ key := by
          rintro rfl
          exact other member
        exact Function.update_of_ne different _ _

theorem Recorded.unchanged {store following : Metadata} {publications : List Publication}
    (recorded : Recorded store publications)
    (same : ∀ key ∈ identityKeys, following key = store key) :
    Recorded following publications := by
  cases publications with
  | nil => exact fun key member => (same key member).trans (recorded key member)
  | cons newest earlier =>
      refine ⟨fun row member => ?_, (same _ (by decide)).trans recorded.2.1, recorded.2.2⟩
      have key : row.1 ∈ identityKeys := by
        simp only [Identity.values, List.mem_cons, List.not_mem_nil, or_false] at member
        rcases member with rfl | rfl | rfl <;> simp [identityKeys]
      exact (same row.1 key).trans (recorded.1 row member)

theorem moves_consistent {world following : World} (consistent : Consistent world)
    (moves : Moves decimal world following) : Consistent following := by
  cases moves with
  | quiet record owners history =>
      refine ⟨?_, fun index => ?_⟩
      · rw [history]
        exact consistent.recorded.unchanged record
      · rw [history, owners index]
        exact consistent.owners index
  | publishes provider identity printable store owners history =>
      refine ⟨?_, fun index => ?_⟩
      · rw [history, store]
        exact consistent.recorded.publishes provider identity printable
      · rw [history, owners index, ownEpoch]
        by_cases own : provider = some index
        · rw [if_pos own, if_pos own, consistent.recorded.next_epoch identity]
          rfl
        · rw [if_neg own, if_neg own]
          exact consistent.owners index

theorem reachable_consistent {world : World}
    (reached : Reaches (step decimal) anyStep emptyWorld world) : Consistent world := by
  refine reached.invariant Consistent ⟨?_, fun _ => rfl⟩ ?_
  · exact fun _ _ => rfl
  · intro world action following consistent _ taken
    exact moves_consistent consistent (step_moves taken)

/-! ## The epoch -/

def identityRecord (store : Metadata) : List (Option String) :=
  [store "embedding_model", store "embedding_dim", store "vec_dim"]

theorem Recorded.record {store : Metadata} {newest : Publication} {earlier : List Publication}
    (recorded : Recorded store (newest :: earlier)) :
    identityRecord store = newest.identity.values.map fun row => some row.2 := by
  have held := recorded.1
  simp only [Identity.values, List.mem_cons, List.not_mem_nil, or_false, forall_eq_or_imp,
    forall_eq] at held
  simp [identityRecord, Identity.values, held.1, held.2.1, held.2.2]

theorem values_injective {first second : Identity}
    (same : first.values.map (fun row => some row.2) = second.values.map fun row => some row.2) :
    first = second := by
  cases first
  cases second
  simpa [Identity.values, py_str_injective.eq_iff] using same

/-- The identity fields change exactly when the history does. -/
theorem Recorded.changes_iff {store following : Metadata} {publications : List Publication}
    {publication : Publication} (before : Recorded store publications)
    (after : Recorded following (publication :: publications)) :
    identityRecord following = identityRecord store ↔
      (identities publications).head? = some publication.identity := by
  rw [after.record]
  cases publications with
  | nil =>
      have missing := before "embedding_model" (by decide)
      simp [identityRecord, missing, Identity.values, identities]
  | cons newest earlier =>
      rw [before.record]
      constructor
      · intro same
        rw [values_injective same]
        rfl
      · intro same
        have held : newest.identity = publication.identity := by simpa [identities] using same
        rw [held]

/-- The persisted epoch counts the changes of the identity fields. -/
structure CountsChanges (decimal : Decimals) (world following : World) : Prop where
  monotone : persistedEpoch decimal world.store ≤ persistedEpoch decimal following.store
  changed : identityRecord following.store ≠ identityRecord world.store →
    persistedEpoch decimal world.store < persistedEpoch decimal following.store
  kept : identityRecord following.store = identityRecord world.store →
    persistedEpoch decimal following.store = persistedEpoch decimal world.store

theorem moves_counts_changes {world following : World} (consistent : Consistent world)
    (moves : Moves decimal world following) : CountsChanges decimal world following := by
  have after := (moves_consistent consistent moves).recorded
  cases moves with
  | quiet record owners history =>
      have epoch : persistedEpoch decimal following.store = persistedEpoch decimal world.store := by
        rw [persistedEpoch, record _ (by decide), persistedEpoch]
      have fields : identityRecord following.store = identityRecord world.store := by
        rw [identityRecord, record _ (by decide), record _ (by decide), record _ (by decide),
          identityRecord]
      exact ⟨Int.le_of_eq epoch.symm, fun changed => absurd fields changed, fun _ => epoch⟩
  | publishes provider identity printable store owners history =>
      rw [history] at after
      have before := consistent.recorded
      have changes := before.changes_iff after
      have grown := epoch_le_cons identity (identities world.publications)
      have persisted : persistedEpoch decimal following.store =
          epoch (identity :: identities world.publications) := after.persisted
      refine ⟨?_, fun changed => ?_, fun kept => ?_⟩
      · rw [before.persisted, persisted]
        exact Int.ofNat_le.mpr grown
      · rw [before.persisted, persisted, epoch_change (mt changes.mpr changed)]
        exact Int.ofNat_lt.mpr (Nat.lt_succ_self _)
      · rw [before.persisted, persisted, epoch_repeat (changes.mp kept)]

/-! ## Fencing -/

/-- `own` is the last publication that provider `index` remembers. -/
structure LastPublication (publications : List Publication) (index : Nat)
    (later : List Publication) (own : Publication) (earlier : List Publication) : Prop where
  split : publications = later ++ own :: earlier
  owner : own.provider = some index
  last : ∀ publication ∈ later, publication.provider ≠ some index

/-- Another identity was published since the provider published its own. -/
def Superseded (publications : List Publication) (index : Nat) : Prop :=
  ∃ later own earlier, LastPublication publications index later own earlier ∧
    ∃ publication ∈ later, publication.identity ≠ own.identity

/-- The identity that a provider published last. -/
def Published (publications : List Publication) (index : Nat) (identity : Identity) : Prop :=
  ∃ later own earlier, LastPublication publications index later own earlier ∧
    own.identity = identity

/-- The check passes, with metadata checks on and a token of the provider's own
epoch. -/
def Passes (decimal : Decimals) (resolve : Path → Path) (world : World) (index : Nat)
    (admission current : Option Token) (readable : Bool) : Prop :=
  (∃ token, admission.or current = some token ∧
      token.epoch = (world.providers index).runtimeEpoch) ∧
    validateRuntimeIdentity decimal resolve (world.providers index) admission current false
      (runtimeMetadata world.store readable) = .ok ()

theorem LastPublication.own_epoch {publications : List Publication} {index : Nat}
    {later : List Publication} {own : Publication} {earlier : List Publication}
    (last : LastPublication publications index later own earlier) :
    ownEpoch publications index = some (epoch (identities (own :: earlier))) := by
  obtain ⟨rfl, owner, others⟩ := last
  induction later with
  | nil => simp [ownEpoch, owner]
  | cons publication later ih =>
      rw [List.cons_append, ownEpoch, if_neg (others publication (by simp))]
      exact ih fun other member => others other (by simp [member])

theorem LastPublication.fenced {publications : List Publication} {index : Nat}
    {later : List Publication} {own : Publication} {earlier : List Publication}
    (last : LastPublication publications index later own earlier) {other : Publication}
    (written : other ∈ later) (different : other.identity ≠ own.identity) :
    epoch (identities (own :: earlier)) < epoch (identities publications) := by
  rw [last.split, identities, identities, List.map_append, List.map_cons]
  exact epoch_lt_of_superseded (List.mem_map_of_mem written) different

theorem LastPublication.newest {publications : List Publication} {index : Nat}
    {later : List Publication} {own : Publication} {earlier : List Publication}
    (last : LastPublication publications index later own earlier)
    (current : epoch (identities (own :: earlier)) = epoch (identities publications)) :
    (identities publications).head? = some own.identity := by
  rw [last.split, identities, identities, List.map_append, List.map_cons] at current
  rw [last.split, identities, List.map_append, List.map_cons]
  exact head_of_epoch_eq current.symm

theorem validate_epoch_ok {provider : Provider} {token : Token} {metadata : Metadata}
    {epoch : Int} (passed : validateEpoch decimal provider token false metadata = .ok ())
    (own : token.epoch = some epoch) :
    pyInt decimal ((metadata "maintenance_epoch").getD "") = some epoch := by
  unfold validateEpoch at passed
  rw [if_pos ⟨rfl, .inl (by simp [own])⟩] at passed
  split at passed
  · cases passed
  · rename_i persisted read
    split at passed
    · cases passed
    · rename_i current
      rw [not_or, not_not, own] at current
      rw [read, ← current.1]

/-- A check that passes has compared the epochs. -/
theorem validate_runtime_identity_epoch {resolve : Path → Path} {provider : Provider}
    {admission current : Option Token} {allowMetadataMismatch : Bool} {metadata : Metadata}
    {token : Token}
    (passed : validateRuntimeIdentity decimal resolve provider admission current
      allowMetadataMismatch metadata = .ok ())
    (selected : admission.or current = some token) :
    validateEpoch decimal provider token allowMetadataMismatch metadata = .ok () := by
  rw [validateRuntimeIdentity, selected] at passed
  split at passed
  · rename_i chosen dbPath model same path config
    obtain rfl := Option.some.inj same
    cases checked : validateToken resolve provider token dbPath model with
    | error message =>
        rw [checked] at passed
        cases passed
    | ok expectedDim =>
        rw [checked] at passed
        cases compared : validateEpoch decimal provider token allowMetadataMismatch metadata with
        | error message =>
            simp [compared, bind, Except.bind] at passed
        | ok done => rfl
  · cases passed

/-- A provider that passes remembers the persisted epoch. -/
theorem Passes.current {resolve : Path → Path} {world : World} {index : Nat}
    {admission current : Option Token} {readable : Bool}
    (passes : Passes decimal resolve world index admission current readable)
    (consistent : Consistent world) {own : Nat}
    (remembered : ownEpoch world.publications index = some own) :
    own = epoch (identities world.publications) := by
  obtain ⟨⟨token, selected, carried⟩, passed⟩ := passes
  have runtime := consistent.owners index
  rw [remembered] at runtime
  have read : pyInt decimal ((runtimeMetadata world.store readable "maintenance_epoch").getD "") =
      some (own : Int) := by
    refine validate_epoch_ok (validate_runtime_identity_epoch passed selected) ?_
    exact carried.trans runtime
  have persisted : persistedEpoch decimal world.store =
      epoch (identities world.publications) := consistent.recorded.persisted
  cases readable with
  | false => cases read
  | true =>
      rw [runtimeMetadata, if_pos rfl] at read
      rcases held : world.store "maintenance_epoch" with _ | text
      · rw [held] at read
        cases read
      · have value : persistedEpoch decimal world.store = own := by
          rw [held, Option.getD_some] at read
          rw [persistedEpoch, held, Option.getD_some, read, Option.getD_some]
        exact Int.ofNat.inj (value.symm.trans persisted)

/-- The persisted epoch counts the identity changes; a superseded provider never
passes again before it publishes again; and providers that pass together published
the same identity. -/
theorem runtime_identity_fenced (decimal : Decimals) (resolve : Path → Path) {world : World}
    (reached : Reaches (step decimal) anyStep emptyWorld world) :
    (∀ action following, step decimal world action = some following →
      CountsChanges decimal world following) ∧
    (∀ index admission current readable, Superseded world.publications index →
      ¬Passes decimal resolve world index admission current readable) ∧
    (∀ first second firstIdentity secondIdentity firstAdmission firstCurrent firstReadable
        secondAdmission secondCurrent secondReadable,
      Published world.publications first firstIdentity →
      Published world.publications second secondIdentity →
      Passes decimal resolve world first firstAdmission firstCurrent firstReadable →
      Passes decimal resolve world second secondAdmission secondCurrent secondReadable →
      firstIdentity = secondIdentity) := by
  have consistent := reachable_consistent reached
  refine ⟨?_, ?_, ?_⟩
  · intro action following taken
    exact moves_counts_changes consistent (step_moves taken)
  · rintro index admission current readable ⟨later, own, earlier, last, other, written, different⟩
      passes
    exact absurd (passes.current consistent last.own_epoch)
      (Nat.ne_of_lt (last.fenced written different))
  · rintro first second _ _ _ _ _ _ _ _ ⟨_, own, _, last, rfl⟩ ⟨_, other, _, otherLast, rfl⟩
      passes otherPasses
    have newest := last.newest (passes.current consistent last.own_epoch)
    have otherNewest := otherLast.newest (otherPasses.current consistent otherLast.own_epoch)
    exact Option.some.inj (newest.symm.trans otherNewest)

def startProvider (index : Nat) (model : String) : List Action :=
  [.configure index (some "/profile/brain.db") (some model)
      (some { identifier := index, dimension := 384 }),
    .publish index (some 384) .returned]

def restoredSchedule : List Action :=
  startProvider 0 "all-MiniLM-L6-v2" ++ startProvider 1 "thenlper/gte-large" ++
    startProvider 2 "all-MiniLM-L6-v2"

def publicationOf (index : Nat) (model : String) : Publication where
  provider := some index
  identity := { model := model, dimension := 384, vecDimension := 384 }

def restoredToken (index : Nat) (epoch : Int) : Token where
  graphPath := some "/profile/brain.db"
  model := some "all-MiniLM-L6-v2"
  embeddingDim := some 384
  vecDim := some 384
  epoch := some epoch
  supervisor := some { identifier := index, dimension := 384 }

theorem restored_identity_stays_fenced :
    ∃ world, Superseded world.publications 0 ∧
      ¬Passes arabicDigits id world 0 (some (restoredToken 0 1)) none true ∧
      Passes arabicDigits id world 2 (some (restoredToken 2 3)) none true := by
  have reached := reaches_of_execute (step arabicDigits) emptyWorld restoredSchedule rfl
  have superseded : Superseded [publicationOf 2 "all-MiniLM-L6-v2",
      publicationOf 1 "thenlper/gte-large", publicationOf 0 "all-MiniLM-L6-v2"] 0 :=
    ⟨[_, _], _, [], ⟨rfl, rfl, by decide⟩, publicationOf 1 "thenlper/gte-large",
      by decide, by decide⟩
  exact ⟨_, superseded,
    (runtime_identity_fenced arabicDigits id reached).2.1 0 _ none true superseded,
    ⟨_, rfl, rfl⟩, rfl⟩

end HermesCashew.RuntimeIdentity
