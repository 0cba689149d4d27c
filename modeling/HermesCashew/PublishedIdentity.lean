import HermesCashew.RuntimeIdentity

/-!
# Who accepts a published identity

The cron script reads the record that `_write_runtime_identity` leaves behind with
`_runtime_epoch`, and asks for an epoch of at least one. The writer keeps whatever epoch it
finds under an unchanged identity, and zero for one that cannot be read.
-/

namespace HermesCashew.RuntimeIdentity

open HermesCashew.PythonInt

set_option autoImplicit false

/-- `_runtime_epoch` of the cron script. -/
def cronRuntimeEpoch (decimal : Decimals) (metadata : Metadata) (model : String)
    (dimension : Int) : Except String Int :=
  match (metadata "maintenance_epoch").bind (pyInt decimal),
      (metadata "embedding_dim").bind (pyInt decimal),
      (metadata "vec_dim").bind (pyInt decimal) with
  | some epoch, some embeddingDim, some vecDim =>
      if epoch < 1 ∨ metadata "embedding_model" ≠ some model ∨ embeddingDim ≠ dimension ∨
          vecDim ≠ dimension then
        .error "Cashew cron runtime identity is stale"
      else .ok epoch
  | _, _, _ => .error "Cashew cron runtime identity is incomplete"

/-- A provider of one model and dimension whose vec table, if any, has that dimension. -/
structure Publisher (provider : Provider) (vecDim : Option Int) (path : Path) (model : String)
    (dimension : Int) : Prop where
  dbPath : provider.dbPath = some path
  model : provider.embeddingModel = some model
  active : activeEmbeddingDimension provider = some dimension
  vec : vecDim = none ∨ vecDim = some dimension

structure Carries (resolve : Path → Path) (provider : Provider) (path : Path) (model : String)
    (dimension epoch : Int) (token : Token) : Prop where
  graphPath : token.graphPath = some (resolve path)
  model : token.model = some model
  embedding : token.embeddingDim = some dimension
  vec : token.vecDim = none ∨ token.vecDim = some dimension
  current : token.epoch = some epoch
  supervisor : token.supervisor.map (·.identifier) =
    provider.embeddingSupervisor.map (·.identifier)

def identityOf (model : String) (dimension : Int) : Identity where
  model := model
  dimension := dimension
  vecDimension := dimension

def previousEpoch (decimal : Decimals) (store : Metadata) : Option Int :=
  (store "maintenance_epoch").bind (pyInt decimal)

def Names (store : Metadata) (identity : Identity) : Prop :=
  ∀ row ∈ identity.values, store row.1 = some row.2

structure Usable (decimal : Decimals) (resolve : Path → Path) (provider : Provider)
    (path : Path) (model : String) (dimension : Int) (store : Metadata) (written : Written) :
    Prop where
  cron : cronRuntimeEpoch decimal written.store model dimension = .ok written.epoch
  positive : 1 ≤ written.epoch
  provider : ∀ token current,
    Carries resolve provider path model dimension written.epoch token →
      validateRuntimeIdentity decimal resolve
        { provider with runtimeEpoch := some written.epoch } (some token) current false
        written.store = .ok ()
  retained : previousEpoch decimal store = some written.epoch →
    Names store (identityOf model dimension) ∧ 1 ≤ written.epoch

/-- The record before a publication is sound for it. -/
def Sound (decimal : Decimals) (store : Metadata) (identity : Identity) : Prop :=
  (Names store identity → ∃ epoch, previousEpoch decimal store = some epoch ∧ 1 ≤ epoch) ∧
    (¬Names store identity → ∀ epoch, previousEpoch decimal store = some epoch → 0 ≤ epoch)

section

variable {decimal : Decimals} {resolve : Path → Path} {provider : Provider}
variable {vecDim : Option Int} {path : Path} {model : String} {dimension : Int}
variable {store : Metadata} {token : Token}

theorem persisted_epoch_eq (store : Metadata) :
    persistedEpoch decimal store = (previousEpoch decimal store).getD 0 := by
  unfold persistedEpoch previousEpoch
  cases store "maintenance_epoch" with
  | none => rfl
  | some text => rfl

theorem next_epoch_of_names {identity : Identity} (named : Names store identity) :
    nextEpoch decimal store identity = persistedEpoch decimal store := by
  have present : identityKeys.all (fun key => (store key).isNone) = false := by
    have model := named ("embedding_model", identity.model) (by simp [Identity.values])
    simp [identityKeys, model]
  unfold nextEpoch
  dsimp only
  rw [present, Bool.false_or, if_neg]
  · rfl
  · rw [List.any_eq_true]
    rintro ⟨⟨key, value⟩, member, differs⟩
    exact of_decide_eq_true differs (named (key, value) member)

theorem next_epoch_of_changed {identity : Identity} (changed : ¬Names store identity) :
    nextEpoch decimal store identity = persistedEpoch decimal store + 1 := by
  unfold nextEpoch
  dsimp only
  rw [if_pos]
  · rfl
  · simp only [Names, not_forall] at changed
    obtain ⟨⟨key, value⟩, member, differs⟩ := changed
    rw [Bool.or_eq_true, List.any_eq_true]
    exact .inr ⟨(key, value), member, decide_eq_true differs⟩

/-- The epoch that is published is positive exactly over a sound record. -/
theorem one_le_next_epoch_iff {identity : Identity} :
    1 ≤ nextEpoch decimal store identity ↔ Sound decimal store identity := by
  unfold Sound
  by_cases named : Names store identity
  · rw [next_epoch_of_names named, persisted_epoch_eq]
    cases previous : previousEpoch decimal store with
    | none => simp [named]
    | some epoch => simp [named]
  · rw [next_epoch_of_changed named, persisted_epoch_eq]
    cases previous : previousEpoch decimal store with
    | none => simp [named]
    | some epoch =>
        simp only [named, Option.getD_some, Option.some.injEq, false_imp_iff, true_and,
          not_false_eq_true, true_imp_iff, forall_eq']
        omega

theorem retained_of_same {identity : Identity}
    (same : previousEpoch decimal store = some (nextEpoch decimal store identity)) :
    Names store identity := by
  by_contra changed
  rw [next_epoch_of_changed changed, persisted_epoch_eq, same] at same
  simp only [Option.getD_some, Option.some.injEq] at same
  omega

def writtenOver (decimal : Decimals) (store : Metadata) (model : String) (dimension : Int) :
    Written where
  identity := identityOf model dimension
  epoch := nextEpoch decimal store (identityOf model dimension)
  store := replaceRows store ((identityOf model dimension).values ++
    [("maintenance_epoch", pyStr (nextEpoch decimal store (identityOf model dimension)))])

theorem publisher_writes (publisher : Publisher provider vecDim path model dimension)
    (store : Metadata) :
    writeRuntimeIdentity decimal provider vecDim store =
      if (identityOf model dimension).Printable
          (nextEpoch decimal store (identityOf model dimension)) then
        .ok (some (writtenOver decimal store model dimension))
      else .error digitsMessage := by
  have vec : vecDim.getD dimension = dimension := by
    rcases publisher.vec with absent | same
    · rw [absent]
      rfl
    · rw [same]
      rfl
  simp only [writeRuntimeIdentity, publisher.model, publisher.active, vec]
  rfl

structure Holds (store : Metadata) (model : String) (dimension epoch : Int) : Prop where
  model : store "embedding_model" = some model
  embedding : store "embedding_dim" = some (pyStr dimension)
  vec : store "vec_dim" = some (pyStr dimension)
  persisted : store "maintenance_epoch" = some (pyStr epoch)

theorem replaced_holds (store : Metadata) (model : String) (dimension epoch : Int) :
    Holds (replaceRows store
      ((identityOf model dimension).values ++ [("maintenance_epoch", pyStr epoch)]))
      model dimension epoch := by
  constructor <;> simp [replaceRows, Identity.values, identityOf]

theorem Holds.cron {epoch : Int} (holds : Holds store model dimension epoch)
    (shown : Printable dimension) (persisted : Printable epoch) :
    cronRuntimeEpoch decimal store model dimension = .ok epoch ↔ 1 ≤ epoch := by
  unfold cronRuntimeEpoch
  rw [holds.model, holds.embedding, holds.vec, holds.persisted]
  simp only [Option.bind_some, py_int_py_str decimal persisted, py_int_py_str decimal shown]
  by_cases small : epoch < 1
  · simp only [small, true_or, if_true]
    constructor
    · intro accepted
      cases accepted
    · intro positive
      omega
  · simp only [small, ne_eq, not_true, or_self, if_false, true_iff]
    omega

theorem owned_of_active (active : activeEmbeddingDimension provider = some dimension) :
    provider.embeddingSupervisor.isSome = true := by
  unfold activeEmbeddingDimension at active
  cases supervisor : provider.embeddingSupervisor with
  | none => simp [supervisor] at active
  | some owned => rfl

theorem Carries.token_valid {epoch : Int}
    (carries : Carries resolve provider path model dimension epoch token)
    (publisher : Publisher provider vecDim path model dimension) :
    validateToken resolve { provider with runtimeEpoch := some epoch } token path model =
      .ok (some dimension) := by
  have active : activeEmbeddingDimension { provider with runtimeEpoch := some epoch } =
      some dimension := publisher.active
  have owned := owned_of_active publisher.active
  simp only [validateToken, carries.graphPath, carries.model, carries.embedding,
    carries.current, carries.supervisor, active, owned]
  simp

theorem Holds.epoch_valid {epoch : Int} (holds : Holds store model dimension epoch)
    (printable : Printable epoch) (provider : Provider) (own : token.epoch = some epoch) :
    validateEpoch decimal { provider with runtimeEpoch := some epoch } token false store =
      .ok () := by
  simp [validateEpoch, holds.persisted, py_int_py_str decimal printable, own]

theorem Holds.record_valid {epoch : Int} (holds : Holds store model dimension epoch)
    (printable : Printable dimension) (vec : token.vecDim = none ∨ token.vecDim = some dimension) :
    validateRecord token model (some dimension) false store = .ok () := by
  have admitted : ¬(token.vecDim ≠ none ∧ token.vecDim ≠ some dimension) := by
    tauto
  simp [validateRecord, holds.model, holds.embedding, holds.vec, pyStrOption, printable]
  simpa using admitted

theorem Holds.validates {epoch : Int} (holds : Holds store model dimension epoch)
    (shown : Printable dimension) (persisted : Printable epoch)
    (publisher : Publisher provider vecDim path model dimension) (current : Option Token)
    (carries : Carries resolve provider path model dimension epoch token) :
    validateRuntimeIdentity decimal resolve { provider with runtimeEpoch := some epoch }
      (some token) current false store = .ok () := by
  have valid := carries.token_valid publisher
  have compared : validateEpoch decimal { provider with runtimeEpoch := some epoch } token false
      store = .ok () := holds.epoch_valid persisted provider carries.current
  simp only [publisher.dbPath, publisher.model] at valid compared
  simp only [validateRuntimeIdentity, Option.some_or, publisher.dbPath, publisher.model]
  rw [valid, compared]
  exact holds.record_valid shown carries.vec

/-- What is not positive after a publication was read before it. -/
theorem next_epoch_printable {identity : Identity}
    (small : nextEpoch decimal store identity < 1) :
    Printable (nextEpoch decimal store identity) := by
  have persisted : Printable (persistedEpoch decimal store) := by
    rw [persisted_epoch_eq]
    cases previous : previousEpoch decimal store with
    | none => decide
    | some epoch =>
        obtain ⟨text, _, read⟩ := Option.bind_eq_some_iff.mp previous
        exact read_printable read
  by_cases named : Names store identity
  · rw [next_epoch_of_names named]
    exact persisted
  · rw [next_epoch_of_changed named] at small ⊢
    exact printable_of_le (by omega) persisted

end

/-- The publications of a dimension that has a text are accepted by both readers exactly
over a sound record. -/
theorem published_identity_usable_iff (decimal : Decimals) (resolve : Path → Path)
    {provider : Provider} {vecDim : Option Int} {path : Path} {model : String}
    {dimension : Int} (publisher : Publisher provider vecDim path model dimension)
    (store : Metadata) :
    (∀ written, writeRuntimeIdentity decimal provider vecDim store = .ok (some written) →
        Usable decimal resolve provider path model dimension store written) ↔
      (Printable dimension → Sound decimal store (identityOf model dimension)) := by
  have wrote : writeRuntimeIdentity decimal provider vecDim store = _ :=
    publisher_writes publisher store
  constructor
  · intro usable shown
    refine one_le_next_epoch_iff.mp (Int.not_lt.mp fun small => ?_)
    have printable := next_epoch_printable small
    rw [if_pos ⟨shown, shown, printable⟩] at wrote
    exact absurd (usable _ wrote).positive (Int.not_le.mpr small)
  · intro sound written same
    rw [wrote] at same
    split at same
    · rename_i printable
      cases same
      have positive := one_le_next_epoch_iff.mpr (sound printable.1)
      have holds := replaced_holds store model dimension
        (nextEpoch decimal store (identityOf model dimension))
      refine ⟨(holds.cron printable.1 printable.2.2).mpr positive, positive, ?_, ?_⟩
      · intro token current carries
        exact holds.validates printable.1 printable.2.2 publisher current carries
      · intro retained
        exact ⟨retained_of_same retained, positive⟩
    · cases same

def zeroEpoch : Metadata := fun key =>
  if key = "embedding_model" then some "model-a"
  else if key = "maintenance_epoch" then some "0"
  else some "4"

def embedder : Provider where
  dbPath := some "brain.db"
  embeddingModel := some "model-a"
  embeddingSupervisor := some ⟨0, 4⟩

theorem embedder_publishes : Publisher embedder none "brain.db" "model-a" 4 :=
  ⟨rfl, rfl, rfl, .inl rfl⟩

def arabicEpoch : Metadata := fun key =>
  if key = "embedding_model" then some "model-a"
  else if key = "maintenance_epoch" then some "\u0663"
  else some "4"

set_option maxRecDepth 4000 in
theorem arabic_epoch_is_usable :
    writeRuntimeIdentity arabicDigits embedder none arabicEpoch =
        .ok (some (writtenOver arabicDigits arabicEpoch "model-a" 4)) ∧
      Usable arabicDigits id embedder "brain.db" "model-a" 4 arabicEpoch
        (writtenOver arabicDigits arabicEpoch "model-a" 4) := by
  have wrote : writeRuntimeIdentity arabicDigits embedder none arabicEpoch =
      .ok (some (writtenOver arabicDigits arabicEpoch "model-a" 4)) := by
    rw [publisher_writes embedder_publishes]
    exact if_pos (by decide)
  have named : Names arabicEpoch (identityOf "model-a" 4) := by
    unfold Names
    decide
  have sound : Sound arabicDigits arabicEpoch (identityOf "model-a" 4) :=
    ⟨fun _ => ⟨3, by decide, by decide⟩, fun changed => absurd named changed⟩
  exact ⟨wrote, (published_identity_usable_iff arabicDigits id embedder_publishes
    arabicEpoch).mpr (fun _ => sound) _ wrote⟩

set_option maxRecDepth 4000 in
/-- The zero is kept, and the cron script refuses the record from then on. -/
theorem zero_epoch_is_kept : ¬∀ (store : Metadata) (written : Written),
    writeRuntimeIdentity arabicDigits embedder none store = .ok (some written) →
      Usable arabicDigits id embedder "brain.db" "model-a" 4 store written := by
  intro usable
  have wrote : writeRuntimeIdentity arabicDigits embedder none zeroEpoch =
      .ok (some (writtenOver arabicDigits zeroEpoch "model-a" 4)) := by
    rw [publisher_writes embedder_publishes]
    exact if_pos (by decide)
  exact absurd (usable _ _ wrote).positive (by decide)

end HermesCashew.RuntimeIdentity
