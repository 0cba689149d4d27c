import HermesCashew.JsonDocument
import HermesCashew.PythonInt
import HermesCashew.Raising

/-!
# The provider's configuration

The settings of `cashew.json`, their validation, `save_config` and `load_config`. The
file system is what `Path.resolve` makes of a path, and how a write ends.
-/

namespace HermesCashew.Config

open HermesCashew.JsonDocument
open HermesCashew.JsonText (CodePoint Str str)
open HermesCashew.JsonNumber
open HermesCashew.Raising

set_option autoImplicit false

/-! ## Settings -/

/-- The keys of `DEFAULTS`, in its order. -/
inductive Key where
  | cashewDbPath
  | embeddingModel
  | embeddingDevice
  | recallK
  | syncQueueTimeout
  | userDomain
  | aiDomain
  | autoExtraction
  | thinkCycles
  | sleepCycles
  | llmAuxRole
  | thinkInterval
  | prefetchK
  | prefetchCues
  | sleepSchedule
  | sleepMaxNodes
  | features
  deriving DecidableEq, Repr

namespace Key

def all : List Key :=
  [.cashewDbPath, .embeddingModel, .embeddingDevice, .recallK, .syncQueueTimeout, .userDomain,
    .aiDomain, .autoExtraction, .thinkCycles, .sleepCycles, .llmAuxRole, .thinkInterval,
    .prefetchK, .prefetchCues, .sleepSchedule, .sleepMaxNodes, .features]

def text : Key → String
  | cashewDbPath => "cashew_db_path"
  | embeddingModel => "embedding_model"
  | embeddingDevice => "embedding_device"
  | recallK => "recall_k"
  | syncQueueTimeout => "sync_queue_timeout"
  | userDomain => "user_domain"
  | aiDomain => "ai_domain"
  | autoExtraction => "auto_extraction"
  | thinkCycles => "think_cycles"
  | sleepCycles => "sleep_cycles"
  | llmAuxRole => "llm_aux_role"
  | thinkInterval => "think_interval"
  | prefetchK => "prefetch_k"
  | prefetchCues => "prefetch_cues"
  | sleepSchedule => "sleep_schedule"
  | sleepMaxNodes => "sleep_max_nodes"
  | features => "_features"

def name (key : Key) : Str :=
  str key.text

end Key

/-- `float(value)` of a small natural number, for the defaults. -/
def wholeFloat (value : Nat) : Value :=
  .float (ofInt value)

def defaults : Key → Value
  | .cashewDbPath => .str (str "cashew/brain.db")
  | .embeddingModel => .str (str "thenlper/gte-large")
  | .embeddingDevice => .str (str "cpu")
  | .recallK => .int 5
  | .syncQueueTimeout => wholeFloat 30
  | .userDomain => .str (str "user")
  | .aiDomain => .str (str "ai")
  | .autoExtraction => .bool true
  | .thinkCycles => .bool true
  | .sleepCycles => .bool true
  | .llmAuxRole => .str (str "memory")
  | .thinkInterval => .int 10
  | .prefetchK => .int 3
  | .prefetchCues => .int 3
  | .sleepSchedule => .str (str "every 12h")
  | .sleepMaxNodes => .int 2000
  | .features => .dict [(str "experimental_batch_sync", .bool false)]

def removedLegacyConfigKeys : List Str :=
  ["default_domain", "auto_classify", "domain_classifications", "domain_separation_enabled",
    "token_budget", "walk_depth", "similarity_threshold", "access_weight", "temporal_weight",
    "clustering_eps", "clustering_min_samples", "novelty_threshold", "max_think_iterations",
    "think_cycle_nodes", "gc_mode", "gc_threshold", "gc_grace_days", "gc_protect_types",
    "gc_think_cycle_penalty", "decay_pruning", "pattern_detection"].map str

structure CashewConfig where
  setting : Key → Value

/-- A Python object that a caller gives for a setting. -/
inductive Given where
  | json (value : Value)
  /-- A `dict` that no JSON object stands for; `named` when its names are non-empty strings. -/
  | mapping (named : Bool)
  | object

inductive Error where
  /-- `ValueError(f"{key} must be {expectation}")`. -/
  | invalidValue (key : Key) (expectation : String)
  | absolutePath (value : Str)
  | outsideHome (value : Str)
  /-- What `Path.resolve` raises. -/
  | unresolved (valueError : Bool)
  | overflow
  | undecodable
  /-- What `json.loads` raises. -/
  | notJson (failure : Failure)
  | notObject
  | invalidBoolean
  | invalidNumber
  | osError
  deriving DecidableEq, Repr

/-- `isinstance(error, ValueError)`. -/
def Error.isValueError : Error → Bool
  | .unresolved valueError => valueError
  | .overflow | .osError | .notJson .recursion => false
  | _ => true

/-- The interpreter: for how many arrays and objects inside each other `json` has room, the
decimal digits of Unicode beyond ASCII, and `json.loads` of a text with a lone surrogate. -/
structure Python where
  nesting : Nat
  decimal : PythonInt.Decimals
  loadsSurrogates : Str → Except Failure Value

/-! ## Validation -/

abbrev Path := List Str

/-- A Hermes home, and where the links of the file system lead. -/
structure Home where
  path : Path
  /-- `Path.resolve`, with `true` for a `ValueError`. -/
  resolve : Path → Except Bool Path

def slash : CodePoint := 0x2f

def components (value : Str) : Path :=
  (value.splitOn slash).filter fun part => part ≠ [] ∧ part ≠ str "."

def Home.resolved (home : Home) (path : Path) : Except Error Path :=
  (home.resolve path).mapError Error.unresolved

def resolveDbPath (home : Home) (value : Str) : Except Error Path :=
  if value.head? = some slash then .error (.absolutePath value)
  else do
    let root ← home.resolved home.path
    let candidate ← home.resolved (root ++ components value)
    if root.isPrefixOf candidate then .ok candidate else .error (.outsideHome value)

/-- `not value.strip()`. -/
def blank (value : Str) : Bool :=
  value.all fun point => PythonInt.isSpace (Char.ofNat point.val)

def validateNonemptyString (key : Key) : Given → Except Error Str
  | .json (.str value) =>
      if blank value then .error (.invalidValue key "a non-empty string") else .ok value
  | _ => .error (.invalidValue key "a non-empty string")

def countRange : Key → Int × Int
  | .recallK => (1, 20)
  | .thinkInterval => (0, 10000)
  | .prefetchK => (1, 20)
  | .prefetchCues => (0, 20)
  | .sleepMaxNodes => (1, 2000)
  | _ => (0, 0)

def countExpectation (key : Key) : String :=
  "an integer from " ++ PythonInt.pyStr (countRange key).1 ++ " to " ++
    PythonInt.pyStr (countRange key).2

def validateCount (key : Key) : Given → Except Error Value
  | .json (.int value) =>
      if (countRange key).1 ≤ value ∧ value ≤ (countRange key).2 then .ok (.int value)
      else .error (.invalidValue key (countExpectation key))
  | _ => .error (.invalidValue key (countExpectation key))

/-- `0 <= value <= 300`. -/
def withinTimeout (value : Finite) : Bool :=
  (!value.negative || value.magnitude = 0) && value.magnitude ≤ 300 * scale

def timeoutError : Error :=
  .invalidValue .syncQueueTimeout "a finite number from 0 to 300"

def isFinite : PyFloat → Bool
  | .finite _ => true
  | _ => false

/-- `math.isfinite` turns an integer into a float first. -/
def validateTimeout : Given → Except Error Value
  | .json (.int value) =>
      if isFinite (ofInt value) = false then .error .overflow
      else if 0 ≤ value ∧ value ≤ 300 then .ok (.float (ofInt value))
      else .error timeoutError
  | .json (.float (.finite value)) =>
      if withinTimeout value then .ok (.float (.finite value)) else .error timeoutError
  | _ => .error timeoutError

def isBool : Value → Bool
  | .bool _ => true
  | _ => false

def parallelRetrieval : Str := str "experimental_parallel_retrieval"

def featuresError (expectation : String) : Error :=
  .invalidValue .features expectation

def validateFeatures : Given → Except Error Value
  | .json (.dict items) =>
      if items.any fun entry => entry.1 = [] then
        .error (featuresError "an object with non-empty string flag names")
      else if items.any fun entry => !isBool entry.2 then
        .error (featuresError "an object of boolean feature flags")
      else
        .ok (.dict (SortedDict.ofEntries (items.filter fun entry => entry.1 ≠ parallelRetrieval)))
  | .mapping false => .error (featuresError "an object with non-empty string flag names")
  | .mapping true => .error (featuresError "an object of boolean feature flags")
  | _ => .error (featuresError "a JSON object of boolean feature flags")

def validateField (home : Home) (key : Key) (given : Given) : Except Error Value :=
  match key with
  | .cashewDbPath => do
      let value ← validateNonemptyString key given
      let _ ← resolveDbPath home value
      .ok (.str value)
  | .embeddingModel | .embeddingDevice | .userDomain | .aiDomain =>
      (validateNonemptyString key given).map Value.str
  | .llmAuxRole =>
      match given with
      | .json .none => .ok .none
      | .json (.str value) => .ok (.str value)
      | _ => .error (.invalidValue key "a string, empty string, or null")
  | .sleepSchedule =>
      match given with
      | .json (.str value) => .ok (.str value)
      | _ => .error (.invalidValue key "a string")
  | .autoExtraction | .thinkCycles | .sleepCycles =>
      match given with
      | .json (.bool value) => .ok (.bool value)
      | _ => .error (.invalidValue key "a boolean")
  | .recallK | .thinkInterval | .prefetchK | .prefetchCues | .sleepMaxNodes =>
      validateCount key given
  | .syncQueueTimeout => validateTimeout given
  | .features => validateFeatures given

def failure : Except Error Value → Option Error
  | .ok _ => none
  | .error error => some error

/-- One value for every key of `DEFAULTS`, or the first error. -/
def collect (compute : Key → Except Error Value) : Except Error (Key → Value) :=
  match Key.all.findSome? fun key => failure (compute key) with
  | some error => .error error
  | none => .ok fun key => (compute key).toOption.getD .none

def validateConfigValues (home : Home) (values : Key → Given) : Except Error (Key → Value) :=
  collect fun key => validateField home key (values key)

/-! ## The file -/

inductive Content where
  | unreadable
  | undecodable
  | text (text : List Char)

/-- `cashew.json`, `none` when it does not exist. -/
abbrev File := Option Content

abbrev Items := List (Str × Value)

inductive Disk where
  | writes
  | refuses
  /-- The file is replaced, and the directory cannot be synchronised. -/
  | unsynchronised
  deriving DecidableEq, Repr

def lift {State Result : Type} (result : Except Error Result) : Block State Error Result :=
  fun state => (result, state)

def parse (python : Python) : Content → Except Error Items
  | .unreadable => .error .osError
  | .undecodable => .error .undecodable
  | .text text =>
      match loads python.nesting text with
      | .error failure => .error (.notJson failure)
      | .ok (.dict items) => .ok items
      | .ok _ => .error .notObject

def readExistingConfig (python : Python) (file : File) : Except Error Items :=
  match file with
  | none => .ok []
  | some content => parse python content

def atomicWriteConfig (disk : Disk) (contents : List Char) : Block File Error Unit :=
  fun file =>
    match disk with
    | .writes => (.ok (), some (.text contents))
    | .refuses => (.error .osError, file)
    | .unsynchronised => (.error .osError, some (.text contents))

abbrev Values := Str → Option Given

def entries (settings : Key → Value) : Items :=
  Key.all.map fun key => (key.name, settings key)

def settingItems (settings : Key → Value) : Items :=
  SortedDict.ofEntries (entries settings)

def defaultItems : Items :=
  settingItems defaults

/-- The value of `merged` for a key once the known `values` are put in. -/
def mergedSetting (merged : Items) (values : Values) (key : Key) : Given :=
  (values key.name).getD (.json ((SortedDict.get key.name merged).getD .none))

def withoutLegacy (items : Items) : Items :=
  items.filter fun entry => entry.1 ∉ removedLegacyConfigKeys

def saveConfig (python : Python) (home : Home) (disk : Disk) (values : Values) :
    Block File Error Unit := do
  let raw ← fun file => (readExistingConfig python file, file)
  let merged := SortedDict.update defaultItems (withoutLegacy raw)
  let validated ← lift (validateConfigValues home (mergedSetting merged values))
  let contents := dumps indented (.dict (SortedDict.update merged (settingItems validated)))
  atomicWriteConfig disk (contents ++ ['\n'])

/-! ## Loading -/

abbrev Environ := String → Option Str

def envVarName (key : Key) : String :=
  let suffix := if "cashew_".isPrefixOf key.text then key.text.drop 7 else key.text
  "CASHEW_" ++ suffix.toString.toUpper

def isSurrogate (point : CodePoint) : Bool :=
  0xd800 ≤ point.val && point.val < 0xe000

def plainChars (value : Str) : List Char :=
  value.map fun point => if isSurrogate point then 'q' else Char.ofNat point.val

def lower (text : List Char) : List Char :=
  text.map Char.toLower

/-- `json.loads` of an environment variable. -/
def loadsText (python : Python) (value : Str) : Except Failure Value :=
  if value.any isSurrogate then python.loadsSurrogates value
  else loads python.nesting (plainChars value)

/-- Parses one `CASHEW_*` override. -/
def coerceEnvironmentValue (python : Python) (key : Key) (value : Str) : Except Error Given :=
  match key with
  | .autoExtraction | .thinkCycles | .sleepCycles =>
      let normalized := String.ofList (lower (PythonInt.strip (plainChars value)))
      if normalized ∈ ["1", "true", "yes", "on"] then .ok (.json (.bool true))
      else if normalized ∈ ["0", "false", "no", "off"] then .ok (.json (.bool false))
      else .error .invalidBoolean
  | .recallK | .thinkInterval | .prefetchK | .prefetchCues | .sleepMaxNodes =>
      match PythonInt.pyInt python.decimal (String.ofList (plainChars value)) with
      | some count => .ok (.json (.int count))
      | none => .error .invalidNumber
  | .syncQueueTimeout =>
      match parseFloat (lower (PythonInt.numeral python.decimal (plainChars value))) with
      | some timeout => .ok (.json (.float timeout))
      | none => .error .invalidNumber
  | .features =>
      match loadsText python value with
      | .ok (.dict items) => .ok (.json (.dict items))
      | .ok _ => .error .notObject
      | .error failure => .error (.notJson failure)
  | _ => .ok (.json (.str value))

def overrideValue (python : Python) (home : Home) (key : Key) (text : Str) :
    Except Error Value := do
  let candidate ← coerceEnvironmentValue python key text
  validateField home key candidate

/-- A setting after its override; a `ValueError` leaves it as it is. -/
def overrideSetting (python : Python) (home : Home) (environ : Environ) (key : Key)
    (current : Value) : Except Error Value :=
  match environ (envVarName key) with
  | none => .ok current
  | some text =>
      match overrideValue python home key text with
      | .ok value => .ok value
      | .error error => if error.isValueError then .ok current else .error error

def loadConfig (python : Python) (home : Home) (environ : Environ) (file : File) :
    Except Error CashewConfig := do
  let raw ← readExistingConfig python file
  let merged := SortedDict.update defaultItems raw
  let known ← collect fun key =>
    overrideSetting python home environ key ((SortedDict.get key.name merged).getD .none)
  let settings ← validateConfigValues home fun key => .json (known key)
  .ok ⟨settings⟩

/-- No `CASHEW_*` variable is set. -/
def noOverrides : Environ := fun _ => none

/-! ## Names -/

namespace Key

theorem mem_all (key : Key) : key ∈ all := by
  cases key <;> decide

theorem name_injective : Function.Injective name := by
  have apart : ∀ first ∈ all, ∀ second ∈ all, first.name = second.name → first = second := by
    decide +kernel
  intro first second
  exact apart first first.mem_all second second.mem_all

theorem name_joined (key : Key) : Joined key.name := by
  cases key <;> decide

theorem name_not_legacy (key : Key) : key.name ∉ removedLegacyConfigKeys := by
  cases key <;> decide

end Key

theorem entries_distinct (settings : Key → Value) : SortedDict.Distinct (entries settings) := by
  have distinct : Key.all.Pairwise fun first second => first.name ≠ second.name := by
    have different : Key.all.Pairwise fun first second => first ≠ second := by decide
    exact List.Pairwise.imp (fun apart same => apart (Key.name_injective same)) different
  exact List.Pairwise.map _ (fun _ _ different => different) distinct

@[simp] theorem get_setting_items (settings : Key → Value) (key : Key) :
    SortedDict.get key.name (settingItems settings) = some (settings key) := by
  rw [settingItems, SortedDict.get_of_entries (entries_distinct settings)]
  apply SortedDict.get_of_mem (entries_distinct settings)
  exact List.mem_map.mpr ⟨key, key.mem_all, rfl⟩

theorem get_setting_items_unknown (settings : Key → Value) {name : Str}
    (unknown : ∀ key : Key, key.name ≠ name) :
    SortedDict.get name (settingItems settings) = none := by
  rw [settingItems, SortedDict.get_of_entries (entries_distinct settings)]
  apply SortedDict.get_eq_none
  intro entry member
  obtain ⟨key, -, rfl⟩ := List.mem_map.mp member
  exact unknown key

/-! ## Validation -/

theorem collect_ok_iff {compute : Key → Except Error Value} {settings : Key → Value} :
    collect compute = .ok settings ↔ ∀ key, compute key = .ok (settings key) := by
  unfold collect
  constructor
  · intro collected key
    split at collected
    · cases collected
    · rename_i failure_free
      obtain rfl := Except.ok.inj collected
      have fine := List.findSome?_eq_none_iff.mp failure_free key key.mem_all
      change compute key = .ok ((compute key).toOption.getD .none)
      cases outcome : compute key with
      | ok value => rfl
      | error error =>
          rw [outcome] at fine
          cases fine
  · intro fine
    have failure_free : (Key.all.findSome? fun key => failure (compute key)) = none := by
      apply List.findSome?_eq_none_iff.mpr
      intro key _
      rw [fine key]
      rfl
    rw [failure_free]
    apply congrArg Except.ok
    funext key
    rw [fine key]
    rfl

theorem validate_config_values_iff {home : Home} {values : Key → Given}
    {settings : Key → Value} :
    validateConfigValues home values = .ok settings ↔
      ∀ key, validateField home key (values key) = .ok (settings key) :=
  collect_ok_iff

theorem validate_nonempty_string_ok {key : Key} {given : Given} {value : Str}
    (accepted : validateNonemptyString key given = .ok value) :
    given = .json (.str value) ∧ blank value = false := by
  unfold validateNonemptyString at accepted
  split at accepted
  · split at accepted
    · cases accepted
    · rename_i text solid
      obtain rfl := Except.ok.inj accepted
      exact ⟨rfl, Bool.eq_false_iff.mpr solid⟩
  · cases accepted

theorem validate_count_ok {key : Key} {given : Given} {value : Value}
    (accepted : validateCount key given = .ok value) :
    ∃ count : Int, value = .int count ∧ given = .json (.int count) ∧
      (countRange key).1 ≤ count ∧ count ≤ (countRange key).2 := by
  unfold validateCount at accepted
  split at accepted
  · rename_i count
    split at accepted
    · rename_i inside
      obtain rfl := Except.ok.inj accepted
      exact ⟨count, rfl, rfl, inside⟩
    · cases accepted
  · cases accepted

theorem within_timeout_of_bounds {value : Finite} (positive : value.negative = false)
    (bound : value.magnitude ≤ 300 * scale) : withinTimeout value = true := by
  unfold withinTimeout
  rw [positive, decide_eq_true bound]
  rfl

theorem validate_timeout_whole {whole : Int} (lower : 0 ≤ whole) (upper : whole ≤ 300) :
    ∃ timeout, ofInt whole = .finite timeout ∧ withinTimeout timeout = true := by
  refine ⟨_, of_int_small (by omega), ?_⟩
  apply within_timeout_of_bounds
  · exact decide_eq_false (by omega)
  · exact Nat.mul_le_mul_right scale (by omega)

theorem validate_timeout_int_ok {whole : Int} {value : Value}
    (accepted : validateTimeout (.json (.int whole)) = .ok value) :
    ∃ timeout, value = .float (.finite timeout) ∧ withinTimeout timeout = true := by
  rw [validateTimeout] at accepted
  split at accepted
  · cases accepted
  · split at accepted
    · rename_i inside
      obtain ⟨timeout, same, within_⟩ := validate_timeout_whole inside.1 inside.2
      rw [same] at accepted
      exact ⟨timeout, (Except.ok.inj accepted).symm, within_⟩
    · cases accepted

end HermesCashew.Config
